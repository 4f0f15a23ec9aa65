import WarmStorage.Proofs.Proving.Settlement

/-!
Counting paid epochs without wrapping. The exact evaluation takes the same steps as the count, but
no sum or difference in it may wrap, and it stops exactly where the count breaks down. The count
never does where periods have a length. Where they have none, every epoch lies in no period, and
the period after that one is no word.
-/

namespace WarmStorage

namespace Schedule

variable {s : Schedule} {epoch : Epoch} {q : UInt64}

def exactPeriodContaining? (s : Schedule) (epoch : Epoch) : Option UInt64 :=
  if s.covers epoch then
    (Word.exactSub? epoch s.activation).map fun d => Word.clampSub d 1 / s.params.periodLength
  else some noPeriod

theorem exactPeriodContaining?_eq :
    s.exactPeriodContaining? epoch = some (s.periodContaining epoch) := by
  unfold exactPeriodContaining? periodContaining
  split
  · rename_i h
    rw [Word.exactSub?_eq (UInt64.le_iff_toNat_le.mpr (covers_iff.mp h).2.1), Option.map_some]
  · rfl

theorem periodContaining_of_length_zero (h : s.params.periodLength = 0) :
    s.periodContaining epoch = noPeriod := by
  rw [periodContaining, covers, h]
  simp

theorem deadline_of_length_zero (h : s.params.periodLength = 0) :
    s.deadline q = s.activation := by
  have := s.activation.toNat_lt
  rw [← UInt64.toNat_inj, toNat_deadline, h, UInt64.toNat_zero]
  omega

end Schedule

namespace ProvenPeriods

variable {s : ProvenPeriods} {start stop : UInt64}

def exactMaskWithin? (first last i : UInt64) : Option UInt64 :=
  let low := if i = first / 64 then Word.largest <<< (first % 64) else Word.largest
  if i = last / 64 then
    (Word.exactSub? 63 (last % 64)).map fun unused => low &&& (Word.largest >>> unused)
  else some (low &&& Word.largest)

theorem exactMaskWithin?_eq {first last i : UInt64} :
    exactMaskWithin? first last i = some (maskWithin first last i) := by
  have hle : last % 64 ≤ 63 := by
    rw [UInt64.le_iff_toNat_le]
    exact Nat.le_of_lt_succ (toNat_mod_lt last)
  unfold exactMaskWithin? maskWithin
  rw [Word.exactSub?_eq hle]
  by_cases hi : i = last / 64
  · simp only [if_pos hi, Option.map_some]
  · simp only [if_neg hi]

def exactCountIn? (s : ProvenPeriods) (start stop : UInt64) : Option UInt64 :=
  if stop ≤ start then some 0
  else do
    let last ← Word.exactSub? stop 1
    s.words.foldlM (fun sum i w =>
      if start / 64 ≤ i && i ≤ last / 64 then do
        let mask ← exactMaskWithin? start last i
        Word.exactAdd? sum (Word.bitCount (w &&& mask))
      else some sum) 0

theorem foldlM_exactAdd?_eq {α : Type} (f : α → UInt64) (l : List α) (init : UInt64)
    (h : init.toNat + (l.map fun a => (f a).toNat).sum < 18446744073709551616) :
    l.foldlM (fun sum a => Word.exactAdd? sum (f a)) init =
      some (l.foldl (fun sum a => sum + f a) init) := by
  induction l generalizing init with
  | nil => rfl
  | cons a l ih =>
    rw [List.map_cons, List.sum_cons] at h
    have hsum : init.toNat + (f a).toNat < 18446744073709551616 := by omega
    rw [List.foldlM_cons, Word.exactAdd?_eq hsum, List.foldl_cons]
    apply ih
    rw [UInt64.toNat_add, Nat.mod_eq_of_lt hsum]
    omega

theorem exactCountIn?_eq : s.exactCountIn? start stop = some (s.countIn start stop) := by
  unfold exactCountIn?
  split
  · rename_i h
    rw [countIn, if_pos h]
  · rename_i h
    rw [UInt64.not_le] at h
    have hlt := UInt64.lt_iff_toNat_lt.mp h
    have hone : 1 ≤ stop := by
      rw [UInt64.le_iff_toNat_le, UInt64.toNat_one]
      omega
    have hstep : ∀ (sum : UInt64) (entry : UInt64 × UInt64),
        (if start / 64 ≤ entry.1 && entry.1 ≤ (stop - 1) / 64 then
          (exactMaskWithin? start (stop - 1) entry.1).bind fun mask =>
            Word.exactAdd? sum (Word.bitCount (entry.2 &&& mask))
        else some sum) = Word.exactAdd? sum (countWithin start stop entry) := by
      intro sum entry
      rw [exactMaskWithin?_eq, Option.bind_some, countWithin]
      split
      · rfl
      · rw [Word.exactAdd?_eq, UInt64.add_zero]
        rw [UInt64.toNat_zero, Nat.add_zero]
        exact sum.toNat_lt
    have hsum := s.sum_countWithin h
    have hle := s.card_periodsIn_le start.toNat stop.toNat
    have hfit := stop.toNat_lt
    rw [Word.exactSub?_eq hone, Option.bind_eq_bind, Option.bind_some,
      Std.ExtTreeMap.foldlM_eq_foldlM_toList]
    simp only [hstep]
    rw [foldlM_exactAdd?_eq, countIn_eq_foldl h]
    rw [hsum, UInt64.toNat_zero]
    omega

end ProvenPeriods

structure ProvenEpochs.InRange (r : ProvenEpochs) (after upTo : Epoch) : Prop where
  count_le : r.count ≤ upTo - after
  le_settleUpTo : after ≤ r.settleUpTo
  settleUpTo_le : r.settleUpTo ≤ upTo

namespace ProvingState

variable {p : ProvingState} {after upTo current : Epoch} {first last : UInt64}

def exactInPeriod? (s : ProvingState) (period after upTo : UInt64) : Option ProvenEpochs :=
  if s.isPeriodProven period then (Word.exactSub? upTo after).map (⟨·, upTo⟩)
  else some ⟨0, after⟩

def exactRest? (s : ProvingState) (period after : UInt64) : Option UInt64 :=
  if s.isPeriodProven period then Word.exactSub? (s.schedule.deadline period) after else some 0

def exactAcross? (s : ProvingState) (first last after upTo : UInt64) :
    Option (Except SettlementError ProvenEpochs) := do
  let start ← s.exactRest? first after
  let next ← Word.exactAdd? first 1
  let whole ← s.proven.exactCountIn? next last
  match (Word.exactMul? whole s.params.periodLength).bind (Word.exactAdd? · start) with
  | none => some (.error .provenEpochsOverflow)
  | some count =>
    let previous ← Word.exactSub? last 1
    let settled := s.schedule.deadline previous
    if s.isPeriodProven last then
      let rest ← Word.exactSub? upTo settled
      let count ← Word.exactAdd? count rest
      return .ok ⟨count, upTo⟩
    else return .ok ⟨count, settled⟩

/-- The exact evaluation of `provenEpochs`. -/
def exactProvenEpochs? (s : ProvingState) (after upTo current : Epoch) :
    Option (Except SettlementError ProvenEpochs) :=
  if upTo < s.activation then some (.error (.beforeActivation upTo s.activation))
  else if current < upTo then some (.error (.inFuture upTo current))
  else do
    let after := max after (Word.clampSub s.activation 1)
    let next ← Word.exactAdd? after 1
    let first ← s.schedule.exactPeriodContaining? next
    if upTo ≤ s.schedule.deadline first then (s.exactInPeriod? first after upTo).map .ok
    else
      let last ← s.schedule.exactPeriodContaining? upTo
      s.exactAcross? first last after upTo

/-- An answer, unless the program broke down. -/
def unbroken? {α : Type} : Except SettlementError α → Option (Except SettlementError α)
  | .error (.breakdown _) => none
  | answer => some answer

theorem unbroken?_eq_none_iff {α : Type} {answer : Except SettlementError α} :
    unbroken? answer = none ↔ ∃ operation, answer = .error (.breakdown operation) := by
  unfold unbroken?
  split
  · simp
  · rename_i hne
    simp only [reduceCtorEq, false_iff, not_exists]
    exact hne

theorem unbroken?_eq_some {α : Type} {answer : Except SettlementError α}
    (h : ∀ operation, answer ≠ .error (.breakdown operation)) :
    unbroken? answer = some answer := by
  unfold unbroken?
  split
  · exact absurd rfl (h _)
  · rfl

theorem unbroken?_orBreakdown {α : Type} {operation : String} {w : Option UInt64}
    {f : UInt64 → Except SettlementError α} :
    unbroken? (Word.orBreakdown operation w >>= f) = w.bind fun w => unbroken? (f w) := by
  cases w with
  | none => rfl
  | some w => rfl

theorem unbroken?_sum {α : Type} {a b : UInt64} {f : UInt64 → Except SettlementError α} :
    unbroken? (Word.sum a b >>= f) = (Word.exactAdd? a b).bind fun w => unbroken? (f w) :=
  unbroken?_orBreakdown

theorem unbroken?_difference {α : Type} {a b : UInt64}
    {f : UInt64 → Except SettlementError α} :
    unbroken? (Word.difference a b >>= f) =
      (Word.exactSub? a b).bind fun w => unbroken? (f w) :=
  unbroken?_orBreakdown

theorem unbroken?_provenInPeriod {period : UInt64} :
    unbroken? (p.provenInPeriod period after upTo) =
      (p.exactInPeriod? period after upTo).map .ok := by
  unfold provenInPeriod exactInPeriod?
  split
  · rw [unbroken?_difference, Option.map_map]
    cases Word.exactSub? upTo after with
    | none => rfl
    | some count => rfl
  · rfl

theorem unbroken?_provenRest {α : Type} {period : UInt64}
    {f : UInt64 → Except SettlementError α} :
    unbroken? (p.provenRest period after >>= f) =
      (p.exactRest? period after).bind fun start => unbroken? (f start) := by
  unfold provenRest exactRest?
  split
  · exact unbroken?_difference
  · rfl

theorem unbroken?_provenAcross : unbroken? (p.provenAcross first last after upTo) =
    p.exactAcross? first last after upTo := by
  unfold provenAcross exactAcross?
  simp only [unbroken?_provenRest, unbroken?_sum, ProvenPeriods.exactCountIn?_eq,
    Option.bind_eq_bind, Option.bind_some]
  congr! 4 with start next
  cases (Word.exactMul? _ p.params.periodLength).bind (Word.exactAdd? · start) with
  | none => rfl
  | some count =>
    simp only [unbroken?_difference]
    congr! 2 with previous
    split
    · simp only [unbroken?_difference, unbroken?_sum]
      rfl
    · rfl

/-- The exact evaluation stops where the program breaks down, and only there. -/
theorem unbroken?_provenEpochs : unbroken? (p.provenEpochs after upTo current) =
    p.exactProvenEpochs? after upTo current := by
  unfold provenEpochs exactProvenEpochs?
  split
  · rfl
  split
  · rfl
  simp only [unbroken?_sum, Schedule.exactPeriodContaining?_eq, Option.bind_eq_bind,
    Option.bind_some]
  congr! 2 with next
  split
  · exact unbroken?_provenInPeriod
  · exact unbroken?_provenAcross

/-- A range past the activation of periods that have no length. -/
structure Unperiodic (p : ProvingState) (upTo current : Epoch) : Prop where
  active : p.activation ≠ 0
  length_eq : p.params.periodLength = 0
  activation_lt : p.activation < upTo
  le : upTo ≤ current

theorem Unperiodic.provenEpochs_eq (h : p.Unperiodic upTo current) :
    ∃ operation, p.provenEpochs after upTo current = .error (.breakdown operation) := by
  have hlen : p.schedule.params.periodLength = 0 := h.length_eq
  have hnext : Word.exactAdd? noPeriod 1 = none := Word.exactAdd?_eq_none (by decide)
  have hdeadline : p.schedule.deadline noPeriod = p.activation :=
    Schedule.deadline_of_length_zero hlen
  rw [← unbroken?_eq_none_iff, unbroken?_provenEpochs]
  unfold exactProvenEpochs? exactAcross?
  rw [if_neg (UInt64.not_lt.mpr (UInt64.le_of_lt h.activation_lt)),
    if_neg (UInt64.not_lt.mpr h.le)]
  simp only [Schedule.exactPeriodContaining?_eq, Schedule.periodContaining_of_length_zero hlen,
    hdeadline, if_neg (UInt64.not_le.mpr h.activation_lt), hnext, Option.bind_eq_bind,
    Option.bind_some, Option.bind_none, Option.bind_fun_none]

theorem provenEpochs_of_length_zero (active : p.activation ≠ 0)
    (hlen : p.params.periodLength = 0) (hlt : after < upTo) (heq : upTo = p.activation)
    (hcurrent : upTo ≤ current) : p.provenEpochs after upTo current = .ok
      (if p.isPeriodProven noPeriod then ⟨upTo - p.base after, upTo⟩ else ⟨0, p.base after⟩) := by
  have hschedule : p.schedule.params.periodLength = 0 := hlen
  have hbase : max after (Word.clampSub p.activation 1) = p.base after := rfl
  have hnext := base_lt active hlt (UInt64.le_of_eq heq.symm)
  have hdeadline : upTo ≤ p.schedule.deadline noPeriod := by
    rw [Schedule.deadline_of_length_zero hschedule]
    exact UInt64.le_of_eq heq
  unfold provenEpochs
  rw [if_neg (UInt64.not_lt.mpr (UInt64.le_of_eq heq.symm)), if_neg (UInt64.not_lt.mpr hcurrent)]
  simp only [hbase, Schedule.periodContaining_of_length_zero hschedule, bind, Except.bind,
    Word.sum_one_eq hnext, if_pos hdeadline, provenInPeriod_of_le (UInt64.le_of_lt hnext)]

theorem sub_base_le (hlt : p.base after < upTo) : upTo - p.base after ≤ upTo - after := by
  have hmono := p.le_base after
  have hle := UInt64.le_of_lt hlt
  rw [UInt64.le_iff_toNat_le, UInt64.toNat_sub_of_le _ _ hle,
    UInt64.toNat_sub_of_le _ _ (UInt64.le_trans hmono hle)]
  rw [UInt64.le_iff_toNat_le] at hmono
  omega

theorem Settleable.provenEpochs_inRange (h : p.Settleable after upTo) (hle : upTo ≤ current) :
    ∃ r, p.provenEpochs after upTo current = .ok r ∧ r.InRange after upTo := by
  obtain ⟨r, hr, hcount, hsettled⟩ := h.provenEpochs_eq hle
  refine ⟨r, hr, ?_, ?_, ?_⟩
  · rw [UInt64.le_iff_toNat_le, hcount, UInt64.toNat_sub_of_le _ _ (UInt64.le_of_lt h.lt)]
    exact card_paidEpochs_le _ _ _
  · rw [hsettled, UInt64.le_iff_toNat_le]
    exact h.le_settledUpTo
  · rw [hsettled]
    exact h.settledUpTo_le

theorem provenEpochs_inRange (active : p.activation ≠ 0) (hlt : after < upTo)
    (hle : p.activation ≤ upTo) (hcurrent : upTo ≤ current) (h : ¬ p.Unperiodic upTo current) :
    ∃ r, p.provenEpochs after upTo current = .ok r ∧ r.InRange after upTo := by
  by_cases hlen : p.params.periodLength = 0
  · have heq : upTo = p.activation := by
      refine UInt64.le_antisymm (UInt64.not_lt.mp fun hlater => ?_) hle
      exact h ⟨active, hlen, hlater, hcurrent⟩
    have hnext := base_lt active hlt hle
    refine ⟨_, provenEpochs_of_length_zero active hlen hlt heq hcurrent, ?_⟩
    split
    · exact ⟨sub_base_le hnext, UInt64.le_of_lt hlt, UInt64.le_refl _⟩
    · exact ⟨UInt64.zero_le, p.le_base after, UInt64.le_of_lt hnext⟩
  · have hsettleable : p.Settleable after upTo :=
      ⟨active, UInt64.pos_iff_ne_zero.mpr hlen, hlt, hle⟩
    exact hsettleable.provenEpochs_inRange hcurrent

theorem inRange_of_provenEpochs {r : ProvenEpochs} (active : p.activation ≠ 0)
    (hlt : after < upTo) (hr : p.provenEpochs after upTo current = .ok r) :
    r.InRange after upTo := by
  obtain ⟨hle, hcurrent⟩ := range_of_provenEpochs hr
  have hperiodic : ¬ p.Unperiodic upTo current := by
    intro h
    obtain ⟨operation, herror⟩ := h.provenEpochs_eq
    rw [hr] at herror
    contradiction
  obtain ⟨r', hr', hrange⟩ := provenEpochs_inRange active hlt hle hcurrent hperiodic
  obtain rfl : r' = r := Except.ok.inj (hr'.symm.trans hr)
  exact hrange

theorem provenEpochs_ne_breakdown (active : p.activation ≠ 0) (hlt : after < upTo)
    (h : ¬ p.Unperiodic upTo current) (operation : String) :
    p.provenEpochs after upTo current ≠ .error (.breakdown operation) := by
  by_cases hbefore : upTo < p.activation
  · simp [provenEpochs, hbefore]
  by_cases hfuture : current < upTo
  · simp [provenEpochs, hbefore, hfuture]
  obtain ⟨r, hr, -⟩ := provenEpochs_inRange active hlt (UInt64.not_lt.mp hbefore)
    (UInt64.not_lt.mp hfuture) h
  simp [hr]

/-- Where periods have a length, and before they start, no step of the count wraps. -/
theorem exactProvenEpochs?_eq (active : p.activation ≠ 0) (hlt : after < upTo)
    (h : ¬ p.Unperiodic upTo current) :
    p.exactProvenEpochs? after upTo current = some (p.provenEpochs after upTo current) := by
  rw [← unbroken?_provenEpochs]
  exact unbroken?_eq_some (provenEpochs_ne_breakdown active hlt h)

theorem Settleable.paidEpochs_base (h : p.Settleable after upTo) :
    p.paidEpochs (p.base after).toNat upTo.toNat =
      (Finset.Ioc (max after.toNat (p.activation.toNat - 1)) upTo.toNat).filter fun e =>
        p.isPeriodProven (p.schedule.periodContaining (UInt64.ofNat e)) = true := by
  rw [paidEpochs, toNat_base]
  apply Finset.filter_congr
  intro n hn
  have hnat := toNat_ofNat_of_mem_Ioc hn
  rw [← toNat_base, Finset.mem_Ioc, ← hnat] at hn
  have hactivation := h.activation_le_of_base_lt hn.1
  exact ⟨fun hpays => hpays.2.2, fun hproven => ⟨h.active, hactivation, hproven⟩⟩

/-- Every range of past epochs that ends at the activation or later is counted, without a sum, a
difference or a product that is no word. -/
theorem provenEpochs_counts_epochs (active : p.activation ≠ 0) (length : p.params.periodLength ≠ 0)
    (hlt : after < upTo) (hle : p.activation ≤ upTo) (hcurrent : upTo ≤ current) :
    ∃ r, p.provenEpochs after upTo current = .ok r ∧
      p.exactProvenEpochs? after upTo current = some (.ok r) ∧
      r.count.toNat =
        ((Finset.Ioc (max after.toNat (p.activation.toNat - 1)) upTo.toNat).filter fun e =>
          p.isPeriodProven (p.schedule.periodContaining (UInt64.ofNat e)) = true).card ∧
      r.settleUpTo = p.settledUpTo after upTo := by
  have h : p.Settleable after upTo := ⟨active, UInt64.pos_iff_ne_zero.mpr length, hlt, hle⟩
  obtain ⟨r, hr, hcount, hsettled⟩ := h.provenEpochs_eq hcurrent
  have hexact : p.exactProvenEpochs? after upTo current =
      some (p.provenEpochs after upTo current) :=
    exactProvenEpochs?_eq active hlt fun hunperiodic => length hunperiodic.length_eq
  refine ⟨r, hr, hexact.trans (congrArg some hr), ?_, hsettled⟩
  rw [hcount, h.card_paidEpochs_base, h.paidEpochs_base]

def lateState : ProvingState where
  params := ⟨10, 2⟩
  activation := 18446744073709551580
  proven := (ProvenPeriods.empty.insert 0).insert 2

theorem provenEpochs_lateState :
    lateState.provenEpochs 0 Word.largest Word.largest = .ok ⟨21, 18446744073709551610⟩ ∧
    ∃ r, lateState.provenEpochs 0 Word.largest Word.largest = .ok r ∧
      lateState.exactProvenEpochs? 0 Word.largest Word.largest = some (.ok r) ∧
      r.count.toNat =
        ((Finset.Ioc (max 0 18446744073709551579) 18446744073709551615).filter fun e =>
          lateState.isPeriodProven
            (lateState.schedule.periodContaining (UInt64.ofNat e)) = true).card ∧
      r.settleUpTo = lateState.settledUpTo 0 Word.largest := by
  refine ⟨by decide +kernel, ?_⟩
  exact provenEpochs_counts_epochs (by decide) (by decide) (by decide) (by decide) (by decide)

end ProvingState

end WarmStorage

import WarmStorage.Proofs.Proving.Periods
import WarmStorage.Proofs.Proving.Run
import WarmStorage.Proving.Settlement

/-!
How many epochs settlement pays. Cutting a range into the rest of its first period, whole periods
and a beginning of the last one counts the epochs of the range one by one, and no sum, difference
or product on the way leaves the range of 64 bits.
-/

namespace WarmStorage.ProvingState

variable {p : ProvingState} {e after upTo current : Epoch} {q : UInt64}

/-- An epoch is paid when proving was activated by then and its period is proven. -/
def Pays (p : ProvingState) (e : Epoch) : Prop :=
  p.activation ≠ 0 ∧ p.activation ≤ e ∧ p.isPeriodProven (p.schedule.periodContaining e) = true

instance : Decidable (p.Pays e) :=
  inferInstanceAs (Decidable (_ ∧ _))

def paidEpochs (p : ProvingState) (after upTo : Nat) : Finset Nat :=
  (Finset.Ioc after upTo).filter fun e => p.Pays (UInt64.ofNat e)

theorem card_paidEpochs_split (p : ProvingState) {after mid upTo : Nat} (hl : after ≤ mid)
    (hr : mid ≤ upTo) :
    (p.paidEpochs after upTo).card =
      (p.paidEpochs after mid).card + (p.paidEpochs mid upTo).card := by
  unfold paidEpochs
  rw [← Finset.Ioc_union_Ioc_eq_Ioc hl hr, Finset.filter_union, Finset.card_union_of_disjoint]
  exact Finset.disjoint_filter_filter (Finset.Ioc_disjoint_Ioc_of_le (Nat.le_refl _))

theorem card_paidEpochs_le (p : ProvingState) (after upTo : Nat) :
    (p.paidEpochs after upTo).card ≤ upTo - after := by
  rw [← Nat.card_Ioc]
  exact Finset.card_filter_le _ _

theorem toNat_ofNat_of_mem_Ioc {n start : Nat} (h : n ∈ Finset.Ioc start upTo.toNat) :
    (UInt64.ofNat n).toNat = n :=
  UInt64.toNat_ofNat_of_lt' (Nat.lt_of_le_of_lt (Finset.mem_Ioc.mp h).2 upTo.toNat_lt)

theorem paidEpochs_congr {t : ProvingState} {start : Nat}
    (h : ∀ e : Epoch, start < e.toNat → e ≤ upTo → (p.Pays e ↔ t.Pays e)) :
    p.paidEpochs start upTo.toNat = t.paidEpochs start upTo.toNat := by
  apply Finset.filter_congr
  intro n hn
  have hnat := toNat_ofNat_of_mem_Ioc hn
  rw [Finset.mem_Ioc] at hn
  apply h
  · rw [hnat]
    exact hn.1
  · rw [UInt64.le_iff_toNat_le, hnat]
    exact hn.2

theorem paidEpochs_eq_empty {start : Nat}
    (h : ∀ e : Epoch, start < e.toNat → e ≤ upTo → ¬ p.Pays e) :
    p.paidEpochs start upTo.toNat = ∅ := by
  rw [paidEpochs, Finset.filter_eq_empty_iff]
  intro n hn
  have hnat := toNat_ofNat_of_mem_Ioc hn
  rw [Finset.mem_Ioc] at hn
  apply h
  · rw [hnat]
    exact hn.1
  · rw [UInt64.le_iff_toNat_le, hnat]
    exact hn.2

theorem card_paidEpochs_of_period {start : Nat} (active : p.activation ≠ 0)
    (h : ∀ e : Epoch, start < e.toNat → e ≤ upTo →
      p.activation ≤ e ∧ p.schedule.periodContaining e = q) :
    (p.paidEpochs start upTo.toNat).card =
      if p.isPeriodProven q = true then upTo.toNat - start else 0 := by
  split
  · rename_i hproven
    rw [← Nat.card_Ioc, paidEpochs, Finset.filter_true_of_mem]
    intro n hn
    have hnat := toNat_ofNat_of_mem_Ioc hn
    rw [Finset.mem_Ioc] at hn
    obtain ⟨hle, hperiod⟩ := h (UInt64.ofNat n) (by rw [hnat]; exact hn.1)
      (by rw [UInt64.le_iff_toNat_le, hnat]; exact hn.2)
    refine ⟨active, hle, ?_⟩
    rw [hperiod]
    exact hproven
  · rename_i hunproven
    rw [paidEpochs_eq_empty, Finset.card_empty]
    intro e hlo hhi hpays
    rw [Pays, (h e hlo hhi).2] at hpays
    exact hunproven hpays.2.2

theorem card_paidEpochs_period {d : Epoch} (active : p.activation ≠ 0)
    (hlen : 0 < p.params.periodLength) (h : p.schedule.EndsAt q d) :
    (p.paidEpochs (p.activation.toNat + q.toNat * p.params.periodLength.toNat) d.toNat).card =
      if p.isPeriodProven q = true then p.params.periodLength.toNat else 0 := by
  have hend : d.toNat = p.activation.toNat + (q.toNat + 1) * p.params.periodLength.toNat := h
  rw [card_paidEpochs_of_period (q := q) active]
  · rw [hend, Nat.succ_mul]
    congr 1
    omega
  · intro e hlo hhi
    have hle : p.activation ≤ e := by
      rw [UInt64.le_iff_toNat_le]
      omega
    refine ⟨hle, Schedule.periodContaining_eq (covers_of_le hlen active hle) hlo ?_⟩
    exact Nat.le_trans (UInt64.le_iff_toNat_le.mp hhi) (Nat.le_of_eq hend)

theorem card_paidEpochs_periods (active : p.activation ≠ 0) (hlen : 0 < p.params.periodLength)
    (first count : Nat)
    (hfit : p.activation.toNat + (first + count) * p.params.periodLength.toNat <
      18446744073709551616) :
    (p.paidEpochs (p.activation.toNat + first * p.params.periodLength.toNat)
      (p.activation.toNat + (first + count) * p.params.periodLength.toNat)).card =
        p.params.periodLength.toNat * (p.proven.periodsIn first (first + count)).card := by
  have hpos : 0 < p.params.periodLength.toNat := UInt64.lt_iff_toNat_lt.mp hlen
  induction count with
  | zero => simp [paidEpochs, ProvenPeriods.periodsIn]
  | succ count ih =>
    rw [← Nat.add_assoc] at hfit ⊢
    have hfirst := Nat.mul_le_mul_right p.params.periodLength.toNat (Nat.le_add_right first count)
    have hnext : (first + count + 1) * p.params.periodLength.toNat =
        (first + count) * p.params.periodLength.toNat + p.params.periodLength.toNat :=
      Nat.succ_mul _ _
    have hlarge := Nat.le_mul_of_pos_right (first + count) hpos
    have hperiod : (UInt64.ofNat (first + count)).toNat = first + count :=
      UInt64.toNat_ofNat_of_lt' (by simp only [UInt64.size]; omega)
    have hdeadline : (UInt64.ofNat (p.activation.toNat +
        (first + count + 1) * p.params.periodLength.toNat)).toNat =
        p.activation.toNat + (first + count + 1) * p.params.periodLength.toNat :=
      UInt64.toNat_ofNat_of_lt' hfit
    have hends : p.schedule.EndsAt (UInt64.ofNat (first + count))
        (UInt64.ofNat (p.activation.toNat +
          (first + count + 1) * p.params.periodLength.toNat)) := by
      rw [Schedule.EndsAt, hdeadline, hperiod]
      rfl
    have hlast := card_paidEpochs_period active hlen hends
    rw [hperiod, hdeadline] at hlast
    rw [card_paidEpochs_split p (Nat.add_le_add_left hfirst _) (by omega), ih (by omega), hlast,
      ProvenPeriods.card_periodsIn_split (Nat.le_add_right first count) (Nat.le_succ _),
      Nat.succ_eq_add_one, ProvenPeriods.card_periodsIn_single, Nat.mul_add, isPeriodProven]
    split
    · rw [Nat.mul_one]
    · rw [Nat.mul_zero]

theorem toNat_max (a b : UInt64) : (max a b).toNat = max a.toNat b.toNat := by
  show (if a ≤ b then b else a).toNat = _
  split
  · rename_i h
    rw [UInt64.le_iff_toNat_le] at h
    omega
  · rename_i h
    rw [UInt64.le_iff_toNat_le] at h
    omega

/-- The last epoch of a range, or of what is left of it, before which nothing is paid. -/
def base (p : ProvingState) (after : Epoch) : Epoch :=
  max after (Word.clampSub p.activation 1)

/-- Settlement stops before a last period that is not proven. -/
def settledUpTo (p : ProvingState) (after upTo : Epoch) : Epoch :=
  if p.isPeriodProven (p.schedule.periodContaining upTo) = true then upTo
  else if p.schedule.periodContaining upTo = 0 then p.base after
  else max (p.base after) (p.schedule.deadline (p.schedule.periodContaining upTo - 1))

theorem toNat_base : (p.base after).toNat = max after.toNat (p.activation.toNat - 1) := by
  rw [base, toNat_max, Word.toNat_clampSub, UInt64.toNat_one]

theorem activation_pos (active : p.activation ≠ 0) : 0 < p.activation.toNat := by
  rw [ne_eq, ← UInt64.toNat_inj, UInt64.toNat_zero] at active
  exact Nat.pos_of_ne_zero active

theorem base_lt (active : p.activation ≠ 0) (hlt : after < upTo) (hle : p.activation ≤ upTo) :
    p.base after < upTo := by
  have hpos := activation_pos active
  rw [UInt64.lt_iff_toNat_lt] at hlt ⊢
  rw [UInt64.le_iff_toNat_le] at hle
  rw [toNat_base]
  omega

theorem le_base (p : ProvingState) (after : Epoch) : after ≤ p.base after := by
  rw [UInt64.le_iff_toNat_le, toNat_base]
  exact Nat.le_max_left _ _

theorem range_of_provenEpochs {r : ProvenEpochs} (h : p.provenEpochs after upTo current = .ok r) :
    p.activation ≤ upTo ∧ upTo ≤ current := by
  constructor
  · rw [← UInt64.not_lt]
    intro hbefore
    rw [provenEpochs, if_pos hbefore] at h
    contradiction
  · rw [← UInt64.not_lt]
    intro hfuture
    unfold provenEpochs at h
    rw [if_pos hfuture] at h
    split at h
    · contradiction
    · contradiction

theorem provenInPeriod_of_le (h : after ≤ upTo) : p.provenInPeriod q after upTo =
    .ok (if p.isPeriodProven q then ⟨upTo - after, upTo⟩ else ⟨0, after⟩) := by
  rw [provenInPeriod, Word.difference_eq h]
  split
  · rfl
  · rfl

theorem provenRest_of_le (h : after ≤ p.schedule.deadline q) : p.provenRest q after =
    .ok (if p.isPeriodProven q then p.schedule.deadline q - after else 0) := by
  rw [provenRest, Word.difference_eq h]
  split
  · rfl
  · rfl

structure Settleable (p : ProvingState) (after upTo : Epoch) : Prop where
  active : p.activation ≠ 0
  length_pos : 0 < p.params.periodLength
  lt : after < upTo
  activation_le : p.activation ≤ upTo

namespace Settleable

theorem base_lt (h : p.Settleable after upTo) : (p.base after).toNat < upTo.toNat :=
  UInt64.lt_iff_toNat_lt.mp (ProvingState.base_lt h.active h.lt h.activation_le)

theorem toNat_base_add_one (h : p.Settleable after upTo) :
    (p.base after + 1).toNat = (p.base after).toNat + 1 := by
  have := h.base_lt
  have := upTo.toNat_lt
  rw [UInt64.toNat_add, UInt64.toNat_one]
  exact Nat.mod_eq_of_lt (by omega)

theorem activation_le_of_base_lt (h : p.Settleable after upTo)
    (hlt : (p.base after).toNat < e.toNat) : p.activation ≤ e := by
  have hpos := activation_pos h.active
  rw [toNat_base] at hlt
  rw [UInt64.le_iff_toNat_le]
  omega

theorem covers_of_base_lt (h : p.Settleable after upTo)
    (hlt : (p.base after).toNat < e.toNat) : p.schedule.covers e = true :=
  covers_of_le h.length_pos h.active (h.activation_le_of_base_lt hlt)

theorem covers_upTo (h : p.Settleable after upTo) : p.schedule.covers upTo = true :=
  h.covers_of_base_lt h.base_lt

theorem card_paidEpochs_base (h : p.Settleable after upTo) :
    (p.paidEpochs after.toNat upTo.toNat).card =
      (p.paidEpochs (p.base after).toNat upTo.toNat).card := by
  have hle : after.toNat ≤ (p.base after).toNat := UInt64.le_iff_toNat_le.mp (p.le_base after)
  rw [card_paidEpochs_split p hle (Nat.le_of_lt h.base_lt), paidEpochs_eq_empty, Finset.card_empty,
    Nat.zero_add]
  intro e hlo hhi hpays
  have hactivation := UInt64.le_iff_toNat_le.mp hpays.2.1
  have hbase := UInt64.le_iff_toNat_le.mp hhi
  have hpos := activation_pos h.active
  rw [toNat_base] at hbase
  omega

theorem periodContaining_base_le (h : p.Settleable after upTo)
    (hlt : (p.base after).toNat < e.toNat) :
    p.schedule.periodContaining (p.base after + 1) ≤ p.schedule.periodContaining e := by
  have hsucc := h.toNat_base_add_one
  apply Schedule.periodContaining_mono
  · exact h.covers_of_base_lt (by omega)
  · rw [UInt64.le_iff_toNat_le, hsucc]
    exact hlt

theorem periodContaining_base_add_one (h : p.Settleable after upTo) :
    p.schedule.covers (p.base after + 1) = true ∧
      (p.base after).toNat < (p.base after + 1).toNat := by
  have hsucc := h.toNat_base_add_one
  exact ⟨h.covers_of_base_lt (by omega), by omega⟩

theorem provenInPeriod_eq (h : p.Settleable after upTo)
    (hle : upTo ≤ p.schedule.deadline (p.schedule.periodContaining (p.base after + 1))) :
    ∃ r, p.provenInPeriod (p.schedule.periodContaining (p.base after + 1)) (p.base after) upTo =
        .ok r ∧
      r.count.toNat = (p.paidEpochs (p.base after).toNat upTo.toNat).card ∧
      r.settleUpTo = p.settledUpTo after upTo := by
  have hperiod : ∀ e : Epoch, (p.base after).toNat < e.toNat → e ≤ upTo →
      p.activation ≤ e ∧ p.schedule.periodContaining e =
        p.schedule.periodContaining (p.base after + 1) := by
    intro e hlo hhi
    refine ⟨h.activation_le_of_base_lt hlo, UInt64.le_antisymm ?_ (h.periodContaining_base_le hlo)⟩
    rw [Schedule.periodContaining_le_iff (h.covers_of_base_lt hlo)]
    exact UInt64.le_trans hhi hle
  have hlast := (hperiod upTo h.base_lt (UInt64.le_refl _)).2
  have hbase : p.base after ≤ upTo := UInt64.le_iff_toNat_le.mpr (Nat.le_of_lt h.base_lt)
  rw [card_paidEpochs_of_period h.active hperiod, settledUpTo, hlast, provenInPeriod_of_le hbase]
  refine ⟨_, rfl, ?_⟩
  split
  · exact ⟨UInt64.toNat_sub_of_le _ _ hbase, rfl⟩
  · refine ⟨rfl, ?_⟩
    split
    · rfl
    · rename_i hne
      have hlt := Schedule.deadline_pred_lt h.periodContaining_base_add_one.1 hne
      rw [UInt64.lt_iff_toNat_lt, h.toNat_base_add_one] at hlt
      rw [← UInt64.toNat_inj, toNat_max]
      dsimp only
      omega

theorem card_paidEpochs_first (h : p.Settleable after upTo) :
    (p.paidEpochs (p.base after).toNat
      (p.schedule.deadline (p.schedule.periodContaining (p.base after + 1))).toNat).card =
    if p.isPeriodProven (p.schedule.periodContaining (p.base after + 1)) = true then
      (p.schedule.deadline (p.schedule.periodContaining (p.base after + 1))).toNat -
        (p.base after).toNat else 0 := by
  apply card_paidEpochs_of_period h.active
  intro e hlo hhi
  refine ⟨h.activation_le_of_base_lt hlo, UInt64.le_antisymm ?_ (h.periodContaining_base_le hlo)⟩
  rw [Schedule.periodContaining_le_iff (h.covers_of_base_lt hlo)]
  exact hhi

theorem card_paidEpochs_last (h : p.Settleable after upTo)
    (hne : p.schedule.periodContaining upTo ≠ 0)
    (hbase : (p.base after).toNat ≤
      (p.schedule.deadline (p.schedule.periodContaining upTo - 1)).toNat) :
    (p.paidEpochs (p.schedule.deadline (p.schedule.periodContaining upTo - 1)).toNat
      upTo.toNat).card =
    if p.isPeriodProven (p.schedule.periodContaining upTo) = true then
      upTo.toNat - (p.schedule.deadline (p.schedule.periodContaining upTo - 1)).toNat else 0 := by
  apply card_paidEpochs_of_period h.active
  intro e hlo hhi
  have hlt : (p.base after).toNat < e.toNat := by omega
  have hcovers := h.covers_of_base_lt hlt
  refine ⟨h.activation_le_of_base_lt hlt, UInt64.le_antisymm ?_ ?_⟩
  · exact Schedule.periodContaining_mono hcovers hhi
  · have hafter := UInt64.lt_iff_toNat_lt.mpr hlo
    rw [← UInt64.not_le, ← Schedule.periodContaining_le_iff hcovers, UInt64.not_le,
      UInt64.lt_iff_toNat_lt, Schedule.toNat_sub_one hne] at hafter
    rw [UInt64.le_iff_toNat_le]
    omega

theorem card_paidEpochs_whole (h : p.Settleable after upTo) {d d' : Epoch} {first last : UInt64}
    (hlt : first < last) (hfirst : p.schedule.EndsAt first d)
    (hlast : p.schedule.EndsAt (last - 1) d') :
    (p.paidEpochs d.toNat d'.toNat).card =
      p.params.periodLength.toNat * (p.proven.countIn (first + 1) last).toNat := by
  have hlt := UInt64.lt_iff_toNat_lt.mp hlt
  have hne : last ≠ 0 := by
    rintro rfl
    rw [UInt64.toNat_zero] at hlt
    omega
  have hsucc : (first + 1).toNat = first.toNat + 1 := by
    have := last.toNat_lt
    rw [UInt64.toNat_add, UInt64.toNat_one]
    exact Nat.mod_eq_of_lt (by omega)
  have hcount : last.toNat = first.toNat + 1 + (last.toNat - (first.toNat + 1)) := by omega
  have hpred : last.toNat - 1 + 1 = last.toNat := by omega
  unfold Schedule.EndsAt at hfirst hlast
  rw [Schedule.toNat_sub_one hne, hpred] at hlast
  have hfit := d'.toNat_lt
  rw [hlast, hcount] at hfit
  rw [ProvenPeriods.toNat_countIn, hsucc, hfirst, hlast, hcount]
  exact card_paidEpochs_periods h.active h.length_pos _ _ hfit

theorem exactMul?_bind_exactAdd?_eq {a b c w : UInt64}
    (hfit : w.toNat = a.toNat * b.toNat + c.toNat) :
    (Word.exactMul? a b).bind (Word.exactAdd? · c) = some w := by
  have := w.toNat_lt
  rw [Option.bind_eq_some_iff]
  refine ⟨UInt64.ofNat (a.toNat * b.toNat), ?_, ?_⟩
  · rw [Word.exactMul?, Word.fit?_eq_some_iff, UInt64.toNat_ofNat_of_lt']
    simp only [UInt64.size]
    omega
  · rw [Word.exactAdd?, Word.fit?_eq_some_iff, UInt64.toNat_ofNat_of_lt', hfit]
    simp only [UInt64.size]
    omega

theorem base_lt_deadline (h : p.Settleable after upTo) :
    p.base after < p.schedule.deadline (p.schedule.periodContaining (p.base after + 1)) :=
  UInt64.lt_of_lt_of_le (UInt64.lt_iff_toNat_lt.mpr h.periodContaining_base_add_one.2)
    (Schedule.le_deadline_periodContaining h.periodContaining_base_add_one.1)

theorem first_lt_last (h : p.Settleable after upTo)
    (hlt : p.schedule.deadline (p.schedule.periodContaining (p.base after + 1)) < upTo) :
    p.schedule.periodContaining (p.base after + 1) < p.schedule.periodContaining upTo := by
  rwa [← UInt64.not_le, ← Schedule.periodContaining_le_iff h.covers_upTo, UInt64.not_le] at hlt

theorem last_ne_zero (h : p.Settleable after upTo)
    (hlt : p.schedule.deadline (p.schedule.periodContaining (p.base after + 1)) < upTo) :
    p.schedule.periodContaining upTo ≠ 0 := by
  intro hzero
  have hperiods := h.first_lt_last hlt
  rw [hzero] at hperiods
  exact UInt64.not_lt_zero hperiods

theorem deadline_first_le (h : p.Settleable after upTo)
    (hlt : p.schedule.deadline (p.schedule.periodContaining (p.base after + 1)) < upTo) :
    p.schedule.deadline (p.schedule.periodContaining (p.base after + 1)) ≤
      p.schedule.deadline (p.schedule.periodContaining upTo - 1) := by
  have hperiods := UInt64.lt_iff_toNat_lt.mp (h.first_lt_last hlt)
  apply Schedule.deadline_mono
  rw [UInt64.le_iff_toNat_le, Schedule.toNat_sub_one (h.last_ne_zero hlt)]
  omega

theorem countBefore_eq (h : p.Settleable after upTo)
    (hlt : p.schedule.deadline (p.schedule.periodContaining (p.base after + 1)) < upTo) :
    ∃ count, (Word.exactMul? (p.proven.countIn (p.schedule.periodContaining (p.base after + 1) + 1)
        (p.schedule.periodContaining upTo)) p.params.periodLength).bind (Word.exactAdd? ·
          (if p.isPeriodProven (p.schedule.periodContaining (p.base after + 1)) then
            p.schedule.deadline (p.schedule.periodContaining (p.base after + 1)) - p.base after
          else 0)) = some count ∧
      count.toNat = (p.paidEpochs (p.base after).toNat
        (p.schedule.deadline (p.schedule.periodContaining upTo - 1)).toNat).card := by
  -- the range is cut at the deadlines `d` of its first period and `d'` before its last one
  have hnext := UInt64.le_of_lt h.base_lt_deadline
  have hmono := UInt64.le_iff_toNat_le.mp (h.deadline_first_le hlt)
  have hpred := Schedule.deadline_pred_lt h.covers_upTo (h.last_ne_zero hlt)
  have hfirst := h.card_paidEpochs_first
  have hwhole := h.card_paidEpochs_whole (h.first_lt_last hlt)
    (Schedule.endsAt_deadline_of_lt hlt) (Schedule.endsAt_deadline_of_lt hpred)
  generalize p.schedule.periodContaining (p.base after + 1) = first at *
  generalize p.schedule.deadline first = d at *
  generalize p.schedule.deadline (p.schedule.periodContaining upTo - 1) = d' at *
  have hsplit := card_paidEpochs_split p (UInt64.le_iff_toNat_le.mp hnext) hmono
  have hbound := card_paidEpochs_le p (p.base after).toNat d'.toNat
  have hfit := d'.toNat_lt
  have hrest : (if p.isPeriodProven first then d - p.base after else 0).toNat =
      (p.paidEpochs (p.base after).toNat d.toNat).card := by
    rw [hfirst]
    split
    · exact UInt64.toNat_sub_of_le _ _ hnext
    · rfl
  have hnat : (UInt64.ofNat (p.paidEpochs (p.base after).toNat d'.toNat).card).toNat =
      (p.paidEpochs (p.base after).toNat d'.toNat).card :=
    UInt64.toNat_ofNat_of_lt' (by simp only [UInt64.size]; omega)
  refine ⟨_, exactMul?_bind_exactAdd?_eq (hnat.trans ?_), hnat⟩
  rw [hsplit, hrest, hwhole, Nat.mul_comm, Nat.add_comm]

theorem provenAcross_eq (h : p.Settleable after upTo)
    (hlt : p.schedule.deadline (p.schedule.periodContaining (p.base after + 1)) < upTo) :
    ∃ r, p.provenAcross (p.schedule.periodContaining (p.base after + 1))
        (p.schedule.periodContaining upTo) (p.base after) upTo = .ok r ∧
      r.count.toNat = (p.paidEpochs (p.base after).toNat upTo.toNat).card ∧
      r.settleUpTo = p.settledUpTo after upTo := by
  have hne := h.last_ne_zero hlt
  have hpred := Schedule.deadline_pred_lt h.covers_upTo hne
  have hbase := UInt64.le_trans (UInt64.le_of_lt h.base_lt_deadline) (h.deadline_first_le hlt)
  have hlast := h.card_paidEpochs_last hne (UInt64.le_iff_toNat_le.mp hbase)
  have hone : 1 ≤ p.schedule.periodContaining upTo := by
    rw [UInt64.le_iff_toNat_le, UInt64.toNat_one]
    exact UInt64.lt_iff_toNat_lt.mp (UInt64.pos_iff_ne_zero.mpr hne)
  obtain ⟨count, hcount, hnat⟩ := h.countBefore_eq hlt
  unfold provenAcross settledUpTo
  rw [provenRest_of_le (UInt64.le_of_lt h.base_lt_deadline), Word.sum_one_eq (h.first_lt_last hlt),
    Word.difference_eq hone, if_neg hne]
  simp only [bind, Except.bind, hcount, Word.difference_eq (UInt64.le_of_lt hpred)]
  generalize p.schedule.deadline (p.schedule.periodContaining upTo - 1) = d' at *
  rw [UInt64.le_iff_toNat_le] at hbase
  have htotal := card_paidEpochs_split p hbase (UInt64.le_iff_toNat_le.mp (UInt64.le_of_lt hpred))
  have hbound := card_paidEpochs_le p (p.base after).toNat upTo.toNat
  split
  · rename_i hproven
    rw [if_pos hproven] at hlast
    have hcard : count.toNat + (upTo - d').toNat =
        (p.paidEpochs (p.base after).toNat upTo.toNat).card := by
      rw [hnat, UInt64.toNat_sub_of_le _ _ (UInt64.le_of_lt hpred), ← hlast, ← htotal]
    -- no more epochs are paid than there are
    have hfit : count.toNat + (upTo - d').toNat < 18446744073709551616 := by
      have := upTo.toNat_lt
      omega
    rw [Word.sum_eq hfit]
    refine ⟨_, rfl, ?_, rfl⟩
    rw [UInt64.toNat_add, Nat.mod_eq_of_lt hfit, hcard]
  · rename_i hunproven
    rw [if_neg hunproven] at hlast
    refine ⟨_, rfl, ?_, ?_⟩
    · rw [hnat, htotal, hlast, Nat.add_zero]
    · rw [← UInt64.toNat_inj, toNat_max, Nat.max_eq_right hbase]

theorem provenEpochs_eq (h : p.Settleable after upTo) (hle : upTo ≤ current) :
    ∃ r, p.provenEpochs after upTo current = .ok r ∧
      r.count.toNat = (p.paidEpochs after.toNat upTo.toNat).card ∧
      r.settleUpTo = p.settledUpTo after upTo := by
  unfold provenEpochs
  rw [if_neg (UInt64.not_lt.mpr h.activation_le), if_neg (UInt64.not_lt.mpr hle)]
  have hbase : max after (Word.clampSub p.activation 1) = p.base after := rfl
  simp only [hbase, h.card_paidEpochs_base, bind, Except.bind,
    Word.sum_one_eq (UInt64.lt_iff_toNat_lt.mpr h.base_lt)]
  split
  · rename_i hperiod
    exact h.provenInPeriod_eq hperiod
  · rename_i hperiod
    exact h.provenAcross_eq (UInt64.not_le.mp hperiod)

theorem settledUpTo_le (h : p.Settleable after upTo) : p.settledUpTo after upTo ≤ upTo := by
  have hbase := UInt64.le_iff_toNat_le.mpr (Nat.le_of_lt h.base_lt)
  unfold settledUpTo
  split
  · exact UInt64.le_refl _
  split
  · exact hbase
  · rename_i hne
    have hpred := UInt64.le_of_lt (Schedule.deadline_pred_lt h.covers_upTo hne)
    rw [UInt64.le_iff_toNat_le] at hbase hpred ⊢
    rw [toNat_max]
    omega

theorem le_settledUpTo (h : p.Settleable after upTo) :
    after.toNat ≤ (p.settledUpTo after upTo).toNat := by
  have hlt := UInt64.lt_iff_toNat_lt.mp h.lt
  have hbase : after.toNat ≤ (p.base after).toNat := UInt64.le_iff_toNat_le.mp (p.le_base after)
  unfold settledUpTo
  split
  · omega
  split
  · exact hbase
  · rw [toNat_max]
    omega

theorem period_of_settledUpTo_lt (h : p.Settleable after upTo)
    (hlo : (p.settledUpTo after upTo).toNat < e.toNat) (hhi : e ≤ upTo) :
    p.schedule.periodContaining e = p.schedule.periodContaining upTo ∧
      ¬ p.isPeriodProven (p.schedule.periodContaining upTo) = true := by
  unfold settledUpTo at hlo
  have hle : (p.base after).toNat < e.toNat →
      p.schedule.periodContaining e ≤ p.schedule.periodContaining upTo := fun hbase =>
    Schedule.periodContaining_mono (h.covers_of_base_lt hbase) hhi
  split at hlo
  · rw [UInt64.le_iff_toNat_le] at hhi
    omega
  rename_i hunproven
  refine ⟨?_, hunproven⟩
  split at hlo
  · rename_i hzero
    have hle := hle hlo
    rw [hzero] at hle ⊢
    exact UInt64.le_antisymm hle UInt64.zero_le
  · rename_i hne
    rw [toNat_max] at hlo
    have hbase : (p.base after).toNat < e.toNat := by omega
    have hcovers := h.covers_of_base_lt hbase
    have hlt : p.schedule.deadline (p.schedule.periodContaining upTo - 1) < e := by
      rw [UInt64.lt_iff_toNat_lt]
      omega
    rw [← UInt64.not_le, ← Schedule.periodContaining_le_iff hcovers, UInt64.not_le,
      UInt64.lt_iff_toNat_lt, Schedule.toNat_sub_one hne] at hlt
    apply UInt64.le_antisymm (hle hbase)
    rw [UInt64.le_iff_toNat_le]
    omega

theorem card_paidEpochs_settledUpTo (h : p.Settleable after upTo) :
    (p.paidEpochs after.toNat (p.settledUpTo after upTo).toNat).card =
      (p.paidEpochs after.toNat upTo.toNat).card := by
  have hlater : p.paidEpochs (p.settledUpTo after upTo).toNat upTo.toNat = ∅ := by
    apply paidEpochs_eq_empty
    intro e hlo hhi hpays
    obtain ⟨hperiod, hunproven⟩ := h.period_of_settledUpTo_lt hlo hhi
    rw [← hperiod] at hunproven
    exact hunproven hpays.2.2
  rw [card_paidEpochs_split p h.le_settledUpTo (UInt64.le_iff_toNat_le.mp h.settledUpTo_le), hlater,
    Finset.card_empty, Nat.add_zero]

theorem proven_or_over (h : p.Settleable after upTo) (hlo : after.toNat < e.toNat)
    (hhi : e ≤ p.settledUpTo after upTo) (hactivation : p.activation ≤ e) :
    p.isPeriodProven (p.schedule.periodContaining e) = true ∨
      p.schedule.periodContaining e < p.schedule.periodContaining upTo := by
  have hpos := activation_pos h.active
  have hbase : (p.base after).toNat < e.toNat := by
    rw [UInt64.le_iff_toNat_le] at hactivation
    rw [toNat_base]
    omega
  have hcovers := h.covers_of_base_lt hbase
  unfold settledUpTo at hhi
  split at hhi
  · rename_i hproven
    by_cases hperiod : p.schedule.periodContaining e = p.schedule.periodContaining upTo
    · left
      rw [hperiod]
      exact hproven
    · right
      exact UInt64.lt_of_le_of_ne (Schedule.periodContaining_mono hcovers hhi) hperiod
  split at hhi
  · rw [UInt64.le_iff_toNat_le] at hhi
    omega
  · rename_i hne
    have hle : e ≤ p.schedule.deadline (p.schedule.periodContaining upTo - 1) := by
      rw [UInt64.le_iff_toNat_le, toNat_max] at hhi
      rw [UInt64.le_iff_toNat_le]
      omega
    rw [← Schedule.periodContaining_le_iff hcovers, UInt64.le_iff_toNat_le,
      Schedule.toNat_sub_one hne] at hle
    have hlast := UInt64.lt_iff_toNat_lt.mp (UInt64.pos_iff_ne_zero.mpr hne)
    right
    rw [UInt64.lt_iff_toNat_lt]
    omega

end Settleable

end WarmStorage.ProvingState

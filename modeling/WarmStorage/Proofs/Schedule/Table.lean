import WarmStorage.Proofs.Proving.Run
import WarmStorage.Proofs.Schedule.Connection
import WarmStorage.Schedule.Table

/-!
The table of a schedule beside the checks of the proving state. As long as no deadline of a table is
cut off, its rows list the epochs after the activation one after another, each row those of its
period, and the window of a row has the epochs at which a proof of the period is accepted.
-/

namespace WarmStorage

def PeriodRow.epochs (r : PeriodRow) : List Nat :=
  List.range' r.firstEpoch.toNat (r.deadline.toNat + 1 - r.firstEpoch.toNat)

structure ProvingState.Awaits (state : ProvingState) (s : Schedule) (period : UInt64) : Prop where
  schedule_eq : state.schedule = s
  deadline_eq : state.deadline = s.deadline period
  unproven : state.provenThisPeriod = false

namespace Schedule

variable {s : Schedule} {epoch : Epoch} {p q : UInt64}

theorem getElem?_rows {count : UInt64} (h : p < count) :
    (s.rows count)[p.toNat]? = some (s.row p) := by
  rw [rows, List.getElem?_map, List.getElem?_range (UInt64.lt_iff_toNat_lt.mp h), Option.map_some,
    UInt64.ofNat_toNat]

theorem endsAt_row {n : Nat} (hp : p.toNat < n)
    (fits : s.activation.toNat + n * s.params.periodLength.toNat < 18446744073709551616) :
    s.EndsAt p (s.deadline p) := by
  -- if the last deadline of a table is not cut off, none of its deadlines is
  have hle := Nat.mul_le_mul_right s.params.periodLength.toNat (Nat.succ_le_of_lt hp)
  rw [Nat.succ_eq_add_one] at hle
  exact endsAt_deadline (by omega)

theorem EndsAt.toNat_firstEpoch (h : s.EndsAt p (s.deadline p))
    (hlen : 0 < s.params.periodLength.toNat) : (s.row p).firstEpoch.toNat =
      s.activation.toNat + p.toNat * s.params.periodLength.toNat + 1 := by
  have := (s.deadline p).toNat_lt
  unfold EndsAt at h
  rw [Nat.add_mul, Nat.one_mul] at h
  have hstart : (s.start p).toNat =
      s.activation.toNat + p.toNat * s.params.periodLength.toNat := by
    rw [start, Word.toNat_clampSub]
    omega
  show (s.start p + 1).toNat = _
  rw [UInt64.toNat_add, UInt64.toNat_one, hstart]
  exact Nat.mod_eq_of_lt (by omega)

theorem EndsAt.toNat_deadline_row (h : s.EndsAt p (s.deadline p))
    (hlen : 0 < s.params.periodLength.toNat) : (s.row p).deadline.toNat + 1 =
      (s.row p).firstEpoch.toNat + s.params.periodLength.toNat := by
  have hlast : (s.row p).deadline.toNat = _ := h
  rw [hlast, h.toNat_firstEpoch hlen, Nat.add_mul, Nat.one_mul]
  omega

theorem EndsAt.epochs_row (h : s.EndsAt p (s.deadline p))
    (hlen : 0 < s.params.periodLength.toNat) : (s.row p).epochs =
      List.range' (s.activation.toNat + 1 + p.toNat * s.params.periodLength.toNat)
        s.params.periodLength.toNat := by
  rw [PeriodRow.epochs, h.toNat_deadline_row hlen, Nat.add_sub_cancel_left,
    h.toNat_firstEpoch hlen, Nat.add_right_comm]

theorem flatMap_epochs_rows (hlen : 0 < s.params.periodLength.toNat) {n : Nat}
    (fits : s.activation.toNat + n * s.params.periodLength.toNat < 18446744073709551616) :
    ((List.range n).map fun period => s.row (UInt64.ofNat period)).flatMap PeriodRow.epochs =
      List.range' (s.activation.toNat + 1) (n * s.params.periodLength.toNat) := by
  induction n with
  | zero => simp
  | succ n ih =>
    have hpos := Nat.le_mul_of_pos_right (n + 1) hlen
    have hnat : (UInt64.ofNat n).toNat = n :=
      UInt64.toNat_ofNat_of_lt' (by simp only [UInt64.size]; omega)
    have hends : s.EndsAt (UInt64.ofNat n) (s.deadline (UInt64.ofNat n)) :=
      endsAt_row (Nat.lt_of_le_of_lt (Nat.le_of_eq hnat) (Nat.lt_succ_self n)) fits
    rw [Nat.add_mul, Nat.one_mul] at fits ⊢
    -- the last row starts where the rows before it end
    rw [List.range_succ, List.map_append, List.flatMap_append, ih (by omega), List.map_singleton,
      List.flatMap_singleton, hends.epochs_row hlen, hnat, List.range'_append_1]

theorem covers_of_lt (active : s.isActive = true) (hlen : 0 < s.params.periodLength.toNat)
    (started : s.activation < epoch) : s.covers epoch = true := by
  rw [UInt64.lt_iff_toNat_lt] at started
  exact covers_iff.mpr ⟨isActive_iff.mp active, Nat.le_of_lt started, hlen⟩

theorem EndsAt.mem_row_iff (active : s.isActive = true) (hlen : 0 < s.params.periodLength.toNat)
    (h : s.EndsAt p (s.deadline p)) :
    (s.row p).firstEpoch ≤ epoch ∧ epoch ≤ (s.row p).deadline ↔
      s.activation < epoch ∧ s.periodContaining epoch = p := by
  have hlast : (s.row p).deadline.toNat = _ := h
  rw [UInt64.le_iff_toNat_le, UInt64.le_iff_toNat_le, h.toNat_firstEpoch hlen, hlast]
  constructor
  · rintro ⟨hlo, hhi⟩
    have started : s.activation < epoch := by
      rw [UInt64.lt_iff_toNat_lt]
      omega
    exact ⟨started, Schedule.periodContaining_eq (covers_of_lt active hlen started) hlo hhi⟩
  · rintro ⟨started, rfl⟩
    have hlo := Nat.div_mul_le_self (epoch.toNat - s.activation.toNat - 1)
      s.params.periodLength.toNat
    have hhi := Nat.lt_mul_div_succ (epoch.toNat - s.activation.toNat - 1) hlen
    rw [Nat.mul_comm] at hhi
    rw [toNat_periodContaining (covers_of_lt active hlen started)]
    rw [UInt64.lt_iff_toNat_lt] at started
    omega

theorem EndsAt.firstEpoch_mem_row (active : s.isActive = true)
    (hlen : 0 < s.params.periodLength.toNat) (h : s.EndsAt p (s.deadline p)) :
    s.activation < (s.row p).firstEpoch ∧ s.periodContaining (s.row p).firstEpoch = p := by
  have hlast := h.toNat_deadline_row hlen
  rw [← h.mem_row_iff active hlen, UInt64.le_iff_toNat_le, UInt64.le_iff_toNat_le]
  omega

theorem EndsAt.deadline_lt_firstEpoch (active : s.isActive = true)
    (hlen : 0 < s.params.periodLength.toNat) (h : s.EndsAt p (s.deadline p)) (hlt : q < p) :
    s.deadline q < (s.row p).firstEpoch := by
  obtain ⟨started, hperiod⟩ := h.firstEpoch_mem_row active hlen
  rw [← UInt64.not_le, ← periodContaining_le_iff (covers_of_lt active hlen started), hperiod,
    UInt64.not_le]
  exact hlt

theorem EndsAt.deadline_from_earlier (active : s.isActive = true)
    (hlen : 0 < s.params.periodLength.toNat) (h : s.EndsAt p (s.deadline p)) (hlt : q < p) :
    (s.deadline p).toNat = (s.deadline q).toNat + s.params.periodLength.toNat *
      (((s.row p).firstEpoch.toNat - (s.deadline q).toNat - 1) / s.params.periodLength.toNat +
        1) := by
  have late := h.deadline_lt_firstEpoch active hlen hlt
  have hq : s.EndsAt q (s.deadline q) := endsAt_deadline_of_lt late
  obtain ⟨started, hperiod⟩ := h.firstEpoch_mem_row active hlen
  have hskipped := hq.toNat_periodContaining_of_lt (covers_of_lt active hlen started) late
  rw [hperiod] at hskipped
  -- the period of an epoch tells how many periods were skipped, without a division
  obtain ⟨skipped, hdiv⟩ : ∃ skipped, ((s.row p).firstEpoch.toNat - (s.deadline q).toNat - 1) /
      s.params.periodLength.toNat = skipped := ⟨_, rfl⟩
  rw [hdiv] at hskipped ⊢
  unfold EndsAt at h hq
  rw [h, hq, hskipped]
  ring

theorem window_contains_last (s : Schedule) (d : Epoch) : (s.window d).contains d = true :=
  window_contains_iff.mpr ⟨Nat.sub_le _ _, Nat.le_refl _⟩

theorem EndsAt.window_within_row (valid : s.params.Valid) (h : s.EndsAt p (s.deadline p)) :
    (s.row p).firstEpoch ≤ (s.row p).window.first ∧
      (s.row p).window.first < (s.row p).window.last ∧
      (s.row p).window.last = (s.row p).deadline := by
  have hpos := UInt64.lt_iff_toNat_lt.mp valid.1
  have hsize := UInt64.lt_iff_toNat_lt.mp valid.2
  rw [UInt64.toNat_zero] at hpos
  have hlast := h.toNat_deadline_row (by omega)
  have hstart : (s.row p).window.first.toNat =
      (s.row p).deadline.toNat - s.params.windowSize.toNat :=
    Word.toNat_clampSub _ _
  have hend : (s.row p).window.last = (s.row p).deadline := rfl
  rw [UInt64.le_iff_toNat_le, UInt64.lt_iff_toNat_lt, hstart, hend]
  refine ⟨?_, ?_, rfl⟩
  · omega
  · omega

end Schedule

namespace ProvingState

variable {state : ProvingState} {s : Schedule} {epoch count p q : UInt64} {steps : List Step}

theorem Awaits.checkProof_eq_ok_iff {period : UInt64} (h : state.Awaits s p)
    (active : s.isActive = true) (hlen : 0 < s.params.periodLength.toNat)
    (hends : s.EndsAt p (s.deadline p)) : state.checkProof epoch count = .ok period ↔
      challengesPerProof ≤ count ∧ (s.row p).window.contains epoch = true ∧ period = p := by
  have hwindow : (s.row p).window = s.window (s.deadline p) := rfl
  rw [ProvingState.checkProof_eq_ok_iff, h.schedule_eq, h.deadline_eq,
    hends.periodOfDeadline_eq active hlen, hwindow, and_iff_right h.unproven,
    and_iff_right (hends.ne_zero active)]

theorem Run.awaits_iff (h : Run s.params steps state) (same : state.activation = s.activation)
    (active : s.isActive = true) (hlen : 0 < s.params.periodLength)
    (hends : s.EndsAt p (s.deadline p)) : state.Awaits s p ↔
      state.isOpen = true ∧ state.openPeriod = p ∧ state.isPeriodProven p = false := by
  have hschedule : state.schedule = s := by
    rw [schedule, same, h.params_eq]
  have hinv := h.invariant hlen
  constructor
  · intro hawaits
    have unshut : state.deadline ≠ 0 := by
      rw [hawaits.deadline_eq]
      exact hends.ne_zero active
    have hperiod : state.openPeriod = p := by
      rw [openPeriod, hschedule, hawaits.deadline_eq]
      exact hends.periodOfDeadline_eq active (UInt64.lt_iff_toNat_lt.mp hlen)
    refine ⟨isOpen_iff.mpr unshut, hperiod, ?_⟩
    rw [← hperiod, ← (hinv.opened unshut).flag]
    exact hawaits.unproven
  · rintro ⟨hopen, rfl, hproven⟩
    have opened := hinv.opened (isOpen_iff.mp hopen)
    refine ⟨hschedule, ?_, ?_⟩
    · rw [← hschedule]
      exact opened.aligned.symm
    · rw [opened.flag]
      exact hproven

theorem exists_run_awaits_first (active : s.isActive = true)
    (hends : s.EndsAt 0 (s.deadline 0)) :
    ∃ steps state, Run s.params steps state ∧ lastEpoch steps = s.activation ∧
      state.Awaits s 0 := by
  have hnext : (s.deadline 0).toNat = s.activation.toNat + s.params.periodLength.toNat := by
    unfold Schedule.EndsAt at hends
    rwa [UInt64.toNat_zero, Nat.zero_add, Nat.one_mul] at hends
  have hadvance : Advances { params := s.params } s.activation (s.deadline 0)
      ⟨.activated, s.activation, noDeadline, s.deadline 0, 0⟩ :=
    .activated rfl (bne_iff_ne.mp active) hnext (Schedule.window_contains_last _ _)
  have hrun : Run s.params _ _ :=
    .step .fresh UInt64.zero_le (.advance (checkAdvance_eq_ok_iff.mpr hadvance))
  exact ⟨_, _, hrun, rfl, rfl, rfl, rfl⟩

theorem Awaits.exists_advance (h : state.Awaits s q) (active : s.isActive = true)
    (hlen : 0 < s.params.periodLength.toNat) (hends : s.EndsAt p (s.deadline p)) (hlt : q < p) :
    ∃ a, state.checkAdvance (s.row p).firstEpoch (s.deadline p) = .ok a ∧
      (state.applyAdvance a).Awaits s p := by
  obtain ⟨rfl, hopen, -⟩ := h
  have late := hends.deadline_lt_firstEpoch active hlen hlt
  have unshut := (Schedule.endsAt_deadline_of_lt late).ne_zero active
  have hnext := hends.deadline_from_earlier active hlen hlt
  rw [← hopen] at late unshut hnext
  have hadvance := Advances.advanced (bne_iff_ne.mp active) unshut late (hends.ne_zero active) hnext
    (Schedule.window_contains_last _ _)
  exact ⟨_, checkAdvance_eq_ok_iff.mpr hadvance, rfl, rfl, rfl⟩

theorem exists_run_awaits (active : s.isActive = true) (hlen : 0 < s.params.periodLength.toNat)
    (hends : s.EndsAt p (s.deadline p)) :
    ∃ steps state, Run s.params steps state ∧ state.Awaits s p := by
  have hfits := (s.deadline p).toNat_lt
  rw [hends] at hfits
  obtain ⟨steps, state, hrun, hlast, hawaits⟩ :=
    exists_run_awaits_first active (Schedule.endsAt_row (Nat.succ_pos _) hfits)
  by_cases hp : p = 0
  · rw [hp]
    exact ⟨steps, state, hrun, hawaits⟩
  · obtain ⟨a, hadvance, hopened⟩ :=
      hawaits.exists_advance active hlen hends (UInt64.pos_iff_ne_zero.mpr hp)
    have later : lastEpoch steps ≤ (Step.advance (s.row p).firstEpoch a).epoch := by
      show lastEpoch steps ≤ (s.row p).firstEpoch
      rw [hlast]
      exact UInt64.le_of_lt (hends.firstEpoch_mem_row active hlen).1
    exact ⟨_, _, .step hrun later (.advance hadvance), hopened⟩

end ProvingState

/--
The rows of a table list the epochs after the activation in order, without a gap or an overlap, and
each row has the epochs of its period. Its window lies in it, and while the period is open and not
proven, which it is after some run, a proof with enough challenges is accepted at the epochs of the
window and at no others.
-/
theorem Schedule.rows_agree_with_proving {s : Schedule} (active : 1 ≤ s.activation)
    (valid : s.params.Valid) {count : UInt64}
    (fits : s.activation.toNat + count.toNat * s.params.periodLength.toNat ≤
      Word.largest.toNat) :
    (s.rows count).length = count.toNat ∧
    (s.rows count).flatMap PeriodRow.epochs =
      List.range' (s.activation.toNat + 1) (count.toNat * s.params.periodLength.toNat) ∧
    ∀ p, p < count → ∃ r, (s.rows count)[p.toNat]? = some r ∧ r.period = p ∧
      (∀ epoch, r.firstEpoch ≤ epoch ∧ epoch ≤ r.deadline ↔
        s.activation < epoch ∧ s.periodContaining epoch = p) ∧
      (r.firstEpoch ≤ r.window.first ∧ r.window.first < r.window.last ∧
        r.window.last = r.deadline) ∧
      (∀ state : ProvingState, state.Awaits s p → ∀ epoch challenges period,
        state.checkProof epoch challenges = .ok period ↔
          challengesPerProof ≤ challenges ∧ r.window.contains epoch = true ∧ period = p) ∧
      (∀ steps state, ProvingState.Run s.params steps state → state.activation = s.activation →
        (state.Awaits s p ↔ state.isOpen = true ∧ state.openPeriod = p ∧
          state.isPeriodProven p = false)) ∧
      ∃ steps state, ProvingState.Run s.params steps state ∧ state.Awaits s p := by
  have hactive : s.isActive = true := by
    rw [UInt64.le_iff_toNat_le, UInt64.toNat_one] at active
    exact isActive_iff.mpr active
  have hpos : 0 < s.params.periodLength := UInt64.lt_trans valid.1 valid.2
  have hlen : 0 < s.params.periodLength.toNat := UInt64.lt_iff_toNat_lt.mp hpos
  have hfits := Nat.lt_succ_of_le fits
  refine ⟨length_rows s count, flatMap_epochs_rows hlen hfits, ?_⟩
  intro p hp
  have hends := endsAt_row (UInt64.lt_iff_toNat_lt.mp hp) hfits
  refine ⟨s.row p, getElem?_rows hp, rfl, ?_, hends.window_within_row valid, ?_, ?_, ?_⟩
  · intro epoch
    exact hends.mem_row_iff hactive hlen
  · intro state hawaits epoch challenges period
    exact hawaits.checkProof_eq_ok_iff hactive hlen hends
  · intro steps state hrun same
    exact hrun.awaits_iff same hactive hpos hends
  · exact ProvingState.exists_run_awaits hactive hlen hends

/-- The last deadline of the table is the last epoch. -/
theorem Schedule.rows_agree_with_proving_at_end :
    let s : Schedule := ⟨18446744073709551595, ⟨10, 4⟩⟩
    1 ≤ s.activation ∧ s.params.Valid ∧
      s.activation.toNat + (2 : UInt64).toNat * s.params.periodLength.toNat ≤ Word.largest.toNat ∧
      (s.rows 2).flatMap PeriodRow.epochs = List.range' 18446744073709551596 20 ∧
      s.deadline 1 = Word.largest ∧ s.periodContaining 18446744073709551606 = 1 ∧
      ∃ steps state, ProvingState.Run s.params steps state ∧ state.isOpen = true ∧
        state.openPeriod = 1 ∧ state.isPeriodProven 1 = false ∧
        state.checkProof 18446744073709551611 5 = .ok 1 ∧
        ∀ period, state.checkProof 18446744073709551610 5 ≠ .ok period := by
  intro s
  have hactive : 1 ≤ s.activation := by decide
  have hvalid : s.params.Valid := by decide
  have hfits : s.activation.toNat + (2 : UInt64).toNat * s.params.periodLength.toNat ≤
      Word.largest.toNat := by
    decide
  obtain ⟨-, hepochs, hrows⟩ := rows_agree_with_proving hactive hvalid hfits
  obtain ⟨r, hr, -, hmem, -, hproofs, hawaits, steps, state, hrun, hstate⟩ := hrows 1 (by decide)
  obtain rfl : (⟨1, 18446744073709551606, 18446744073709551615,
      ⟨18446744073709551611, 18446744073709551615⟩⟩ : PeriodRow) = r := Option.some.inj hr
  have hsame : state.activation = s.activation := by
    rw [← hstate.schedule_eq]
    rfl
  obtain ⟨hopen, hperiod, hunproven⟩ := (hawaits steps state hrun hsame).mp hstate
  refine ⟨hactive, hvalid, hfits, hepochs, by decide, ((hmem _).mp (by decide)).2, steps, state,
    hrun, hopen, hperiod, hunproven, ?_, ?_⟩
  · exact (hproofs state hstate _ _ _).mpr (by decide)
  · intro period haccepted
    have hwindow := ((hproofs state hstate _ _ _).mp haccepted).2.1
    exact absurd hwindow (by decide)

end WarmStorage

import WarmStorage.Proofs.Proving.Run

/-!
The deadline of an open period is one of the schedule, whatever the epochs of the steps and in
whatever order they come. So a proof is only ever accepted for a period whose challenge window has
started.
-/

namespace WarmStorage.ProvingState

variable {s : ProvingState} {step : Step} {epoch challenge count : UInt64} {a : Advance}
  {period q : UInt64}

structure Aligned (s : ProvingState) : Prop where
  length_pos : 0 < s.params.periodLength
  activation_fits : s.activation.toNat + s.params.periodLength.toNat < 18446744073709551616
  open_of_deadline : s.deadline ≠ 0 →
    s.activation ≠ 0 ∧ s.activation < s.deadline ∧ ∃ q, s.schedule.deadline q = s.deadline

theorem aligned_fresh {params : ProvingParams} (hlen : 0 < params.periodLength) :
    Aligned { params := params } := by
  refine ⟨hlen, ?_, fun hopen => absurd rfl hopen⟩
  rw [UInt64.toNat_zero, Nat.zero_add]
  exact params.periodLength.toNat_lt

theorem Aligned.toNat_length_pos (h : s.Aligned) : 0 < s.params.periodLength.toNat :=
  UInt64.lt_iff_toNat_lt.mp h.length_pos

theorem Invariant.aligned {last : Epoch} (h : s.Invariant last) : s.Aligned := by
  refine ⟨h.length_pos, h.activation_fits, ?_⟩
  intro unshut
  have opened := h.opened unshut
  exact ⟨opened.active, opened.activation_lt, s.openPeriod, opened.aligned⟩

theorem Aligned.deadline_openPeriod (h : s.Aligned) (hopen : s.deadline ≠ 0) :
    s.schedule.deadline s.openPeriod = s.deadline := by
  obtain ⟨active, hlt, q, hq⟩ := h.open_of_deadline hopen
  have hcovers := covers_of_le h.length_pos active (UInt64.le_of_lt hlt)
  rw [openPeriod, Schedule.periodOfDeadline_eq (UInt64.lt_iff_toNat_lt.mp hlt)]
  rw [← hq] at hcovers ⊢
  exact Schedule.deadline_periodContaining_deadline hcovers

theorem Aligned.activation_lt_deadline (h : s.Aligned) (q : UInt64) :
    s.activation < s.schedule.deadline q := by
  have hlen := h.toNat_length_pos
  have hfits := h.activation_fits
  have hwhole : s.params.periodLength.toNat ≤ (q.toNat + 1) * s.params.periodLength.toNat :=
    Nat.le_mul_of_pos_left _ (Nat.succ_pos _)
  rw [UInt64.lt_iff_toNat_lt, Schedule.toNat_deadline]
  dsimp only [schedule]
  omega

theorem exists_nextDeadlineAfter (s : Schedule) (epoch : Epoch) :
    ∃ q, s.deadline q = s.nextDeadlineAfter epoch := by
  unfold Schedule.nextDeadlineAfter
  split
  · exact ⟨_, rfl⟩
  · exact ⟨_, rfl⟩

theorem Aligned.covers_of_late (h : s.Aligned) (unshut : s.deadline ≠ 0)
    (late : s.deadline < epoch) : s.schedule.covers epoch = true := by
  obtain ⟨active, hlt, -⟩ := h.open_of_deadline unshut
  apply covers_of_le h.length_pos active
  exact UInt64.le_of_lt (UInt64.lt_trans hlt late)

theorem Aligned.endsAt_next {next : Epoch} (h : s.Aligned) (unshut : s.deadline ≠ 0)
    (late : s.deadline < epoch)
    (next_eq : next.toNat = s.deadline.toNat + s.params.periodLength.toNat *
      ((epoch.toNat - s.deadline.toNat - 1) / s.params.periodLength.toNat + 1)) :
    s.schedule.EndsAt (s.schedule.periodContaining epoch) next := by
  obtain ⟨-, -, q, hq⟩ := h.open_of_deadline unshut
  have hends : s.schedule.EndsAt q s.deadline := by
    rw [← hq] at late ⊢
    exact Schedule.endsAt_deadline_of_lt late
  exact hends.next (h.covers_of_late unshut late) late next_eq

theorem Aligned.applyAdvance (h : s.Aligned) (hadvance : s.checkAdvance epoch challenge = .ok a) :
    (s.applyAdvance a).Aligned := by
  cases checkAdvance_eq_ok_iff.mp hadvance with
  | @activated next inactive epoch_ne next_eq window =>
    have hlen := h.toNat_length_pos
    have := next.toNat_lt
    refine ⟨h.length_pos, ?_, fun _ => ⟨epoch_ne, ?_, 0, ?_⟩⟩
    · show epoch.toNat + s.params.periodLength.toNat < _
      omega
    · show epoch < next
      rw [UInt64.lt_iff_toNat_lt]
      omega
    · show (Schedule.mk epoch s.params).deadline 0 = next
      rw [← UInt64.toNat_inj, Schedule.toNat_deadline, UInt64.toNat_zero, Nat.zero_add, Nat.one_mul]
      dsimp only
      omega
  | reopened active shut window =>
    obtain ⟨q, hq⟩ := exists_nextDeadlineAfter s.schedule epoch
    refine ⟨h.length_pos, h.activation_fits, fun _ => ⟨active, ?_, q, hq⟩⟩
    show s.activation < s.schedule.nextDeadlineAfter epoch
    rw [← hq]
    exact h.activation_lt_deadline q
  | closed active unshut late unscheduled =>
    exact ⟨h.length_pos, h.activation_fits, fun hopen => absurd rfl hopen⟩
  | @advanced next active unshut late scheduled next_eq window =>
    have hlt := (h.open_of_deadline unshut).2.1
    refine ⟨h.length_pos, h.activation_fits, fun _ => ⟨active, ?_, _,
      (h.endsAt_next unshut late next_eq).deadline_eq⟩⟩
    show s.activation < next
    rw [UInt64.lt_iff_toNat_lt] at hlt ⊢
    omega

theorem Aligned.endsAt_applyAdvance (h : s.Aligned)
    (bounded : epoch.toNat + s.params.periodLength.toNat < 18446744073709551616)
    (hadvance : s.checkAdvance epoch challenge = .ok a) (hopen : a.nextDeadline ≠ noDeadline) :
    ∃ q, (s.applyAdvance a).schedule.EndsAt q a.nextDeadline := by
  cases checkAdvance_eq_ok_iff.mp hadvance with
  | activated _ _ next_eq =>
    refine ⟨0, ?_⟩
    rw [Schedule.EndsAt, UInt64.toNat_zero, Nat.zero_add, Nat.one_mul]
    exact next_eq
  | reopened active =>
    by_cases hlt : epoch < s.activation
    · exact ⟨0, Schedule.endsAt_nextDeadlineAfter_of_lt hlt h.activation_fits⟩
    · have hcovers := covers_of_le h.length_pos active (UInt64.not_lt.mp hlt)
      exact ⟨_, Schedule.endsAt_nextDeadlineAfter hcovers bounded⟩
  | closed => contradiction
  | advanced _ unshut late _ next_eq => exact ⟨_, h.endsAt_next unshut late next_eq⟩

theorem Aligned.apply (h : s.Aligned) (accepted : s.Accepts step) : (step.apply s).Aligned := by
  cases accepted with
  | proof => exact ⟨h.length_pos, h.activation_fits, h.open_of_deadline⟩
  | advance hadvance => exact h.applyAdvance hadvance

theorem Accepts.schedule_apply (h : s.Accepts step) (active : s.activation ≠ 0) :
    (step.apply s).schedule = s.schedule := by
  rw [schedule, schedule, h.activation_apply active, Step.params_apply]

theorem Aligned.isPeriodProven_apply (h : s.Aligned) (accepted : s.Accepts step)
    (early : s.activation ≠ 0 →
      step.epoch < s.schedule.windowStart (s.schedule.deadline q)) :
    (step.apply s).isPeriodProven q = s.isPeriodProven q := by
  cases accepted with
  | advance => rfl
  | proof hproof =>
    obtain ⟨-, -, unshut, hwindow, rfl⟩ := checkProof_eq_ok_iff.mp hproof
    show (s.recordProof s.openPeriod).isPeriodProven q = _
    have hne : s.openPeriod ≠ q := by
      rintro rfl
      have hstart := (ChallengeWindow.contains_iff.mp hwindow).1
      have early := early (h.open_of_deadline unshut).1
      rw [h.deadline_openPeriod unshut] at early
      exact UInt64.not_lt.mpr hstart early
    rw [isPeriodProven_recordProof, beq_eq_false_iff_ne.mpr hne, Bool.or_false]

end WarmStorage.ProvingState

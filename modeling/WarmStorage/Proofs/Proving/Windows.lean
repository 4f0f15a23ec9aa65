import Mathlib.Data.List.Count
import WarmStorage.Proofs.Proving.Alignment

/-!
Proven periods are the periods in whose challenge window a proof was accepted. At epochs that leave
room for one more period no deadline of a run is cut off, so that the windows of different periods
have no epoch in common, and the flag of the open period admits one proof for each of them.
-/

namespace WarmStorage.ProvingState

def proofs : List Step → List (Epoch × UInt64)
  | [] => []
  | .proof epoch period :: steps => (epoch, period) :: proofs steps
  | .advance _ _ :: steps => proofs steps

def proofEpochs (steps : List Step) : List Epoch :=
  (proofs steps).map Prod.fst

/-- All steps leave room for one more period. -/
def Bounded (params : ProvingParams) (steps : List Step) : Prop :=
  ∀ step ∈ steps, step.epoch ≤ Word.largest - params.periodLength

variable {params : ProvingParams} {s : ProvingState} {steps : List Step} {step : Step}
  {epoch last challenge : Epoch} {a : Advance} {p : UInt64}

theorem le_largest_sub_iff {length : UInt64} : epoch ≤ Word.largest - length ↔
    epoch.toNat + length.toNat < 18446744073709551616 := by
  have hle : length ≤ Word.largest := by
    rw [UInt64.le_iff_toNat_le]
    exact Nat.le_of_lt_succ length.toNat_lt
  have hlargest : Word.largest.toNat = 18446744073709551615 := rfl
  have := UInt64.le_iff_toNat_le.mp hle
  rw [UInt64.le_iff_toNat_le, UInt64.toNat_sub_of_le _ _ hle, hlargest]
  omega

theorem Bounded.head (h : Bounded params (step :: steps)) :
    step.epoch.toNat + params.periodLength.toNat < 18446744073709551616 :=
  le_largest_sub_iff.mp (h step List.mem_cons_self)

theorem Bounded.tail (h : Bounded params (step :: steps)) : Bounded params steps :=
  fun other hother => h other (List.mem_cons_of_mem _ hother)

theorem Run.endsAt (hlen : 0 < params.periodLength) (h : Run params steps s)
    (bounded : Bounded params steps) (hopen : s.deadline ≠ 0) :
    s.schedule.EndsAt s.openPeriod s.deadline := by
  have hinv := h.invariant hlen
  have hends : ∃ p, s.schedule.EndsAt p s.deadline := by
    induction h with
    | fresh => exact absurd rfl hopen
    | step before later accepted ih =>
      have hinv' := before.invariant hlen
      cases accepted with
      | proof => exact ih bounded.tail hopen hinv'
      | advance hadvance =>
        have hbounded := bounded.head
        rw [← before.params_eq] at hbounded
        exact hinv'.aligned.endsAt_applyAdvance hbounded hadvance hopen
  obtain ⟨p, hp⟩ := hends
  have opened := hinv.opened hopen
  rw [openPeriod, hp.periodOfDeadline_eq]
  · exact hp
  · exact isActive_iff.mpr opened.active
  · exact UInt64.lt_iff_toNat_lt.mp hinv.length_pos

structure Recorded (s : ProvingState) (proofs : List (Epoch × UInt64)) : Prop where
  window : ∀ proof ∈ proofs, s.schedule.EndsAt proof.2 (s.schedule.deadline proof.2) ∧
    (s.schedule.window (s.schedule.deadline proof.2)).contains proof.1 = true
  proven : ∀ p, s.isPeriodProven p = true ↔ p ∈ proofs.map Prod.snd
  once : (proofs.map Prod.snd).Nodup

theorem Recorded.applyAdvance {proofs : List (Epoch × UInt64)} (h : s.Recorded proofs)
    (hinv : s.Invariant last) (hadvance : s.checkAdvance epoch challenge = .ok a) :
    (s.applyAdvance a).Recorded proofs := by
  refine ⟨?_, h.proven, h.once⟩
  intro proof hproof
  have hproven := (h.proven proof.2).mpr (List.mem_map_of_mem hproof)
  have active : s.activation ≠ 0 := by
    intro inactive
    rw [hinv.not_proven_of_inactive inactive] at hproven
    contradiction
  -- something was proven, so this is not an activation, and the schedule stays
  have hschedule : (s.applyAdvance a).schedule = s.schedule := by
    have hkeep := (Accepts.advance hadvance).activation_apply active
    unfold schedule
    rw [show (s.applyAdvance a).activation = s.activation from hkeep]
    rfl
  rw [hschedule]
  exact h.window proof hproof

theorem Recorded.recordProof {proofs : List (Epoch × UInt64)} {count : UInt64}
    (h : s.Recorded proofs) (hends : s.schedule.EndsAt s.openPeriod s.deadline)
    (opened : s.Opened last) (hproof : s.checkProof epoch count = .ok p) :
    (s.recordProof p).Recorded ((epoch, p) :: proofs) := by
  obtain ⟨hflag, -, -, hwindow, rfl⟩ := checkProof_eq_ok_iff.mp hproof
  rw [opened.flag, ← Bool.not_eq_true, h.proven] at hflag
  refine ⟨?_, ?_, ?_⟩
  · intro proof hmem
    cases List.mem_cons.mp hmem with
    | inl heq =>
      rw [heq]
      show s.schedule.EndsAt s.openPeriod (s.schedule.deadline s.openPeriod) ∧
        (s.schedule.window (s.schedule.deadline s.openPeriod)).contains epoch = true
      rw [hends.deadline_eq]
      exact ⟨hends, hwindow⟩
    | inr hmem => exact h.window proof hmem
  · intro q
    rw [isPeriodProven_recordProof, Bool.or_eq_true, h.proven, List.map_cons, List.mem_cons,
      beq_iff_eq, eq_comm, or_comm]
  · rw [List.map_cons, List.nodup_cons]
    exact ⟨hflag, h.once⟩

theorem Run.recorded (hlen : 0 < params.periodLength) (h : Run params steps s)
    (bounded : Bounded params steps) : s.Recorded (proofs steps) := by
  induction h with
  | fresh =>
    refine ⟨?_, ?_, .nil⟩
    · intro proof hproof
      contradiction
    · intro p
      rw [isPeriodProven, ProvenPeriods.contains_empty]
      simp [proofs]
  | step before _ accepted ih =>
    have hrecorded := ih bounded.tail
    have hinv := before.invariant hlen
    cases accepted with
    | proof hproof =>
      have unshut := (checkProof_eq_ok_iff.mp hproof).2.2.1
      exact hrecorded.recordProof (before.endsAt hlen bounded.tail unshut) (hinv.opened unshut)
        hproof
    | advance hadvance => exact hrecorded.applyAdvance hinv hadvance

theorem Bounded.of_mem_proofs (h : Bounded params steps) {proof : Epoch × UInt64}
    (hproof : proof ∈ proofs steps) :
    proof.1.toNat + params.periodLength.toNat < 18446744073709551616 := by
  induction steps with
  | nil => contradiction
  | cons step steps ih =>
    cases step with
    | proof epoch period =>
      cases List.mem_cons.mp hproof with
      | inl heq =>
        rw [heq]
        exact h.head
      | inr hmem => exact ih h.tail hmem
    | advance => exact ih h.tail hproof

theorem Run.active_of_mem_proofs (hlen : 0 < params.periodLength) (h : Run params steps s)
    (bounded : Bounded params steps) {proof : Epoch × UInt64} (hproof : proof ∈ proofs steps) :
    s.schedule.isActive = true := by
  have hproven := ((h.recorded hlen bounded).proven proof.2).mpr (List.mem_map_of_mem hproof)
  rw [show s.schedule.isActive = s.isActive from rfl, isActive_iff]
  intro inactive
  rw [(h.invariant hlen).not_proven_of_inactive inactive] at hproven
  contradiction

theorem Run.window_contains_iff (valid : params.Valid) (h : Run params steps s)
    (bounded : Bounded params steps) {proof : Epoch × UInt64} (hproof : proof ∈ proofs steps) :
    (s.schedule.window (s.schedule.deadline p)).contains proof.1 = true ↔ proof.2 = p := by
  have hlen := UInt64.lt_trans valid.1 valid.2
  have hparams : s.schedule.params = params := h.params_eq
  have active := h.active_of_mem_proofs hlen bounded hproof
  obtain ⟨hends, hwindow⟩ := (h.recorded hlen bounded).window proof hproof
  constructor
  · intro hother
    have hroom := bounded.of_mem_proofs hproof
    rw [← hparams] at valid hroom
    rw [← hends.periodContaining_of_window active valid hwindow]
    exact (Schedule.endsAt_deadline_of_window valid.2 hroom hother).periodContaining_of_window
      active valid hother
  · rintro rfl
    exact hwindow

theorem Run.countP_proofEpochs (valid : params.Valid) (h : Run params steps s)
    (bounded : Bounded params steps) :
    (proofEpochs steps).countP (s.schedule.window (s.schedule.deadline p)).contains =
      ((proofs steps).map Prod.snd).count p := by
  rw [proofEpochs, List.countP_map, List.count, List.countP_map]
  apply List.countP_congr
  intro proof hproof
  rw [Function.comp_apply, h.window_contains_iff valid bounded hproof, Function.comp_apply,
    beq_iff_eq]

/--
A period is proven when one proof was accepted in its challenge window, and not proven when none
was; the epochs of that window lie in the period.
-/
theorem Run.isPeriodProven_iff_one_proof_in_window (valid : params.Valid) (h : Run params steps s)
    (bounded : ∀ step ∈ steps, step.epoch ≤ Word.largest - params.periodLength) (p : UInt64) :
    (s.isPeriodProven p = true ↔
      (proofEpochs steps).countP (s.schedule.window (s.schedule.deadline p)).contains = 1) ∧
    (∀ epoch ∈ proofEpochs steps,
      (s.schedule.window (s.schedule.deadline p)).contains epoch = true →
        s.schedule.periodContaining epoch = p) ∧
    (s.isPeriodProven p = false → ∀ epoch ∈ proofEpochs steps,
      (s.schedule.window (s.schedule.deadline p)).contains epoch = false) := by
  have hlen := UInt64.lt_trans valid.1 valid.2
  have hrecorded := h.recorded hlen bounded
  refine ⟨?_, ?_, ?_⟩
  · rw [hrecorded.proven, h.countP_proofEpochs valid bounded]
    constructor
    · intro hmem
      exact List.count_eq_one_of_mem hrecorded.once hmem
    · intro hcount
      rw [← List.count_pos_iff, hcount]
      exact Nat.one_pos
  · intro epoch hepoch hwindow
    obtain ⟨proof, hproof, rfl⟩ := List.mem_map.mp hepoch
    -- the proof was for the open period, and its window is the one of the deadline
    have active := h.active_of_mem_proofs hlen bounded hproof
    have hvalid : s.schedule.params.Valid := by
      rw [show s.schedule.params = params from h.params_eq]
      exact valid
    rw [h.window_contains_iff valid bounded hproof] at hwindow
    rw [← hwindow]
    obtain ⟨hends, hinside⟩ := hrecorded.window proof hproof
    exact hends.periodContaining_of_window active hvalid hinside
  · intro hunproven epoch hepoch
    obtain ⟨proof, hproof, rfl⟩ := List.mem_map.mp hepoch
    rw [← Bool.not_eq_true, h.window_contains_iff valid bounded hproof]
    rintro rfl
    rw [← Bool.not_eq_true, hrecorded.proven] at hunproven
    exact hunproven (List.mem_map_of_mem hproof)

theorem one_proof_in_window_of_sampleSteps :
    ∃ s, Run ⟨2880, 60⟩ sampleSteps s ∧ s.isPeriodProven 0 = true ∧
      (proofEpochs sampleSteps).countP (s.schedule.window (s.schedule.deadline 0)).contains = 1 := by
  have hproven := (run_sampleSteps.isPeriodProven_iff_one_proof_in_window (by decide)
    (by decide) 0).1
  have hcount : (proofEpochs sampleSteps).countP
      ((Schedule.mk 1000 ⟨2880, 60⟩).window
        ((Schedule.mk 1000 ⟨2880, 60⟩).deadline 0)).contains = 1 := by
    decide
  exact ⟨_, run_sampleSteps, hproven.mpr hcount, hcount⟩

end WarmStorage.ProvingState

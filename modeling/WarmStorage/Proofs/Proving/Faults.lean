import WarmStorage.Proofs.Proving.Periods
import WarmStorage.Proofs.Proving.Run

/-!
Faults count the periods that end without a proof. The faults that an advance reports are the
periods from the open one on and before the period of its epoch that are not in the set of proven
periods, so that over a run without a close every period that ended is proven or reported once.
-/

namespace WarmStorage.ProvingState

def reportedFaults : List Step → List Nat
  | [] => []
  | .proof _ _ :: steps => reportedFaults steps
  | .advance _ a :: steps => a.faultedPeriods.toNat :: reportedFaults steps

variable {params : ProvingParams} {s : ProvingState} {steps : List Step}
  {epoch last challenge : Epoch}
  {a : Advance}

theorem toNat_faultedAt (ended : s.deadline < epoch) : (s.faultedAt epoch).toNat =
    (epoch.toNat - s.deadline.toNat - 1) / s.params.periodLength.toNat +
      if s.provenThisPeriod = true then 0 else 1 := by
  unfold faultedAt
  split
  · rw [UInt64.add_zero, toNat_periodsSkipped ended, Nat.add_zero]
  · exact toNat_periodsSkipped_add_one ended

theorem Opened.toNat_faultedAt (h : s.Opened last) (hcovers : s.schedule.covers epoch = true)
    (ended : s.deadline < epoch) :
    (s.faultedAt epoch).toNat =
      (s.proven.missingIn s.openPeriod.toNat (s.schedule.periodContaining epoch).toNat).card := by
  have hperiod := (h.endsAt_of_lt ended).toNat_periodContaining_of_lt hcovers ended
  have hfaulted := ProvingState.toNat_faultedAt ended
  have hparams : s.schedule.params = s.params := rfl
  rw [hparams] at hperiod
  generalize (epoch.toNat - s.deadline.toNat - 1) / s.params.periodLength.toNat = skipped
    at hperiod hfaulted
  have hlt : s.openPeriod < s.schedule.periodContaining epoch := by
    rw [UInt64.lt_iff_toNat_lt, hperiod]
    omega
  have hflag : s.proven.contains s.openPeriod = s.provenThisPeriod := h.flag.symm
  have hproven := ProvenPeriods.card_periodsIn_of_le h.bits hlt
  have hsum := s.proven.card_periodsIn_add_card_missingIn s.openPeriod.toNat
    (s.schedule.periodContaining epoch).toNat
  rw [hproven, hflag] at hsum
  rw [hperiod] at hsum ⊢
  rw [hfaulted]
  split
  · rename_i hproven
    rw [if_pos hproven] at hsum
    omega
  · rename_i hunproven
    rw [if_neg hunproven] at hsum
    omega

theorem Invariant.toNat_faultedPeriods (h : s.Invariant last) (later : last ≤ epoch)
    (hadvance : s.checkAdvance epoch challenge = .ok a)
    (hkind : a.kind = .advanced ∨ a.kind = .closed) :
    s.activation ≠ 0 ∧ s.deadline = a.previousDeadline ∧ a.faultedPeriods.toNat =
      (s.proven.missingIn s.openPeriod.toNat (s.schedule.periodContaining epoch).toNat).card := by
  have hle := UInt64.le_trans h.activation_le later
  cases checkAdvance_eq_ok_iff.mp hadvance with
  | activated => simp at hkind
  | reopened => simp at hkind
  | closed active unshut late =>
    have hcovers := covers_of_le h.length_pos active hle
    exact ⟨active, rfl, (h.opened unshut).toNat_faultedAt hcovers late⟩
  | advanced active unshut late =>
    have hcovers := covers_of_le h.length_pos active hle
    exact ⟨active, rfl, (h.opened unshut).toNat_faultedAt hcovers late⟩

theorem Invariant.openPeriod_applyAdvance (h : s.Invariant last) (later : last ≤ epoch)
    (hadvance : s.checkAdvance epoch challenge = .ok a) (hkind : a.kind = .advanced) :
    s.schedule.EndsAt (s.schedule.periodContaining epoch) a.nextDeadline ∧
      (s.applyAdvance a).openPeriod = s.schedule.periodContaining epoch := by
  have hle := UInt64.le_trans h.activation_le later
  cases checkAdvance_eq_ok_iff.mp hadvance with
  | activated => contradiction
  | reopened => contradiction
  | closed => contradiction
  | advanced active unshut late _ next_eq =>
    have hcovers := covers_of_le h.length_pos active hle
    have hends := ((h.opened unshut).endsAt_of_lt late).next hcovers late next_eq
    exact ⟨hends, hends.periodOfDeadline_eq (isActive_iff.mpr active)
      (UInt64.lt_iff_toNat_lt.mp h.length_pos)⟩

def accounted (s : ProvingState) (steps : List Step) : Nat :=
  (reportedFaults steps).sum + (s.proven.periodsIn 0 s.openPeriod.toNat).card

structure Accounted (s : ProvingState) (steps : List Step) : Prop where
  inactive : s.activation = 0 → (reportedFaults steps).sum = 0
  unshut : s.activation ≠ 0 → s.deadline ≠ 0
  all : s.activation ≠ 0 → s.accounted steps = s.openPeriod.toNat

theorem Accounted.recordProof {count p : UInt64} (h : s.Accounted steps)
    (hproof : s.checkProof epoch count = .ok p) :
    (s.recordProof p).Accounted (.proof epoch p :: steps) := by
  refine ⟨h.inactive, h.unshut, ?_⟩
  intro active
  obtain ⟨-, -, -, -, rfl⟩ := checkProof_eq_ok_iff.mp hproof
  -- the proof is for the open period, which is not one of the periods before it
  have hbelow : (s.recordProof s.openPeriod).proven.periodsIn 0 s.openPeriod.toNat =
      s.proven.periodsIn 0 s.openPeriod.toNat := by
    apply ProvenPeriods.periodsIn_congr
    intro q hq
    show (s.recordProof s.openPeriod).isPeriodProven q = _
    rw [isPeriodProven_recordProof, beq_eq_false_iff_ne.mpr (UInt64.ne_of_lt hq).symm,
      Bool.or_false]
    rfl
  show _ + ((s.recordProof s.openPeriod).proven.periodsIn 0 s.openPeriod.toNat).card = _
  rw [hbelow]
  exact h.all active

theorem Accounted.activated (h : s.Accounted steps) (hlen : 0 < s.params.periodLength)
    (inactive : s.activation = 0) (epoch_ne : epoch ≠ 0) {next : Epoch}
    (next_eq : next.toNat = epoch.toNat + s.params.periodLength.toNat) :
    (s.applyAdvance ⟨.activated, epoch, noDeadline, next, 0⟩).Accounted
      (.advance epoch ⟨.activated, epoch, noDeadline, next, 0⟩ :: steps) := by
  have active : (Schedule.mk epoch s.params).isActive = true := bne_iff_ne.mpr epoch_ne
  have hends : (Schedule.mk epoch s.params).EndsAt 0 next := by
    rw [Schedule.EndsAt, UInt64.toNat_zero, Nat.zero_add, Nat.one_mul]
    exact next_eq
  have hperiod : (s.applyAdvance ⟨.activated, epoch, noDeadline, next, 0⟩).openPeriod = 0 :=
    hends.periodOfDeadline_eq active (UInt64.lt_iff_toNat_lt.mp hlen)
  refine ⟨?_, ?_, ?_⟩
  · intro hepoch
    exact absurd hepoch epoch_ne
  · intro _
    exact hends.ne_zero active
  · intro _
    rw [accounted, hperiod, reportedFaults, List.sum_cons, h.inactive inactive, UInt64.toNat_zero,
      ProvenPeriods.periodsIn, Finset.Ico_self]
    rfl

theorem Accounted.advanced (h : s.Accounted steps) (hinv : s.Invariant last) (later : last ≤ epoch)
    (hadvance : s.checkAdvance epoch challenge = .ok a) (hkind : a.kind = .advanced) :
    (s.applyAdvance a).Accounted (.advance epoch a :: steps) := by
  obtain ⟨active, -, hfaulted⟩ := hinv.toNat_faultedPeriods later hadvance (.inl hkind)
  obtain ⟨hends, hperiod⟩ := hinv.openPeriod_applyAdvance later hadvance hkind
  have hcovers := covers_of_le hinv.length_pos active (UInt64.le_trans hinv.activation_le later)
  have opened := hinv.opened (h.unshut active)
  have ended := hinv.deadline_lt_of_advance later hadvance
  have hle : s.openPeriod ≤ s.schedule.periodContaining epoch := by
    rw [opened.openPeriod_eq]
    apply Schedule.periodContaining_mono _ (UInt64.le_of_lt ended)
    exact covers_of_le hinv.length_pos active (UInt64.le_of_lt opened.activation_lt)
  refine ⟨?_, ?_, ?_⟩
  · intro inactive
    have hkeep := (Accepts.advance hadvance).activation_apply active
    exact absurd (hkeep.symm.trans inactive) active
  · intro _
    have hactive : s.schedule.isActive = true := isActive_iff.mpr active
    exact hends.ne_zero hactive
  · -- the periods from the old open one to the new one are proven or reported now
    intro _
    have hall := h.all active
    have hle := UInt64.le_iff_toNat_le.mp hle
    have hsplit := s.proven.card_periodsIn_split (Nat.zero_le s.openPeriod.toNat) hle
    have hsum := s.proven.card_periodsIn_add_card_missingIn s.openPeriod.toNat
      (s.schedule.periodContaining epoch).toNat
    rw [accounted] at hall
    rw [accounted, hperiod, reportedFaults, List.sum_cons, hfaulted]
    show _ + (s.proven.periodsIn 0 (s.schedule.periodContaining epoch).toNat).card = _
    omega

theorem Accounted.applyAdvance (h : s.Accounted steps) (hinv : s.Invariant last)
    (later : last ≤ epoch) (hadvance : s.checkAdvance epoch challenge = .ok a)
    (hkind : a.kind ≠ .closed) : (s.applyAdvance a).Accounted (.advance epoch a :: steps) := by
  have hadvances := checkAdvance_eq_ok_iff.mp hadvance
  cases hadvances with
  | activated inactive epoch_ne next_eq =>
    exact h.activated hinv.length_pos inactive epoch_ne next_eq
  | reopened active shut => exact absurd shut (h.unshut active)
  | closed => contradiction
  | advanced => exact h.advanced hinv later hadvance rfl

theorem Run.accounted (hlen : 0 < params.periodLength) (h : Run params steps s)
    (unclosed : ∀ epoch a, .advance epoch a ∈ steps → a.kind ≠ .closed) : s.Accounted steps := by
  induction h with
  | fresh => exact ⟨fun _ => rfl, fun active => absurd rfl active, fun active => absurd rfl active⟩
  | step before later accepted ih =>
    have hbefore := ih fun epoch a hmem => unclosed epoch a (List.mem_cons_of_mem _ hmem)
    cases accepted with
    | proof hproof => exact hbefore.recordProof hproof
    | advance hadvance =>
      exact hbefore.applyAdvance (before.invariant hlen) later hadvance
        (unclosed _ _ List.mem_cons_self)

theorem Run.exists_of_mem_advance (hlen : 0 < params.periodLength) (h : Run params steps s)
    (hmem : .advance epoch a ∈ steps) (hkind : a.kind = .advanced ∨ a.kind = .closed) :
    ∃ (t : ProvingState) (last challenge : Epoch), t.Invariant last ∧ last ≤ epoch ∧
      t.checkAdvance epoch challenge = .ok a ∧ s.schedule = t.schedule ∧
      ∀ p, p < t.schedule.periodContaining epoch → s.isPeriodProven p = t.isPeriodProven p := by
  obtain ⟨later, before, rfl⟩ := List.append_of_mem hmem
  obtain ⟨t', hadvanced⟩ := h.of_append
  have hsteps := hadvanced
  cases hsteps with
  | @step _ t _ ht hlater accepted =>
    cases accepted with
    | @advance _ challenge _ hadvance =>
      have hinv := ht.invariant hlen
      have active := (hinv.toNat_faultedPeriods hlater hadvance hkind).1
      have hkeep : (t.applyAdvance a).activation = t.activation :=
        (Accepts.advance hadvance).activation_apply active
      have hschedule : (t.applyAdvance a).schedule = t.schedule := by
        rw [schedule, hkeep]
        rfl
      have active' : (t.applyAdvance a).activation ≠ 0 := by
        rw [hkeep]
        exact active
      have hcovers :=
        covers_of_le hinv.length_pos active (UInt64.le_trans hinv.activation_le hlater)
      refine ⟨t, _, challenge, hinv, hlater, hadvance, ?_, ?_⟩
      · exact (hadvanced.schedule_eq active' h).trans hschedule
      · intro p hp
        rw [← hschedule] at hcovers hp
        show s.isPeriodProven p = (t.applyAdvance a).isPeriodProven p
        exact hadvanced.isPeriodProven_eq hlen active' h hcovers (UInt64.le_refl _) hp

/-- The faults of an advance are final: later proofs are for later periods. -/
theorem Run.toNat_faultedPeriods (hlen : 0 < params.periodLength) (h : Run params steps s)
    (hmem : .advance epoch a ∈ steps) (hkind : a.kind = .advanced ∨ a.kind = .closed) :
    a.faultedPeriods.toNat = (s.proven.missingIn
      (s.schedule.periodOfDeadline a.previousDeadline).toNat
      (s.schedule.periodContaining epoch).toNat).card := by
  obtain ⟨t, last, challenge, hinv, later, hadvance, hschedule, hfinal⟩ :=
    h.exists_of_mem_advance hlen hmem hkind
  obtain ⟨-, hdeadline, hfaulted⟩ := hinv.toNat_faultedPeriods later hadvance hkind
  rw [hschedule, ← hdeadline, hfaulted]
  apply congrArg Finset.card
  apply ProvenPeriods.missingIn_congr
  intro p hp
  exact (hfinal p hp).symm

theorem Run.openPeriod_of_advanced (hlen : 0 < params.periodLength) (h : Run params steps s)
    (hmem : .advance epoch a ∈ steps) (hkind : a.kind = .advanced) :
    s.schedule.EndsAt (s.schedule.periodContaining epoch) a.nextDeadline ∧
      s.schedule.periodOfDeadline a.nextDeadline = s.schedule.periodContaining epoch := by
  obtain ⟨t, last, challenge, hinv, later, hadvance, hschedule, -⟩ :=
    h.exists_of_mem_advance hlen hmem (.inl hkind)
  have active := (hinv.toNat_faultedPeriods later hadvance (.inl hkind)).1
  have hactive : t.schedule.isActive = true := isActive_iff.mpr active
  have hends := (hinv.openPeriod_applyAdvance later hadvance hkind).1
  rw [hschedule]
  exact ⟨hends, hends.periodOfDeadline_eq hactive (UInt64.lt_iff_toNat_lt.mp hinv.length_pos)⟩

/--
An advance out of an open period reports the periods from there to its epoch that are not proven,
and opens the period of its epoch; without a close all periods before the open one are accounted
for, each as proven or as faulted.
-/
theorem Run.faults_agree_with_proven (valid : params.Valid) (h : Run params steps s) :
    (∀ epoch a, .advance epoch a ∈ steps → a.kind = .advanced ∨ a.kind = .closed →
      a.faultedPeriods.toNat = (s.proven.missingIn
        (s.schedule.periodOfDeadline a.previousDeadline).toNat
        (s.schedule.periodContaining epoch).toNat).card ∧
      (a.kind = .advanced →
        a.nextDeadline = s.schedule.deadline (s.schedule.periodContaining epoch) ∧
        s.schedule.periodOfDeadline a.nextDeadline = s.schedule.periodContaining epoch)) ∧
    (s.isActive = true → (∀ epoch a, .advance epoch a ∈ steps → a.kind ≠ .closed) →
      s.isOpen = true ∧
      (reportedFaults steps).sum +
        (s.proven.periodsIn 0 (s.schedule.periodOfDeadline s.deadline).toNat).card =
          (s.schedule.periodOfDeadline s.deadline).toNat) := by
  have hlen := UInt64.lt_trans valid.1 valid.2
  constructor
  · intro epoch a hmem hkind
    refine ⟨h.toNat_faultedPeriods hlen hmem hkind, ?_⟩
    intro hadvanced
    obtain ⟨hends, hperiod⟩ := h.openPeriod_of_advanced hlen hmem hadvanced
    exact ⟨hends.deadline_eq.symm, hperiod⟩
  · intro active unclosed
    have hactive := isActive_iff.mp active
    have haccounted := h.accounted hlen unclosed
    exact ⟨isOpen_iff.mpr (haccounted.unshut hactive), haccounted.all hactive⟩

theorem faults_agree_with_proven_of_sampleSteps :
    ∃ s, Run ⟨2880, 60⟩ sampleSteps s ∧ (⟨2880, 60⟩ : ProvingParams).Valid ∧
      (s.proven.missingIn 0 3).card = 2 := by
  have h := (run_sampleSteps.faults_agree_with_proven (by decide)).1 10000
    ⟨.advanced, 1000, 3880, 12520, 2⟩ (by simp [sampleSteps]) (.inl rfl)
  exact ⟨_, run_sampleSteps, by decide, h.1.symm⟩

end WarmStorage.ProvingState

import WarmStorage.Proofs.Schedule.Geometry
import WarmStorage.Proving.State

/-!
What the checks of proofs and advances accept. `Advances` lists the four kinds of advances with
their conditions, and `checkAdvance_eq_ok_iff` says that the check accepts these and no others, so
that later proofs split on the kind of an advance and never open the check.
-/

namespace WarmStorage.ProvingState

variable {s : ProvingState} {epoch challenge count : UInt64} {a : Advance}

theorem isActive_iff : s.isActive = true ↔ s.activation ≠ 0 := by
  rw [isActive, bne_iff_ne]

theorem isOpen_iff : s.isOpen = true ↔ s.deadline ≠ 0 := by
  rw [isOpen, bne_iff_ne, noDeadline]

theorem checkProof_eq_ok_iff {period : UInt64} : s.checkProof epoch count = .ok period ↔
    s.provenThisPeriod = false ∧ challengesPerProof ≤ count ∧ s.deadline ≠ 0 ∧
      (s.schedule.window s.deadline).contains epoch = true ∧
      period = s.schedule.periodOfDeadline s.deadline := by
  have hlast : (s.schedule.window s.deadline).last = s.deadline := rfl
  rw [ChallengeWindow.contains_iff, hlast]
  unfold checkProof
  dsimp only
  constructor
  · intro h
    split at h
    · contradiction
    split at h
    · contradiction
    split at h
    · contradiction
    split at h
    · contradiction
    split at h
    · contradiction
    rename_i hproven hcount hopen hlate hearly
    rw [Except.ok.injEq] at h
    rw [Bool.not_eq_true, Bool.not_eq_false', isOpen_iff] at hopen
    exact ⟨by simpa using hproven, UInt64.not_lt.mp hcount, hopen,
      ⟨UInt64.not_lt.mp hearly, UInt64.not_lt.mp hlate⟩, h.symm⟩
  · rintro ⟨hproven, hcount, hopen, ⟨hearly, hlate⟩, rfl⟩
    rw [← isOpen_iff] at hopen
    simp [hproven, UInt64.not_lt.mpr hcount, hopen, UInt64.not_lt.mpr hearly,
      UInt64.not_lt.mpr hlate]

/-- Periods that end without a proof when the open period is left at `epoch`. -/
def faultedAt (s : ProvingState) (epoch : Epoch) : UInt64 :=
  periodsSkipped s.deadline epoch s.params.periodLength + (if s.provenThisPeriod then 0 else 1)

inductive Advances (s : ProvingState) (epoch challenge : Epoch) : Advance → Prop where
  | activated {next : Epoch} (inactive : s.activation = 0) (epoch_ne : epoch ≠ 0)
      (next_eq : next.toNat = epoch.toNat + s.params.periodLength.toNat)
      (window : (s.schedule.window next).contains challenge = true) :
      Advances s epoch challenge ⟨.activated, epoch, noDeadline, next, 0⟩
  | reopened (active : s.activation ≠ 0) (shut : s.deadline = 0)
      (window : (s.schedule.window (s.schedule.nextDeadlineAfter epoch)).contains challenge = true) :
      Advances s epoch challenge
        ⟨.reopened, s.activation, noDeadline, s.schedule.nextDeadlineAfter epoch, 0⟩
  | closed (active : s.activation ≠ 0) (unshut : s.deadline ≠ 0) (late : s.deadline < epoch)
      (unscheduled : challenge = noChallenge) :
      Advances s epoch challenge
        ⟨.closed, s.activation, s.deadline, noDeadline, s.faultedAt epoch⟩
  | advanced {next : Epoch} (active : s.activation ≠ 0) (unshut : s.deadline ≠ 0)
      (late : s.deadline < epoch) (scheduled : challenge ≠ noChallenge)
      (next_eq : next.toNat = s.deadline.toNat + s.params.periodLength.toNat *
        ((epoch.toNat - s.deadline.toNat - 1) / s.params.periodLength.toNat + 1))
      (window : (s.schedule.window next).contains challenge = true) :
      Advances s epoch challenge
        ⟨.advanced, s.activation, s.deadline, next, s.faultedAt epoch⟩

theorem checkChallenge_bind_eq_ok_iff {deadline : Epoch} {b : Advance} :
    (do s.checkChallenge deadline challenge; return b) = Except.ok a ↔
      (s.schedule.window deadline).contains challenge = true ∧ a = b := by
  unfold checkChallenge
  dsimp only
  split
  · rename_i h
    simp [h, bind, Except.bind, pure, Except.pure, eq_comm]
  · rename_i h
    simp [h, bind, Except.bind]

theorem checkActivation_eq_ok_iff : s.checkActivation epoch challenge = .ok a ↔
    epoch ≠ 0 ∧ ∃ next, next.toNat = epoch.toNat + s.params.periodLength.toNat ∧
      (s.schedule.window next).contains challenge = true ∧
      a = ⟨.activated, epoch, noDeadline, next, 0⟩ := by
  unfold checkActivation
  dsimp only
  split
  · rename_i h
    simp [h, throw, throwThe, MonadExceptOf.throw, bind, Except.bind]
  · rename_i h
    cases hadd : Word.exactAdd? epoch s.params.periodLength with
    | none =>
      simp only [throw, throwThe, MonadExceptOf.throw, reduceCtorEq, false_iff]
      rintro ⟨-, next, hnext, -⟩
      -- a deadline that exists as a number of 64 bits would have been found
      rw [← Word.fit?_eq_some_iff, ← Word.exactAdd?, hadd] at hnext
      contradiction
    | some next =>
      have hnext := Word.fit?_eq_some_iff.mp hadd
      simp only [checkChallenge_bind_eq_ok_iff]
      constructor
      · rintro ⟨hwindow, rfl⟩
        exact ⟨h, next, hnext, hwindow, rfl⟩
      · rintro ⟨-, other, hother, hwindow, rfl⟩
        have heq : other = next := UInt64.toNat_inj.mp (hother.trans hnext.symm)
        subst heq
        exact ⟨hwindow, rfl⟩

theorem checkReopening_eq_ok_iff : s.checkReopening epoch challenge = .ok a ↔
    (s.schedule.window (s.schedule.nextDeadlineAfter epoch)).contains challenge = true ∧
      a = ⟨.reopened, s.activation, noDeadline, s.schedule.nextDeadlineAfter epoch, 0⟩ :=
  checkChallenge_bind_eq_ok_iff

theorem nextDeadline_eq_some_iff {next : Epoch} (late : s.deadline < epoch) :
    (Word.exactMul? s.params.periodLength
        (periodsSkipped s.deadline epoch s.params.periodLength + 1)).bind
      (Word.exactAdd? s.deadline) = some next ↔
    next.toNat = s.deadline.toNat + s.params.periodLength.toNat *
      ((epoch.toNat - s.deadline.toNat - 1) / s.params.periodLength.toNat + 1) := by
  simp only [Option.bind_eq_some_iff, Word.exactAdd?, Word.exactMul?, Word.fit?_eq_some_iff,
    toNat_periodsSkipped_add_one late]
  constructor
  · rintro ⟨offset, hoffset, hnext⟩
    rw [hnext, hoffset]
  · intro hnext
    have := next.toNat_lt
    refine ⟨UInt64.ofNat (next.toNat - s.deadline.toNat), ?_⟩
    rw [UInt64.toNat_ofNat_of_lt' (by simp only [UInt64.size]; omega)]
    omega

theorem checkNext_eq_ok_iff : s.checkNext epoch challenge = .ok a ↔
    s.deadline < epoch ∧
      (challenge = noChallenge ∧
          a = ⟨.closed, s.activation, s.deadline, noDeadline, s.faultedAt epoch⟩ ∨
        challenge ≠ noChallenge ∧ ∃ next : Epoch,
          next.toNat = s.deadline.toNat + s.params.periodLength.toNat *
            ((epoch.toNat - s.deadline.toNat - 1) / s.params.periodLength.toNat + 1) ∧
          (s.schedule.window next).contains challenge = true ∧
          a = ⟨.advanced, s.activation, s.deadline, next, s.faultedAt epoch⟩) := by
  have hfaulted : periodsSkipped s.deadline epoch s.params.periodLength +
      (if s.provenThisPeriod then 0 else 1) = s.faultedAt epoch := rfl
  unfold checkNext
  simp only [hfaulted]
  split
  · rename_i h
    simp [UInt64.not_lt.mpr h, throw, throwThe, MonadExceptOf.throw, bind, Except.bind]
  · rename_i h
    have late := UInt64.not_le.mp h
    split
    · rename_i hchallenge
      simp only [pure, Except.pure, Except.ok.injEq]
      constructor
      · rintro rfl
        exact ⟨late, .inl ⟨hchallenge, rfl⟩⟩
      · rintro ⟨-, ⟨-, rfl⟩ | ⟨hne, -⟩⟩
        · rfl
        · contradiction
    · rename_i hchallenge
      simp only [← nextDeadline_eq_some_iff late]
      split
      · rename_i hnone
        simp [hnone, hchallenge, throw, throwThe, MonadExceptOf.throw]
      · rename_i next hsome
        rw [checkChallenge_bind_eq_ok_iff]
        simp [hsome, hchallenge, late]

theorem checkAdvance_eq_ok_iff :
    s.checkAdvance epoch challenge = .ok a ↔ s.Advances epoch challenge a := by
  unfold checkAdvance
  by_cases active : s.isActive = true
  · have hactive := isActive_iff.mp active
    by_cases unshut : s.isOpen = true
    · have hopen := isOpen_iff.mp unshut
      simp only [active, unshut, Bool.not_true, Bool.false_eq_true, if_false, checkNext_eq_ok_iff]
      constructor
      · rintro ⟨late, ⟨hchallenge, rfl⟩ | ⟨hchallenge, next, hnext, hwindow, rfl⟩⟩
        · exact .closed hactive hopen late hchallenge
        · exact .advanced hactive hopen late hchallenge hnext hwindow
      · intro h
        cases h with
        | activated inactive => contradiction
        | reopened _ shut => contradiction
        | closed _ _ late hchallenge => exact ⟨late, .inl ⟨hchallenge, rfl⟩⟩
        | advanced _ _ late hchallenge hnext hwindow =>
          exact ⟨late, .inr ⟨hchallenge, _, hnext, hwindow, rfl⟩⟩
    · have hshut : s.deadline = 0 := by
        by_contra h
        exact unshut (isOpen_iff.mpr h)
      simp only [active, unshut, Bool.not_true, Bool.not_false, Bool.false_eq_true, if_false,
        if_true, checkReopening_eq_ok_iff]
      constructor
      · rintro ⟨hwindow, rfl⟩
        exact .reopened hactive hshut hwindow
      · intro h
        cases h with
        | activated inactive => contradiction
        | reopened _ _ hwindow => exact ⟨hwindow, rfl⟩
        | closed _ unshut => contradiction
        | advanced _ unshut => contradiction
  · have hinactive : s.activation = 0 := by
      by_contra h
      exact active (isActive_iff.mpr h)
    simp only [active, Bool.not_false, if_true, checkActivation_eq_ok_iff]
    constructor
    · rintro ⟨hepoch, next, hnext, hwindow, rfl⟩
      exact .activated hinactive hepoch hnext hwindow
    · intro h
      cases h with
      | activated _ hepoch hnext hwindow => exact ⟨hepoch, _, hnext, hwindow, rfl⟩
      | reopened active => contradiction
      | closed active => contradiction
      | advanced active => contradiction

end WarmStorage.ProvingState

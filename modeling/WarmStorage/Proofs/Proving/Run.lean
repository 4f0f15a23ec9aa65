import WarmStorage.Proofs.Proving.Advance
import WarmStorage.Proofs.Proving.Periods

/-!
Runs of the proving state: the proofs and advances that were accepted from a fresh state on, at
epochs that never decrease. The invariant that carries every statement about runs relates the
state to the epoch of the last step: the open period is not over, the deadlines of periods that
were proven before are, and so a period that is opened later was never proven.
-/

namespace WarmStorage

namespace ProvingState

inductive Step where
  | proof (epoch : Epoch) (period : UInt64)
  | advance (epoch : Epoch) (advance : Advance)

def Step.epoch : Step → Epoch
  | .proof epoch _ => epoch
  | .advance epoch _ => epoch

def Step.apply (s : ProvingState) : Step → ProvingState
  | .proof _ period => s.recordProof period
  | .advance _ a => s.applyAdvance a

inductive Accepts (s : ProvingState) : Step → Prop where
  | proof {epoch : Epoch} {count period : UInt64} (h : s.checkProof epoch count = .ok period) :
      Accepts s (.proof epoch period)
  | advance {epoch challenge : Epoch} {a : Advance} (h : s.checkAdvance epoch challenge = .ok a) :
      Accepts s (.advance epoch a)

def lastEpoch : List Step → Epoch
  | [] => 0
  | step :: _ => step.epoch

/-- The steps from a fresh state on, the last one first, and the state after them. -/
inductive Run (params : ProvingParams) : List Step → ProvingState → Prop where
  | fresh : Run params [] { params := params }
  | step {steps : List Step} {s : ProvingState} {step : Step} (h : Run params steps s)
      (later : lastEpoch steps ≤ step.epoch) (accepted : s.Accepts step) :
      Run params (step :: steps) (step.apply s)

def openedDeadlines : List Step → List Epoch
  | [] => []
  | .proof _ _ :: steps => openedDeadlines steps
  | .advance _ a :: steps =>
    if a.nextDeadline = noDeadline then openedDeadlines steps
    else a.nextDeadline :: openedDeadlines steps

def openPeriod (s : ProvingState) : UInt64 :=
  s.schedule.periodOfDeadline s.deadline

variable {params : ProvingParams} {s s' : ProvingState} {steps : List Step} {step : Step}
  {epoch last challenge : Epoch} {a : Advance} {p : UInt64}

theorem isPeriodProven_recordProof {q : UInt64} :
    (s.recordProof q).isPeriodProven p = (s.isPeriodProven p || q == p) :=
  ProvenPeriods.contains_insert

@[simp] theorem Step.params_apply : (step.apply s).params = s.params := by
  cases step with
  | proof => rfl
  | advance => rfl

theorem Run.params_eq (h : Run params steps s) : s.params = params := by
  induction h with
  | fresh => rfl
  | step _ _ _ ih => rw [Step.params_apply, ih]

theorem Run.unique (h : Run params steps s) (h' : Run params steps s') : s = s' := by
  induction h generalizing s' with
  | fresh =>
    cases h' with
    | fresh => rfl
  | step _ _ _ ih =>
    cases h' with
    | step before _ _ => rw [ih before]

structure Opened (s : ProvingState) (last : Epoch) : Prop where
  active : s.activation ≠ 0
  activation_lt : s.activation < s.deadline
  last_le : last ≤ s.deadline
  aligned : s.schedule.deadline s.openPeriod = s.deadline
  flag : s.provenThisPeriod = s.isPeriodProven s.openPeriod
  bits : ∀ p, s.isPeriodProven p = true → p ≤ s.openPeriod

structure Shut (s : ProvingState) (last : Epoch) : Prop where
  shut : s.deadline = 0
  flag : s.provenThisPeriod = false
  bits : ∀ p, s.isPeriodProven p = true → s.activation ≠ 0 ∧ s.schedule.deadline p < last

structure Invariant (s : ProvingState) (last : Epoch) : Prop where
  length_pos : 0 < s.params.periodLength
  activation_fits : s.activation.toNat + s.params.periodLength.toNat < 18446744073709551616
  activation_le : s.activation ≤ last
  phase : s.Opened last ∨ s.Shut last

theorem Opened.deadline_ne (h : s.Opened last) : s.deadline ≠ 0 := by
  intro hzero
  have := h.activation_lt
  rw [hzero] at this
  exact UInt64.not_lt_zero this

theorem covers_of_le (hlen : 0 < s.params.periodLength) (active : s.activation ≠ 0)
    (h : s.activation ≤ epoch) : s.schedule.covers epoch = true := by
  rw [Schedule.covers_iff]
  rw [UInt64.lt_iff_toNat_lt] at hlen
  rw [ne_eq, ← UInt64.toNat_inj] at active
  exact ⟨Nat.pos_of_ne_zero active, UInt64.le_iff_toNat_le.mp h, hlen⟩

theorem Opened.openPeriod_eq (h : s.Opened last) :
    s.openPeriod = s.schedule.periodContaining s.deadline :=
  Schedule.periodOfDeadline_eq (UInt64.lt_iff_toNat_lt.mp h.activation_lt)

theorem Opened.endsAt_of_lt (h : s.Opened last) (ended : s.deadline < epoch) :
    s.schedule.EndsAt s.openPeriod s.deadline := by
  have := h.aligned
  rw [← this] at ended
  exact this ▸ Schedule.endsAt_deadline_of_lt ended

theorem opened_applyAdvance (hlen : 0 < s.params.periodLength) (active : a.activation ≠ 0)
    (hlt : a.activation < a.nextDeadline) (hle : epoch ≤ a.nextDeadline)
    (haligned : ∃ q, (Schedule.mk a.activation s.params).deadline q = a.nextDeadline)
    (hbits : ∀ p, s.isPeriodProven p = true →
      (Schedule.mk a.activation s.params).deadline p < epoch) :
    (s.applyAdvance a).Opened epoch := by
  have hcovers : (s.applyAdvance a).schedule.covers a.nextDeadline = true :=
    covers_of_le hlen active (UInt64.le_of_lt hlt)
  have hperiod : (s.applyAdvance a).openPeriod =
      (s.applyAdvance a).schedule.periodContaining a.nextDeadline :=
    Schedule.periodOfDeadline_eq (UInt64.lt_iff_toNat_lt.mp hlt)
  have hbefore : ∀ p, s.isPeriodProven p = true → p < (s.applyAdvance a).openPeriod := by
    intro p hp
    rw [hperiod, ← UInt64.not_le, Schedule.periodContaining_le_iff hcovers, UInt64.not_le]
    exact UInt64.lt_of_lt_of_le (hbits p hp) hle
  refine ⟨active, hlt, hle, ?_, ?_, ?_⟩
  · obtain ⟨q, hq⟩ := haligned
    rw [hperiod]
    rw [← hq] at hcovers ⊢
    exact (Schedule.deadline_periodContaining_deadline hcovers).trans hq
  · show false = s.isPeriodProven (s.applyAdvance a).openPeriod
    rw [eq_comm, ← Bool.not_eq_true]
    intro hproven
    exact UInt64.lt_irrefl _ (hbefore _ hproven)
  · intro p hp
    exact UInt64.le_of_lt (hbefore p hp)

theorem Invariant.deadline_lt_of_proven (h : s.Invariant last) (later : last ≤ epoch)
    (ended : s.deadline < epoch) (hp : s.isPeriodProven p = true) :
    s.schedule.deadline p < epoch := by
  cases h.phase with
  | inl opened =>
    have hle := Schedule.deadline_mono (s := s.schedule) (opened.bits p hp)
    rw [opened.aligned] at hle
    exact UInt64.lt_of_le_of_lt hle ended
  | inr shut => exact UInt64.lt_of_lt_of_le (shut.bits p hp).2 later

theorem Invariant.not_proven_of_inactive (h : s.Invariant last) (inactive : s.activation = 0) :
    s.isPeriodProven p = false := by
  rw [← Bool.not_eq_true]
  intro hp
  cases h.phase with
  | inl opened => exact opened.active inactive
  | inr shut => exact (shut.bits p hp).1 inactive

theorem Invariant.opened (h : s.Invariant last) (unshut : s.deadline ≠ 0) : s.Opened last := by
  cases h.phase with
  | inl opened => exact opened
  | inr shut => exact absurd shut.shut unshut

theorem Invariant.shut (h : s.Invariant last) (shut : s.deadline = 0) : s.Shut last := by
  cases h.phase with
  | inl opened => exact absurd shut opened.deadline_ne
  | inr shut => exact shut

theorem Invariant.recordProof {count : UInt64} (h : s.Invariant last) (later : last ≤ epoch)
    (hproof : s.checkProof epoch count = .ok p) : (s.recordProof p).Invariant epoch := by
  obtain ⟨-, -, unshut, hwindow, rfl⟩ := checkProof_eq_ok_iff.mp hproof
  have opened := h.opened unshut
  refine ⟨h.length_pos, h.activation_fits, UInt64.le_trans h.activation_le later, .inl ?_⟩
  refine ⟨opened.active, opened.activation_lt, (ChallengeWindow.contains_iff.mp hwindow).2,
    opened.aligned, ?_, ?_⟩
  · rw [isPeriodProven_recordProof]
    simp [ProvingState.recordProof, openPeriod, schedule]
  · intro q hq
    rw [isPeriodProven_recordProof, Bool.or_eq_true, beq_iff_eq] at hq
    cases hq with
    | inl hq => exact opened.bits q hq
    | inr hq => exact UInt64.le_of_eq hq.symm

theorem Invariant.applyAdvance (h : s.Invariant last) (later : last ≤ epoch)
    (hadvance : s.checkAdvance epoch challenge = .ok a) : (s.applyAdvance a).Invariant epoch := by
  have hle := UInt64.le_trans h.activation_le later
  have hlen := UInt64.lt_iff_toNat_lt.mp h.length_pos
  cases checkAdvance_eq_ok_iff.mp hadvance with
  | @activated next inactive epoch_ne next_eq window =>
    have := next.toNat_lt
    have hlt : epoch < next := by
      rw [UInt64.lt_iff_toNat_lt]
      omega
    have hfirst : (Schedule.mk epoch s.params).deadline 0 = next := by
      rw [← UInt64.toNat_inj, Schedule.toNat_deadline, UInt64.toNat_zero, Nat.zero_add, Nat.one_mul]
      dsimp only
      omega
    refine ⟨h.length_pos, ?_, UInt64.le_refl _, .inl ?_⟩
    · show epoch.toNat + s.params.periodLength.toNat < _
      omega
    · -- before the activation nothing can have been proven
      apply opened_applyAdvance h.length_pos epoch_ne hlt (UInt64.le_of_lt hlt) ⟨0, hfirst⟩
      intro p hp
      rw [h.not_proven_of_inactive inactive] at hp
      contradiction
  | reopened active shut window =>
    have hcovers := covers_of_le h.length_pos active hle
    -- the periods since the activation are whole, so the next deadline lies after it
    have hlt : s.activation < s.schedule.nextDeadlineAfter epoch := by
      have hfits := h.activation_fits
      have hwhole : s.params.periodLength.toNat ≤
          ((epoch.toNat - s.activation.toNat) / s.params.periodLength.toNat + 1) *
            s.params.periodLength.toNat :=
        Nat.le_mul_of_pos_left _ (Nat.succ_pos _)
      rw [UInt64.toNat_zero] at hlen
      rw [UInt64.lt_iff_toNat_lt, Schedule.toNat_nextDeadlineAfter hcovers]
      dsimp only [schedule]
      omega
    refine ⟨h.length_pos, h.activation_fits, hle, .inl ?_⟩
    apply opened_applyAdvance h.length_pos active hlt (Schedule.le_nextDeadlineAfter hcovers)
    · exact ⟨_, (Schedule.nextDeadlineAfter_eq hcovers).symm⟩
    · intro p hp
      exact UInt64.lt_of_lt_of_le ((h.shut shut).bits p hp).2 later
  | closed active unshut late unscheduled =>
    refine ⟨h.length_pos, h.activation_fits, hle, .inr ⟨rfl, rfl, ?_⟩⟩
    intro p hp
    exact ⟨active, h.deadline_lt_of_proven later late hp⟩
  | @advanced next active unshut late scheduled next_eq window =>
    have opened := h.opened unshut
    have hcovers := covers_of_le h.length_pos active hle
    -- the deadline moves on to that of the period of the epoch
    have hnext : s.schedule.deadline (s.schedule.periodContaining epoch) = next :=
      ((opened.endsAt_of_lt late).next hcovers late next_eq).deadline_eq
    have hepoch : epoch ≤ next := by
      rw [← hnext]
      exact Schedule.le_deadline_periodContaining hcovers
    have hlt : s.activation < next :=
      UInt64.lt_of_lt_of_le (UInt64.lt_trans opened.activation_lt late) hepoch
    refine ⟨h.length_pos, h.activation_fits, hle, .inl ?_⟩
    apply opened_applyAdvance h.length_pos active hlt hepoch ⟨_, hnext⟩
    intro p hp
    exact h.deadline_lt_of_proven later late hp

theorem Invariant.apply (h : s.Invariant last) (later : last ≤ step.epoch)
    (accepted : s.Accepts step) : (step.apply s).Invariant step.epoch := by
  cases accepted with
  | proof hproof => exact h.recordProof later hproof
  | advance hadvance => exact h.applyAdvance later hadvance

theorem Run.invariant (hlen : 0 < params.periodLength) (h : Run params steps s) :
    s.Invariant (lastEpoch steps) := by
  induction h with
  | fresh =>
    refine ⟨hlen, ?_, UInt64.le_refl _, .inr ⟨rfl, rfl, ?_⟩⟩
    · rw [UInt64.toNat_zero, Nat.zero_add]
      exact params.periodLength.toNat_lt
    · intro p hp
      rw [isPeriodProven, ProvenPeriods.contains_empty] at hp
      contradiction
  | step _ later accepted ih => exact ih.apply later accepted

theorem Invariant.deadline_lt_of_advance (h : s.Invariant last) (later : last ≤ epoch)
    (hadvance : s.checkAdvance epoch challenge = .ok a) : s.deadline < epoch := by
  have hle := UInt64.le_trans h.activation_le later
  cases checkAdvance_eq_ok_iff.mp hadvance with
  | activated inactive epoch_ne =>
    have shut : s.deadline = 0 := by
      cases h.phase with
      | inl opened => exact absurd inactive opened.active
      | inr shut => exact shut.shut
    rw [shut]
    exact UInt64.pos_iff_ne_zero.mpr epoch_ne
  | reopened active shut =>
    rw [shut]
    exact UInt64.lt_of_lt_of_le (UInt64.pos_iff_ne_zero.mpr active) hle
  | closed _ _ late => exact late
  | advanced _ _ late => exact late

theorem Invariant.le_nextDeadline (h : s.Invariant last) (later : last ≤ epoch)
    (hadvance : s.checkAdvance epoch challenge = .ok a) (hopen : a.nextDeadline ≠ noDeadline) :
    epoch ≤ a.nextDeadline :=
  ((h.applyAdvance later hadvance).opened hopen).last_le

theorem Accepts.activation_apply (h : s.Accepts step) (active : s.activation ≠ 0) :
    (step.apply s).activation = s.activation := by
  cases h with
  | proof => rfl
  | advance h =>
    cases checkAdvance_eq_ok_iff.mp h with
    | activated inactive => contradiction
    | reopened => rfl
    | closed => rfl
    | advanced => rfl

theorem Run.activation_eq (h : Run params steps s) (active : s.activation ≠ 0)
    {later : List Step} (h' : Run params (later ++ steps) s') :
    s'.activation = s.activation := by
  induction later generalizing s' with
  | nil => rw [h.unique h']
  | cons step later ih =>
    cases h' with
    | step before _ accepted =>
      rw [accepted.activation_apply]
      · exact ih before
      · rw [ih before]
        exact active

theorem Run.schedule_eq (h : Run params steps s) (active : s.activation ≠ 0)
    {later : List Step} (h' : Run params (later ++ steps) s') : s'.schedule = s.schedule := by
  rw [schedule, schedule, h.activation_eq active h', h'.params_eq, h.params_eq]

theorem Run.of_append {later : List Step} (h : Run params (later ++ steps) s') :
    ∃ s, Run params steps s := by
  induction later generalizing s' with
  | nil => exact ⟨s', h⟩
  | cons step later ih =>
    cases h with
    | step before => exact ih before

theorem Run.lastEpoch_le_append {later : List Step} (h : Run params (later ++ steps) s') :
    lastEpoch steps ≤ lastEpoch (later ++ steps) := by
  induction later generalizing s' with
  | nil => exact UInt64.le_refl _
  | cons step later ih =>
    cases h with
    | step before hlater => exact UInt64.le_trans (ih before) hlater

theorem Invariant.not_proven_of_checkProof {count : UInt64} (h : s.Invariant last)
    (hproof : s.checkProof epoch count = .ok p) : s.isPeriodProven p = false := by
  obtain ⟨hflag, -, unshut, -, rfl⟩ := checkProof_eq_ok_iff.mp hproof
  rw [(h.opened unshut).flag] at hflag
  exact hflag

theorem Invariant.periodContaining_le_of_checkProof {count : UInt64} {e : Epoch}
    (h : s.Invariant last) (hproof : s.checkProof epoch count = .ok p)
    (hcovers : s.schedule.covers e = true) (hle : e ≤ epoch) :
    s.schedule.periodContaining e ≤ p := by
  obtain ⟨-, -, unshut, hwindow, rfl⟩ := checkProof_eq_ok_iff.mp hproof
  have opened := h.opened unshut
  have hlast := (ChallengeWindow.contains_iff.mp hwindow).2
  have hperiod : s.schedule.periodOfDeadline s.deadline =
      s.schedule.periodContaining s.deadline := opened.openPeriod_eq
  rw [hperiod]
  exact Schedule.periodContaining_mono hcovers (UInt64.le_trans hle hlast)

theorem Run.isPeriodProven_eq (hlen : 0 < params.periodLength) (h : Run params steps s)
    (active : s.activation ≠ 0) {later : List Step} (h' : Run params (later ++ steps) s')
    (hcovers : s.schedule.covers epoch = true) (hle : epoch ≤ lastEpoch steps)
    (hp : p < s.schedule.periodContaining epoch) : s'.isPeriodProven p = s.isPeriodProven p := by
  induction later generalizing s' with
  | nil => rw [h.unique h']
  | cons step later ih =>
    cases h' with
    | @step _ t _ before hlater accepted =>
      have hschedule : t.schedule = s.schedule := h.schedule_eq active before
      cases accepted with
      | advance =>
        show t.isPeriodProven p = _
        exact ih before
      | @proof e _ period hproof =>
        have hepoch : epoch ≤ e :=
          UInt64.le_trans hle (UInt64.le_trans before.lastEpoch_le_append hlater)
        rw [← hschedule] at hcovers hp
        have hperiod :=
          (before.invariant hlen).periodContaining_le_of_checkProof hproof hcovers hepoch
        -- the proof is for the period of the epoch or a later one
        have hne : period ≠ p := (UInt64.ne_of_lt (UInt64.lt_of_lt_of_le hp hperiod)).symm
        show (t.recordProof period).isPeriodProven p = _
        rw [isPeriodProven_recordProof, beq_eq_false_iff_ne.mpr hne, Bool.or_false]
        exact ih before

theorem Run.lt_of_mem_openedDeadlines (hlen : 0 < params.periodLength) (h : Run params steps s)
    (later : lastEpoch steps ≤ epoch) (ended : s.deadline < epoch) {d : Epoch}
    (hd : d ∈ openedDeadlines steps) : d < epoch := by
  induction h generalizing epoch with
  | fresh => contradiction
  | step before hlater accepted ih =>
    cases accepted with
    | proof => exact ih (UInt64.le_trans hlater later) ended hd
    | @advance e _ a hadvance =>
      have hle : e ≤ epoch := later
      have hbefore : d ∈ openedDeadlines _ → d < epoch := fun hd =>
        UInt64.lt_of_lt_of_le
          (ih hlater ((before.invariant hlen).deadline_lt_of_advance hlater hadvance) hd) hle
      unfold openedDeadlines at hd
      split at hd
      · exact hbefore hd
      · rw [List.mem_cons] at hd
        cases hd with
        | inl hd =>
          rw [hd]
          exact ended
        | inr hd => exact hbefore hd

theorem Run.pairwise_openedDeadlines (hlen : 0 < params.periodLength) (h : Run params steps s) :
    (openedDeadlines steps).Pairwise (· > ·) := by
  induction h with
  | fresh => exact .nil
  | step before hlater accepted ih =>
    cases accepted with
    | proof => exact ih
    | @advance e _ a hadvance =>
      have hinv := before.invariant hlen
      unfold openedDeadlines
      split
      · exact ih
      · rename_i hopen
        refine .cons ?_ ih
        intro d hd
        -- the open period is over at the epoch of the advance, and so are all before it
        have hlt : d < e := before.lt_of_mem_openedDeadlines hlen hlater
          (hinv.deadline_lt_of_advance hlater hadvance) hd
        exact UInt64.lt_of_lt_of_le hlt (hinv.le_nextDeadline hlater hadvance hopen)

/--
The proving state in every run: the activation is final, an open period is the one that its
deadline ends, its flag is its bit and no later bit is set; without an open period all proven
periods are over; deadlines are opened in increasing order.
-/
theorem Run.proving_state_machine (valid : params.Valid) (h : Run params steps s) :
    (s.activation ≠ 0 → ∀ later s', Run params (later ++ steps) s' →
      s'.activation = s.activation) ∧
    (s.isOpen = true →
      s.activation ≠ 0 ∧
      s.deadline = s.schedule.deadline (s.schedule.periodOfDeadline s.deadline) ∧
      (s.provenThisPeriod = true ↔
        s.isPeriodProven (s.schedule.periodOfDeadline s.deadline) = true) ∧
      ∀ p, s.schedule.periodOfDeadline s.deadline < p → s.isPeriodProven p = false) ∧
    (s.isOpen = false ∨ s.isActive = false →
      s.provenThisPeriod = false ∧
      ∀ p, s.isPeriodProven p = true → s.schedule.deadline p < lastEpoch steps) ∧
    (openedDeadlines steps).Pairwise (· > ·) := by
  have hlen : 0 < params.periodLength := UInt64.lt_trans valid.1 valid.2
  have hinv := h.invariant hlen
  refine ⟨?_, ?_, ?_, h.pairwise_openedDeadlines hlen⟩
  · intro active later s' h'
    exact h.activation_eq active h'
  · intro hopen
    have opened := hinv.opened (isOpen_iff.mp hopen)
    refine ⟨opened.active, opened.aligned.symm, ?_, ?_⟩
    · rw [opened.flag, openPeriod]
    · intro p hp
      rw [← Bool.not_eq_true]
      intro hproven
      exact UInt64.not_lt.mpr (opened.bits p hproven) hp
  · intro hshut
    have shut : s.Shut (lastEpoch steps) := by
      cases hinv.phase with
      | inl opened =>
        rw [isOpen_iff.mpr opened.deadline_ne, isActive_iff.mpr opened.active] at hshut
        simp at hshut
      | inr shut => exact shut
    exact ⟨shut.flag, fun p hp => (shut.bits p hp).2⟩

/-- Activated, proven, two periods skipped, closed and reopened. -/
def sampleSteps : List Step :=
  [.advance 14000 ⟨.reopened, 1000, 0, 15400, 0⟩, .advance 13000 ⟨.closed, 1000, 12520, 0, 1⟩,
    .advance 10000 ⟨.advanced, 1000, 3880, 12520, 2⟩, .proof 3825 0,
    .advance 1000 ⟨.activated, 1000, 0, 3880, 0⟩]

theorem run_sampleSteps : Run ⟨2880, 60⟩ sampleSteps
    { params := ⟨2880, 60⟩, activation := 1000, deadline := 15400,
      proven := ProvenPeriods.empty.insert 0 } := by
  have activated : Run ⟨2880, 60⟩ _ _ :=
    .step .fresh (UInt64.zero_le) (@Accepts.advance _ 1000 3850 _ rfl)
  have proven := Run.step activated (by decide) (@Accepts.proof _ 3825 5 0 rfl)
  have advanced := Run.step proven (by decide) (@Accepts.advance _ 10000 12500 _ rfl)
  have closed := Run.step advanced (by decide) (@Accepts.advance _ 13000 0 _ rfl)
  exact Run.step closed (by decide) (@Accepts.advance _ 14000 15400 _ rfl)

theorem proving_state_machine_of_sampleSteps :
    ∃ s, Run ⟨2880, 60⟩ sampleSteps s ∧ s.isOpen = true ∧ s.activation ≠ 0 ∧
      s.deadline = s.schedule.deadline (s.schedule.periodOfDeadline s.deadline) ∧
      (openedDeadlines sampleSteps).Pairwise (· > ·) := by
  have h := run_sampleSteps.proving_state_machine (by decide)
  have hopen := h.2.1 rfl
  exact ⟨_, run_sampleSteps, rfl, hopen.1, hopen.2.1, h.2.2.2⟩

end ProvingState

end WarmStorage

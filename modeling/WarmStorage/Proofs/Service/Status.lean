import WarmStorage.Proofs.Proving.Windows
import WarmStorage.Proofs.Service.Frozen
import WarmStorage.Proofs.Service.Respects
import WarmStorage.Views

/-!
What the status of a data set says about the next proof. The status finds the current period from
the epoch that is asked for, and a proof is recorded for the period of the open deadline. Both are
the same period in the challenge window of a deadline that was not cut off, and no deadline is cut
off while the calls about the data set leave room for one more of its periods.
-/

namespace WarmStorage

namespace ProvingState

variable {s : ProvingState} {epoch count period q : UInt64}

theorem currentWindow?_contains_iff : s.currentWindow?.any (·.contains epoch) = true ↔
    s.deadline ≠ 0 ∧ (s.schedule.window s.deadline).contains epoch = true := by
  unfold currentWindow?
  rw [← isOpen_iff]
  split
  · rename_i hopen
    simp [hopen]
  · rename_i hshut
    simp [hshut]

theorem Aligned.period_of_checkProof (h : s.Aligned) (valid : s.params.Valid)
    (hends : s.schedule.EndsAt q s.deadline) (hproof : s.checkProof epoch count = .ok period) :
    s.schedule.periodContaining epoch = period ∧ period ≠ noPeriod := by
  obtain ⟨-, -, unshut, hwindow, rfl⟩ := checkProof_eq_ok_iff.mp hproof
  have active : s.schedule.isActive = true := bne_iff_ne.mpr (h.open_of_deadline unshut).1
  have hlen := h.toNat_length_pos
  rw [hends.periodOfDeadline_eq active hlen]
  constructor
  · exact hends.periodContaining_of_window active valid hwindow
  · -- the deadline of the last period lies past the last epoch
    rintro rfl
    have hactive := Schedule.isActive_iff.mp active
    have hwhole : Word.largest.toNat + 1 ≤
        (Word.largest.toNat + 1) * s.schedule.params.periodLength.toNat :=
      Nat.le_mul_of_pos_right _ hlen
    have := s.deadline.toNat_lt
    unfold Schedule.EndsAt noPeriod at hends
    rw [Word.toNat_largest] at hends hwhole
    omega

end ProvingState

theorem Deal.isPastEnd_eq_false_iff {d : Deal} {epoch : Epoch} :
    d.isPastEnd epoch = false ↔ d.endEpoch = 0 ∨ epoch ≤ d.endEpoch := by
  rw [isPastEnd, isTerminated, Bool.and_eq_false_iff, bne_eq_false_iff_eq, decide_eq_false_iff_not,
    UInt64.not_lt]

namespace Service

open ServiceM ServiceState

variable {s s' : Service} {id : DataSetId} {p' : ProvingState} {m : Move} {moves : List Move}
  {ctx : CallContext} {c : Call} {reply : Reply} {length : UInt64}

inductive ProvingAfter (ctx : CallContext) (c : Call) (s : Service) (id : DataSetId) :
    ProvingState → Prop where
  | kept {p : ProvingState} (hp : s.state.proving? id = some p) : ProvingAfter ctx c s id p
  | fresh : ProvingAfter ctx c s id { params := s.state.config.proving }
  | proven {p : ProvingState} {count period : UInt64} (call : c = .possessionProven id count)
      (hp : s.state.proving? id = some p) (checked : p.checkProof ctx.epoch count = .ok period) :
      ProvingAfter ctx c s id (p.recordProof period)
  | advanced {p : ProvingState} {a : Advance} {challenge : Epoch} {leafCount : UInt64}
      (call : c = .nextProvingPeriod id challenge leafCount) (hp : s.state.proving? id = some p)
      (checked : p.checkAdvance ctx.epoch challenge = .ok a) :
      ProvingAfter ctx c s id (p.applyAdvance a)

theorem provingAfter_of_succeeds (h : Succeeds (perform ctx c) s reply s')
    (hp' : s'.state.proving? id = some p') : ProvingAfter ctx c s id p' := by
  cases performed_of_succeeds h with
  | created =>
    rw [proving?_registered] at hp'
    split at hp'
    · cases hp'
      exact .fresh
    · exact .kept hp'
  | proven _ _ _ hp checked =>
    rw [proving?_insert] at hp'
    split at hp'
    · rename_i heq
      subst heq
      cases hp'
      exact .proven rfl hp checked
    · exact .kept hp'
  | advanced _ _ _ hp checked =>
    rw [proving?_insert] at hp'
    split at hp'
    · rename_i heq
      subst heq
      cases hp'
      exact .advanced rfl hp checked
    · exact .kept hp'
  | deleted =>
    rw [proving?_withoutDataSet] at hp'
    split at hp'
    · contradiction
    · exact .kept hp'
  | _ => exact .kept hp'

theorem provingAfter_of_call (hp' : (s.call ctx c).2.state.proving? id = some p') :
    ProvingAfter ctx c s id p' := by
  cases hcall : s.call ctx c with
  | mk answer s' =>
    rw [hcall] at hp'
    cases answer with
    | ok reply => exact provingAfter_of_succeeds (call_eq_ok_iff.mp hcall) hp'
    | error e =>
      apply ProvingAfter.kept
      rwa [← (refusedWithin_perform _ _ _ (call_eq_error_iff.mp hcall)).state]

/-- A call about the data set, while its periods have this length, leaves room for one more. -/
def LeavesRoom (s : Service) (id : DataSetId) (length : UInt64) : Move → Prop
  | .call ctx c => c.about? = some id → ∀ p, s.state.proving? id = some p →
      p.params.periodLength = length → ctx.epoch ≤ Word.largest - length
  | _ => True

def InRange (id : DataSetId) (length : UInt64) : Service → List Move → Prop
  | _, [] => True
  | s, m :: moves => s.LeavesRoom id length m ∧ (s.move m).InRange id length moves

theorem inRange_of_epochs
    (h : ∀ ctx c, .call ctx c ∈ moves → ctx.epoch ≤ Word.largest - length) :
    s.InRange id length moves := by
  induction moves generalizing s with
  | nil => trivial
  | cons m moves ih =>
    constructor
    · cases m with
      | call ctx c => exact fun _ _ _ _ => h ctx c List.mem_cons_self
      | _ => trivial
    · apply ih
      intro ctx c hmem
      exact h ctx c (List.mem_cons_of_mem _ hmem)

structure OnSchedule (s : ServiceState) (id : DataSetId) (length : UInt64) : Prop where
  valid : ∀ p, s.proving? id = some p → p.params.Valid
  endsAt : ∀ p, s.proving? id = some p → p.params.periodLength = length → p.deadline ≠ 0 →
    ∃ q, p.schedule.EndsAt q p.deadline

theorem OnSchedule.call (h : OnSchedule s.state id length) (hs : Reachable s)
    (room : s.LeavesRoom id length (.call ctx c)) :
    OnSchedule (s.move (.call ctx c)).state id length := by
  have aligned := hs.provingAligned
  constructor
  · intro p' hp'
    cases provingAfter_of_call hp' with
    | kept hp => exact h.valid _ hp
    | fresh => exact aligned.params
    | @proven p _ _ _ hp => exact h.valid p hp
    | @advanced p _ _ _ _ hp => exact h.valid p hp
  · intro p' hp' hlength hopen
    cases provingAfter_of_call hp' with
    | kept hp => exact h.endsAt _ hp hlength hopen
    | fresh => exact absurd rfl hopen
    | @proven p _ _ _ hp => exact h.endsAt p hp hlength hopen
    | @advanced p a challenge leafCount call hp checked =>
      have hlength : p.params.periodLength = length := hlength
      have about : c.about? = some id := by
        rw [call]
        rfl
      have bounded := room about p hp hlength
      rw [ProvingState.le_largest_sub_iff, ← hlength] at bounded
      exact (aligned.proving _ _ hp).endsAt_applyAdvance bounded checked hopen

theorem OnSchedule.run (h : OnSchedule s.state id length) (hs : Reachable s)
    (range : s.InRange id length moves) : OnSchedule (s.run moves).state id length := by
  induction moves generalizing s with
  | nil => exact h
  | cons m moves ih =>
    refine ih ?_ hs.move range.2
    obtain ⟨ctx, c, rfl⟩ | ⟨op, rfl⟩ | ⟨hstate, -⟩ := move_cases (s := s) m
    · exact h.call hs range.1
    · exact h
    · rw [hstate]
      exact h

theorem onSchedule_of_new {config : Config} {l : Ledger} {providers : ProviderRegistry}
    {sessionKeys : SessionKeys} (hnew : Service.new config l providers sessionKeys = .ok s) :
    OnSchedule s.state id length := by
  obtain ⟨hstate, -⟩ := state_of_new hnew
  have hnone : s.state.proving? id = none := by
    rw [hstate]
    simp [ServiceState.ofConfig, proving?]
  constructor
  · intro p hp
    rw [hnone] at hp
    contradiction
  · intro p hp
    rw [hnone] at hp
    contradiction

theorem call_possessionProven_iff {count : UInt64} {s' : Service} :
    s.call ctx (.possessionProven id count) = (.ok .done, s') ↔
      ctx.caller = s.state.config.verifier ∧ ∃ d p period, s.state.dataSet? id = some d ∧
        d.isPastEnd ctx.epoch = false ∧ s.state.proving? id = some p ∧
        p.checkProof ctx.epoch count = .ok period ∧
        s' = { s with
          state := { s.state with proving := s.state.proving.insert id (p.recordProof period) }
          events := s.events ++ [.possessionProven id period ctx.epoch] } := by
  rw [call_eq_ok_iff]
  show Succeeds (done (possessionProven ctx id count)) s .done s' ↔ _
  rw [succeeds_done, succeeds_possessionProven, and_iff_right rfl]

theorem provingStatus?_of_some {d : DataSet} {p : ProvingState}
    (hd : s.state.dataSet? id = some d) (hp : s.state.proving? id = some p) (epoch : Epoch) :
    ∃ status, s.state.provingStatus? id epoch = some status ∧
      status.provenThisPeriod = p.provenThisPeriod ∧ status.paymentEndEpoch = d.endEpoch ∧
      (status.inWindow = true ↔
        p.deadline ≠ 0 ∧ (p.schedule.window p.deadline).contains epoch = true) ∧
      status.currentPeriod = if p.schedule.periodContaining epoch = noPeriod then none
        else some (p.schedule.periodContaining epoch) := by
  unfold ServiceState.provingStatus?
  rw [hd, hp]
  exact ⟨_, rfl, rfl, rfl, ProvingState.currentWindow?_contains_iff, rfl⟩

theorem call_possessionProven_succeeds_iff {d : DataSet} {p : ProvingState} {count : UInt64}
    (hd : s.state.dataSet? id = some d) (hp : s.state.proving? id = some p) :
    (∃ s', s.call ctx (.possessionProven id count) = (.ok .done, s')) ↔
      ctx.caller = s.state.config.verifier ∧ d.isPastEnd ctx.epoch = false ∧
        ∃ period, p.checkProof ctx.epoch count = .ok period := by
  simp only [call_possessionProven_iff, hd, hp, Option.some.injEq]
  constructor
  · rintro ⟨s', hcaller, d, p, period, rfl, hpast, rfl, hchecked, rfl⟩
    exact ⟨hcaller, hpast, period, hchecked⟩
  · rintro ⟨hcaller, hpast, period, hchecked⟩
    exact ⟨_, hcaller, d, p, period, rfl, hpast, rfl, hchecked, rfl⟩

theorem exists_checkProof_iff {p : ProvingState} {epoch count : UInt64} :
    (∃ period, p.checkProof epoch count = .ok period) ↔ challengesPerProof ≤ count ∧
      (p.deadline ≠ 0 ∧ (p.schedule.window p.deadline).contains epoch = true) ∧
      p.provenThisPeriod = false := by
  simp only [ProvingState.checkProof_eq_ok_iff]
  constructor
  · rintro ⟨period, hproven, hcount, hopen, hwindow, -⟩
    exact ⟨hcount, ⟨hopen, hwindow⟩, hproven⟩
  · rintro ⟨hcount, ⟨hopen, hwindow⟩, hproven⟩
    exact ⟨_, hproven, hcount, hopen, hwindow, rfl⟩

/--
The status of a data set at an epoch says whether the verifier's next proof is accepted then, and
for which period it is recorded. The calls about the data set have to leave room for one more of
its periods, as calls at real epochs do.
-/
theorem status_predicts_proof {config : Config} {ops : List Ledger.Operation}
    {providers : ProviderRegistry} {sessionKeys : SessionKeys} {d : DataSet}
    (hnew : Service.new config (.run .empty ops) providers sessionKeys = .ok s)
    (hd : (s.run moves).state.dataSet? id = some d)
    (range : ∀ p, (s.run moves).state.proving? id = some p →
      s.InRange id p.params.periodLength moves) (epoch count : UInt64) :
    ∃ status, (s.run moves).state.provingStatus? id epoch = some status ∧
      ((∃ s', (s.run moves).call ⟨(s.run moves).state.config.verifier, epoch⟩
          (.possessionProven id count) = (.ok .done, s')) ↔
        challengesPerProof ≤ count ∧ status.inWindow = true ∧ status.provenThisPeriod = false ∧
          (status.paymentEndEpoch = 0 ∨ epoch ≤ status.paymentEndEpoch)) ∧
      ∀ s', (s.run moves).call ⟨(s.run moves).state.config.verifier, epoch⟩
          (.possessionProven id count) = (.ok .done, s') →
        ∃ p p' period, (s.run moves).state.proving? id = some p ∧
          status.currentPeriod = some period ∧ s'.state.proving? id = some p' ∧
          p'.provenThisPeriod = true ∧
          (∀ q, p'.isPeriodProven q = (p.isPeriodProven q || q == period)) ∧
          s'.events = (s.run moves).events ++ [.possessionProven id period epoch] := by
  have hs : Reachable s := .new hnew
  obtain ⟨p, hp⟩ : ∃ p, (s.run moves).state.proving? id = some p := by
    rw [← Option.isSome_iff_exists, hs.run.indexed.proving, hd]
    rfl
  have aligned := hs.run.provingAligned.proving id p hp
  -- on the schedule the open period is the one that the epoch lies in
  have onSchedule : OnSchedule (s.run moves).state id p.params.periodLength :=
    (onSchedule_of_new hnew).run hs (range p hp)
  obtain ⟨status, hstatus, hproven, hend, hwindow, hcurrent⟩ :=
    provingStatus?_of_some hd hp epoch
  refine ⟨status, hstatus, ?_, ?_⟩
  · rw [call_possessionProven_succeeds_iff hd hp, exists_checkProof_iff, hproven, hend, hwindow,
      Deal.isPastEnd_eq_false_iff]
    tauto
  · intro s' hcall
    obtain ⟨-, d', p', period, hd', -, hp', hchecked, rfl⟩ := call_possessionProven_iff.mp hcall
    cases hp.symm.trans hp'
    have unshut := (ProvingState.checkProof_eq_ok_iff.mp hchecked).2.2.1
    obtain ⟨q, hends⟩ := onSchedule.endsAt p hp rfl unshut
    obtain ⟨hperiod, hne⟩ := aligned.period_of_checkProof (onSchedule.valid p hp) hends hchecked
    refine ⟨p, p.recordProof period, period, hp, ?_, ?_, rfl, ?_, rfl⟩
    · rw [hcurrent, hperiod, if_neg hne]
    · rw [proving?_insert, if_pos rfl]
    · intro q
      rw [ProvingState.isPeriodProven_recordProof, BEq.comm]

def laterPeriod : List Move :=
  [.call ⟨2, 10⟩ (.approveProvider 1), .call ⟨3, 10⟩ (.dataSetCreated 1 7 sampleRequest),
    .call ⟨3, 10⟩ (.nextProvingPeriod 1 18 0), .call ⟨3, 45⟩ (.nextProvingPeriod 1 48 0)]

theorem run_laterPeriod : sampleService.run laterPeriod =
    createdService.run [.call ⟨3, 10⟩ (.nextProvingPeriod 1 18 0),
      .call ⟨3, 45⟩ (.nextProvingPeriod 1 48 0)] := by
  rw [laterPeriod, run_cons, run_cons, move_call, move_call]
  show run (approvedService.call _ _).2 _ = _
  rw [call_sampleRequest]

theorem status_predicts_proof_laterPeriod :
    Service.new sampleConfig (.run .empty [.approve 5 samplePayer 1 0 0 epochsPerMonth])
      (ProviderRegistry.empty.register 7 8).2 .empty = .ok sampleService ∧
    ((sampleService.run laterPeriod).state.dataSet? 1).isSome = true ∧
    (∀ ctx c, .call ctx c ∈ laterPeriod → ctx.epoch ≤ Word.largest - 10) ∧
    ∃ (s' : Service) (p p' : ProvingState),
      (sampleService.run laterPeriod).call ⟨3, 47⟩ (.possessionProven 1 5) = (.ok .done, s') ∧
      (sampleService.run laterPeriod).state.proving? 1 = some p ∧
      s'.state.proving? 1 = some p' ∧ p'.provenThisPeriod = true ∧
      ∀ q, p'.isPeriodProven q = (p.isPeriodProven q || q == 3) := by
  have hnew := new_sampleService
  rw [sampleLedger_eq_run] at hnew
  have epochs : ∀ ctx c, .call ctx c ∈ laterPeriod → ctx.epoch ≤ Word.largest - 10 := by
    intro ctx c hmem
    simp only [laterPeriod, List.mem_cons, List.not_mem_nil, or_false, Move.call.injEq] at hmem
    obtain ⟨rfl, -⟩ | ⟨rfl, -⟩ | ⟨rfl, -⟩ | ⟨rfl, -⟩ := hmem
    all_goals decide
  have hisSome : ((sampleService.run laterPeriod).state.dataSet? 1).isSome = true := by
    rw [run_laterPeriod]
    decide +kernel
  have hlength : ∀ p, (sampleService.run laterPeriod).state.proving? 1 = some p →
      p.params.periodLength = 10 := by
    have heval : ((sampleService.run laterPeriod).state.proving? 1).map (·.params.periodLength) =
        some 10 := by
      rw [run_laterPeriod]
      decide +kernel
    intro p hp
    rw [hp] at heval
    exact Option.some.inj heval
  have heval : ((sampleService.run laterPeriod).state.provingStatus? 1 47).map (fun status =>
      (status.inWindow, status.provenThisPeriod, status.paymentEndEpoch, status.currentPeriod)) =
        some (true, false, 0, some 3) := by
    rw [run_laterPeriod]
    decide +kernel
  have hverifier : (sampleService.run laterPeriod).state.config.verifier = 3 := by
    rw [run_laterPeriod]
    decide +kernel
  obtain ⟨d, hd⟩ := Option.isSome_iff_exists.mp hisSome
  obtain ⟨status, hstatus, haccepted, hrecorded⟩ := status_predicts_proof hnew hd
    (fun p hp => inRange_of_epochs (hlength p hp ▸ epochs)) 47 5
  rw [hstatus, Option.map_some, Option.some.injEq, Prod.mk.injEq, Prod.mk.injEq,
    Prod.mk.injEq] at heval
  rw [hverifier] at haccepted hrecorded
  obtain ⟨s', hs'⟩ := haccepted.mpr ⟨by decide, heval.1, heval.2.1, .inl heval.2.2.1⟩
  obtain ⟨p, p', period, hp, hperiod, hp', hflag, hproven, -⟩ := hrecorded s' hs'
  cases hperiod.symm.trans heval.2.2.2
  exact ⟨hnew, hisSome, epochs, s', p, p', hs', hp, hp', hflag, hproven⟩

end Service

end WarmStorage

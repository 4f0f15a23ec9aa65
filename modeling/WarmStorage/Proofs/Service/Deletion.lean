import WarmStorage.Proofs.Service.Agreement
import WarmStorage.Proofs.Service.Rails

/-!
What becomes of the rails of a data set that is deleted. A deletion asks for the recorded end of
storage only. A termination of the service ends all rails before it records this end, but a report
of the ledger records it for the storage rail alone, and then the service refuses to terminate. So
the rails for egress may stay live, and after the deletion nobody but the ledger can end them.
-/

namespace WarmStorage

def Move.epoch? : Move → Option Epoch
  | .call ctx _ => some ctx.epoch
  | .operate (.terminate _ epoch) => some epoch
  | _ => none

theorem DataSet.railIds_of_contract {d d' : DataSet} (h : d'.contract = d.contract) :
    d'.railIds = d.railIds := by
  unfold Deal.railIds
  rw [storageRail_of_contract h, egressRails_of_contract h]

namespace Service

open ServiceM

variable {s s' : Service} {id : DataSetId} {d : DataSet} {m : Move} {moves : List Move}
  {ctx : CallContext} {rail : RailId} {leafCount : UInt64} {reply : Reply}

inductive EndsRail (s : Service) (rail : RailId) : Move → Prop where
  | direct {epoch endEpoch : Epoch} {l : Ledger}
      (h : s.ledger.terminate rail epoch = .ok (endEpoch, l)) :
      EndsRail s rail (.operate (.terminate rail epoch))
  | withService {ctx : CallContext} {id : DataSetId} {d : DataSet} {endEpoch : Epoch}
      (hd : s.state.dataSet? id = some d) (hrail : rail ∈ d.railIds)
      (answer : (s.call ctx (.terminateService id)).1 = .ok (.endEpoch endEpoch)) :
      EndsRail s rail (.call ctx (.terminateService id))

def HasEnded (s : Service) (rail : RailId) : Prop :=
  ∃ id d r, s.state.dataSet? id = some d ∧ rail ∈ d.railIds ∧
    s.ledger.rail? rail = some r ∧ r.isTerminated = true

theorem EndsRail.ends (h : s.EndsRail rail m) (hs : Reachable s)
    (room : s.ledger.rails.size < UInt64.size) (late : m.epoch? ≠ some 0) :
    ∃ r, (s.move m).ledger.rail? rail = some r ∧ r.isTerminated = true := by
  cases h with
  | @direct epoch endEpoch l hterminate =>
    obtain ⟨r, hr, -⟩ := Ledger.rail?_of_terminate hterminate
    refine ⟨r.endedAt epoch, ?_, ?_⟩
    · show (s.ledger.operate _).2.rail? rail = _
      rw [Ledger.operate_eq_ok_iff.mpr (Ledger.perform_terminate hterminate)]
      rw [rail?_of_railTerminated hterminate, if_pos rfl, hr, Option.map_some]
    · exact Rail.isTerminated_endedAt_iff.mpr (.inr (.inl fun h => late (congrArg some h)))
  | @withService ctx id d endEpoch hd hrail hanswer =>
    obtain ⟨d', hd', -, -, hrails⟩ := exists_of_serviceTerminated (call_eq_of_answer hanswer)
    cases hd.symm.trans hd'
    obtain ⟨r, hr⟩ := hs.exists_rail room hd hrail
    refine ⟨r.endedAt ctx.epoch, ?_, ?_⟩
    · rw [move_call, hrails rail hrail, hr, Option.map_some]
    · exact Rail.isTerminated_endedAt_iff.mpr (.inr (.inl fun h => late (congrArg some h)))

theorem isTerminated_of_sameEnd {r r' : Rail} (h : r'.endEpoch = r.endEpoch) :
    r'.isTerminated = r.isTerminated := by
  rw [Rail.isTerminated, Rail.isTerminated, h]

theorem hasEnded_of_call {c : Call} (hs : Reachable s)
    (room : (s.call ctx c).2.ledger.rails.size < UInt64.size)
    (h : (s.call ctx c).2.HasEnded rail) : s.HasEnded rail ∨ s.EndsRail rail (.call ctx c) := by
  obtain ⟨id, d', r', hd', hrail, hr', hended⟩ := h
  have room' := Nat.lt_of_le_of_lt (reaches_of_call (s := s) (c := c) rfl).size_le room
  obtain ⟨d, hd, contract⟩ | ⟨_, -, hopened⟩ :=
    ((outcome_of_call hs.indexed rfl).dataSets id d' hd').contract_or_created
  · rw [DataSet.railIds_of_contract contract] at hrail
    obtain ⟨r, hr⟩ := hs.exists_rail room' hd hrail
    have of_same (hsame : r'.isTerminated = r.isTerminated) : s.HasEnded rail :=
      ⟨id, d, r, hd, hrail, hr, hsame.symm.trans hended⟩
    cases hs.railChange room hr hr' with
    | same heq => exact .inl (of_same (congrArg _ heq))
    | ended hd hrail hlive hc hanswer =>
      subst hc
      exact .inr (.withService hd hrail hanswer)
    | priced _ _ _ hend => exact .inl (of_same (isTerminated_of_sameEnd hend))
    | paid _ _ hend => exact .inl (of_same (isTerminated_of_sameEnd hend))
  · -- the rails of a new data set are live
    obtain ⟨r, hr, hlive⟩ := hopened.exists_live hrail
    cases hr.symm.trans hr'
    rw [hlive] at hended
    contradiction

theorem hasEnded_of_operate {op : Ledger.Operation} (hs : Reachable s)
    (room : s.ledger.rails.size < UInt64.size) (h : (s.move (.operate op)).HasEnded rail) :
    s.HasEnded rail ∨ s.EndsRail rail (.operate op) := by
  obtain ⟨id, d, r', hd, hrail, hr', hended⟩ := h
  have hd : s.state.dataSet? id = some d := hd
  have hr' : (s.ledger.operate op).2.rail? rail = some r' := hr'
  obtain ⟨r, hr⟩ := hs.exists_rail room hd hrail
  cases hlive : r.isTerminated with
  | true => exact .inl ⟨id, d, r, hd, hrail, hr, hlive⟩
  | false =>
    cases hperform : s.ledger.perform op with
    | error e =>
      rw [Ledger.operate, hperform] at hr'
      cases hr.symm.trans hr'
      rw [hlive] at hended
      contradiction
    | ok result =>
      rw [Ledger.operate_eq_ok_iff.mpr hperform] at hr'
      obtain ⟨epoch, endEpoch, rfl, hterminate⟩ :=
        Ledger.terminate_of_perform hperform hr hlive hr' hended
      exact .inr (.direct hterminate)

theorem hasEnded_of_move (hs : Reachable s)
    (room : (s.move m).ledger.rails.size < UInt64.size) (h : (s.move m).HasEnded rail) :
    s.HasEnded rail ∨ s.EndsRail rail m := by
  obtain ⟨ctx, c, rfl⟩ | ⟨op, rfl⟩ | ⟨hstate, hledger⟩ := move_cases (s := s) m
  · exact hasEnded_of_call hs room h
  · exact hasEnded_of_operate hs (Nat.lt_of_le_of_lt reaches_move.size_le room) h
  · unfold HasEnded at h
    rw [hstate, hledger] at h
    exact .inl h

theorem exists_endsRail (hs : Reachable s) (room : (s.run moves).ledger.rails.size < UInt64.size)
    (h : (s.run moves).HasEnded rail) : s.HasEnded rail ∨
      ∃ before m after, moves = before ++ m :: after ∧ (s.run before).EndsRail rail m := by
  induction moves generalizing s with
  | nil => exact .inl h
  | cons m moves ih =>
    obtain hmove | ⟨before, m', after, rfl, hends⟩ := ih hs.move room h
    · have room' := Nat.lt_of_le_of_lt (reaches_run (s.move m) moves).size_le room
      refine (hasEnded_of_move hs room' hmove).imp_right fun hends => ?_
      exact ⟨[], m, moves, rfl, hends⟩
    · exact .inr ⟨m :: before, m', after, rfl, hends⟩

theorem Reachable.stays_ended (hs : Reachable s) {before after : List Move}
    (room : (s.run (before ++ m :: after)).ledger.rails.size < UInt64.size)
    (late : m.epoch? ≠ some 0) (h : (s.run before).EndsRail rail m) :
    ∃ r, (s.run (before ++ m :: after)).ledger.rail? rail = some r ∧ r.isTerminated = true := by
  rw [run_append, run_cons] at room ⊢
  have reaches := reaches_run ((s.run before).move m) after
  have room' := Nat.lt_of_le_of_lt (reaches_move.trans reaches).size_le room
  obtain ⟨r, hr, hended⟩ := h.ends hs.run room' late
  obtain ⟨r', hr', -, hfrozen⟩ := hs.run.move.keepsRails reaches room rail r hr
  refine ⟨r', hr', ?_⟩
  rw [hfrozen hended]
  exact hended

theorem isTerminated_iff_endsRail (hs : Reachable s) (hempty : ∀ id, s.state.dataSet? id = none)
    (late : ∀ m ∈ moves, m.epoch? ≠ some 0) (room : (s.run moves).ledger.rails.size < UInt64.size)
    (hd : (s.run moves).state.dataSet? id = some d) (hrail : rail ∈ d.railIds) :
    ∃ r, (s.run moves).ledger.rail? rail = some r ∧ (r.isTerminated = true ↔
      ∃ before m after, moves = before ++ m :: after ∧ (s.run before).EndsRail rail m) := by
  obtain ⟨r, hr⟩ := hs.run.exists_rail room hd hrail
  refine ⟨r, hr, ?_, ?_⟩
  · intro hended
    obtain ⟨id', d', _, hd', -⟩ | hends :=
      exists_endsRail hs room ⟨id, d, r, hd, hrail, hr, hended⟩
    · rw [hempty] at hd'
      contradiction
    · exact hends
  · rintro ⟨before, m, after, rfl, hends⟩
    obtain ⟨r', hr', hended⟩ := hs.stays_ended room (late m (by simp)) hends
    cases hr.symm.trans hr'
    exact hended

theorem Reachable.deleted_rail_frozen {ctx' : CallContext} {c : Call} (hs : Reachable s)
    (hd : s.state.dataSet? id = some d) (hrail : rail ∈ d.railIds)
    (hcall : s.call ctx (.dataSetDeleted id leafCount) = (.ok reply, s'))
    (room : ((s'.run moves).call ctx' c).2.ledger.rails.size < UInt64.size) :
    ((s'.run moves).call ctx' c).2.ledger.rail? rail = (s'.run moves).ledger.rail? rail := by
  obtain ⟨d', hd', -, hstate, hledger⟩ := exists_of_deleted (congrArg Prod.fst hcall)
  rw [hcall] at hstate hledger
  cases hd.symm.trans hd'
  have hs' := hs.call hcall
  have reaches : (s'.run moves).ledger.Reaches ((s'.run moves).call ctx' c).2.ledger :=
    reaches_of_call rfl
  have room' := Nat.lt_of_le_of_lt reaches.size_le room
  have room'' := Nat.lt_of_le_of_lt (reaches_run s' moves).size_le room'
  rw [hledger] at room''
  have hholder := hs.holderIs_of_deleted room'' hd hrail hstate hledger
  exact hs'.run.orphan_frozen room (hs'.holderIs_run hholder room')

/--
When a data set is deleted, its storage rail is terminated and past its end, if the reports of the
ledger are true when they arrive. In a run without anything at epoch zero, the rails of the data set
that are terminated then are those that were terminated in the ledger itself or with the service of
the data set; a report of the ledger ends no other rail. No call changes any of the rails after the
deletion. The ledger must hold fewer rails than there are numbers for them, as any does.
-/
theorem rails_of_deleted {config : Config} {ops : List Ledger.Operation}
    {providers : ProviderRegistry} {sessionKeys : SessionKeys}
    (hnew : Service.new config (.run .empty ops) providers sessionKeys = .ok s)
    (faithful : s.Faithful moves) (late : ∀ m ∈ moves, m.epoch? ≠ some 0)
    (room : (s.run moves).ledger.rails.size < UInt64.size)
    (hcall : ((s.run moves).call ctx (.dataSetDeleted id leafCount)).1 = .ok reply) :
    ∃ d, (s.run moves).state.dataSet? id = some d ∧
      (∃ r, (s.run moves).ledger.rail? d.storageRail = some r ∧ r.isTerminated = true ∧
        r.endEpoch < ctx.epoch) ∧
      ∀ rail ∈ d.railIds,
        (∃ r, (s.run moves).ledger.rail? rail = some r ∧ (r.isTerminated = true ↔
          ∃ before m after, moves = before ++ m :: after ∧ (s.run before).EndsRail rail m)) ∧
        ∀ moves' t ctx' c, t = s.run (moves ++ .call ctx (.dataSetDeleted id leafCount) :: moves') →
          (t.call ctx' c).2.ledger.rails.size < UInt64.size →
          (t.call ctx' c).2.ledger.rail? rail = t.ledger.rail? rail := by
  have hs : Reachable s := .new hnew
  obtain ⟨-, hinitial⟩ := new_eq_ok_iff.mp hnew
  have hempty : ∀ id, s.state.dataSet? id = none := by
    intro id
    rw [hinitial]
    simp [ServiceState.dataSet?, ServiceState.ofConfig]
  have hagree : (s.run moves).EndsAgree := by
    refine EndsAgree.run ?_ hs faithful room
    intro id d hd
    rw [hempty] at hd
    contradiction
  obtain ⟨d, r, hd, hended⟩ := hagree.ended_of_deleted hcall
  refine ⟨d, hd, ⟨r, hended⟩, fun rail hrail => ⟨?_, ?_⟩⟩
  · exact isTerminated_iff_endsRail hs hempty late room hd hrail
  · rintro moves' t ctx' c rfl room'
    rw [run_append, run_cons] at room' ⊢
    exact hs.run.deleted_rail_frozen hd hrail (call_eq_of_answer hcall) room'

theorem call_approveProvider {caller : Address} {provider : ProviderId} (epoch epoch' : Epoch) :
    s.call ⟨caller, epoch⟩ (.approveProvider provider) =
      s.call ⟨caller, epoch'⟩ (.approveProvider provider) :=
  rfl

def lateCdnCreation : List Move :=
  [.operate (.deposit 5 cdnPayer 1000), .operate (.approve 5 cdnPayer 1 0 500 epochsPerMonth),
    .call ⟨2, 1⟩ (.approveProvider 1), .call ⟨3, 1⟩ (.dataSetCreated 1 7 (cdnRequest cdnPayer))]

theorem run_lateCdnCreation : emptyCdnService.run lateCdnCreation = cdnService := by
  rw [lateCdnCreation, run_cons, run_cons, run_cons, run_cons, run_nil, move_call, move_call,
    call_approveProvider 1 0]
  show (preparedCdnService.call _ _).2 = _
  rw [call_cdnCreation]

theorem run_append_lateCdnCreation (moves : List Move) :
    emptyCdnService.run (lateCdnCreation ++ moves) = cdnService.run moves := by
  rw [run_append, run_lateCdnCreation]

theorem faithful_lateCdnCreation (h : cdnService.Faithful moves) :
    emptyCdnService.Faithful (lateCdnCreation ++ moves) := by
  rw [faithful_append, run_lateCdnCreation]
  exact ⟨⟨nofun, nofun, nofun, nofun, trivial⟩, h⟩

theorem exists_cdnDataSet : ∃ d, cdnService.state.dataSet? 1 = some d ∧ d.railIds = [1, 2, 3] :=
  Option.map_eq_some_iff.mp (by decide +kernel)

def cdnTermination : Move :=
  .call ⟨cdnPayer, 20⟩ (.terminateService 1)

theorem endsRail_cdnTermination {rail : RailId} (hrail : rail ∈ [1, 2, 3]) :
    cdnService.EndsRail rail cdnTermination := by
  obtain ⟨d, hd, hids⟩ := exists_cdnDataSet
  have hanswer : (cdnService.call ⟨cdnPayer, 20⟩ (.terminateService 1)).1 =
      .ok (.endEpoch (20 + epochsPerMonth)) := by
    decide +kernel
  exact .withService hd (hids ▸ hrail) hanswer

theorem rails_of_deleted_cdnTermination :
    ((cdnService.run [cdnTermination]).call ⟨3, 21 + epochsPerMonth⟩ (.dataSetDeleted 1 0)).1 =
      .ok .done ∧
    ∀ rail ∈ [1, 2, 3], ∃ r, (cdnService.run [cdnTermination]).ledger.rail? rail = some r ∧
      r.isTerminated = true := by
  have hnew : Service.new cdnConfig (.run .empty []) (ProviderRegistry.empty.register 7 8).2
      .empty = .ok emptyCdnService :=
    new_emptyCdnService
  have faithful : emptyCdnService.Faithful (lateCdnCreation ++ [cdnTermination]) :=
    faithful_lateCdnCreation ⟨nofun, trivial⟩
  have hrun := run_append_lateCdnCreation [cdnTermination]
  have hdeleted : ((cdnService.run [cdnTermination]).call ⟨3, 21 + epochsPerMonth⟩
      (.dataSetDeleted 1 0)).1 = .ok .done := by
    decide +kernel
  obtain ⟨d, hd, -, hrails⟩ := rails_of_deleted hnew faithful (by decide +kernel)
    (by rw [hrun]; decide +kernel) (by rw [hrun]; exact hdeleted)
  rw [hrun] at hd hrails
  have hids : ((cdnService.run [cdnTermination]).state.dataSet? 1).map (·.railIds) =
      some [1, 2, 3] := by
    decide +kernel
  rw [hd, Option.map_some, Option.some.injEq] at hids
  rw [hids] at hrails
  refine ⟨hdeleted, fun rail hrail => ?_⟩
  obtain ⟨⟨r, hr, hiff⟩, -⟩ := hrails rail hrail
  refine ⟨r, hr, hiff.mpr ⟨lateCdnCreation, cdnTermination, [], rfl, ?_⟩⟩
  rw [run_lateCdnCreation]
  exact endsRail_cdnTermination hrail

/-- The storage rail is terminated in the ledger, which reports it. -/
def reportedTermination : List Move :=
  [.operate (.terminate 1 20), .call ⟨4, 30⟩ (.railTerminated 1 (20 + epochsPerMonth))]

/-- When the data set is deleted, its rails for egress are live and hold what was locked up. -/
theorem egress_outlives_data_set :
    Service.new cdnConfig (.run .empty []) (ProviderRegistry.empty.register 7 8).2 .empty =
      .ok emptyCdnService ∧
    emptyCdnService.Faithful (lateCdnCreation ++ reportedTermination) ∧
    (∀ m ∈ lateCdnCreation ++ reportedTermination, m.epoch? ≠ some 0) ∧
    ((emptyCdnService.run (lateCdnCreation ++ reportedTermination)).call
      ⟨3, 21 + epochsPerMonth⟩ (.dataSetDeleted 1 0)).1 = .ok .done ∧
    ∃ d, (emptyCdnService.run (lateCdnCreation ++ reportedTermination)).state.dataSet? 1 = some d ∧
      ∀ rail ∈ [2, 3], rail ∈ d.railIds ∧
        ∃ r, (emptyCdnService.run (lateCdnCreation ++ reportedTermination)).ledger.rail? rail =
          some r ∧ r.isTerminated = false ∧ 0 < r.lockupFixed := by
  rw [run_append_lateCdnCreation]
  have hids : ((cdnService.run reportedTermination).state.dataSet? 1).map (·.railIds) =
      some [1, 2, 3] := by
    decide +kernel
  have hlive : [2, 3].all (fun rail =>
      ((cdnService.run reportedTermination).ledger.rail? rail).any fun r =>
        !r.isTerminated && decide (0 < r.lockupFixed)) = true := by
    decide +kernel
  refine ⟨new_emptyCdnService, ?_, by decide +kernel, by decide +kernel, ?_⟩
  · refine faithful_lateCdnCreation ⟨nofun, ?_, trivial⟩
    intro ctx rail endEpoch hmove _
    cases hmove
    decide +kernel
  · obtain ⟨d, hd, hids⟩ := Option.map_eq_some_iff.mp hids
    refine ⟨d, hd, fun rail hrail => ⟨?_, ?_⟩⟩
    · rw [hids]
      exact List.mem_cons_of_mem _ hrail
    · obtain ⟨r, hr, hlive⟩ := (Option.any_eq_true _ _).mp (List.all_eq_true.mp hlive rail hrail)
      rw [Bool.and_eq_true, Bool.not_eq_true', decide_eq_true_iff] at hlive
      exact ⟨r, hr, hlive⟩

end Service

end WarmStorage

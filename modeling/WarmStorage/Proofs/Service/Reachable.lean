import WarmStorage.Proofs.Service.Effects

/-!
The services that calls lead to. A service shares the ledger, the registry and the session keys with
everyone else, so these may change between two calls: the ledger by its operations, the registry and
the session keys in any way.
-/

namespace WarmStorage.Service

inductive Reachable : Service → Prop where
  | new {config : Config} {ops : List Ledger.Operation} {providers : ProviderRegistry}
      {sessionKeys : SessionKeys} {s : Service}
      (h : Service.new config (.run .empty ops) providers sessionKeys = .ok s) : Reachable s
  | call {s s' : Service} {ctx : CallContext} {c : Call} {r : Except ServiceError Reply}
      (h : Reachable s) (hcall : s.call ctx c = (r, s')) : Reachable s'
  | operate {s : Service} (op : Ledger.Operation) (h : Reachable s) :
      Reachable { s with ledger := (s.ledger.operate op).2 }
  | outside {s : Service} (providers : ProviderRegistry) (sessionKeys : SessionKeys)
      (h : Reachable s) : Reachable { s with providers := providers, sessionKeys := sessionKeys }
  | takeEvents {s : Service} (h : Reachable s) : Reachable s.takeEvents.2

variable {s : Service}

theorem ofState_eq_ok_iff {state : ServiceState} {l : Ledger} {providers : ProviderRegistry}
    {sessionKeys : SessionKeys} : ofState state l providers sessionKeys = .ok s ↔
      state.config.validate = .ok () ∧ s = ⟨state, l, providers, sessionKeys, []⟩ := by
  unfold ofState
  cases state.config.validate with
  | error e => simp
  | ok u => simp [eq_comm]

theorem new_eq_ok_iff {config : Config} {l : Ledger} {providers : ProviderRegistry}
    {sessionKeys : SessionKeys} : new config l providers sessionKeys = .ok s ↔
      config.validate = .ok () ∧ s = ⟨.ofConfig config, l, providers, sessionKeys, []⟩ :=
  ofState_eq_ok_iff

theorem dataSet?_of_new {config : Config} {l : Ledger} {providers : ProviderRegistry}
    {sessionKeys : SessionKeys} (h : new config l providers sessionKeys = .ok s)
    (id : DataSetId) : s.state.dataSet? id = none := by
  obtain ⟨-, rfl⟩ := new_eq_ok_iff.mp h
  simp [ServiceState.dataSet?, ServiceState.ofConfig]

theorem Reachable.state_preserves {P : ServiceState → Prop} (h : Reachable s)
    (new : ∀ config, P (.ofConfig config))
    (step : ∀ {epoch s s'}, Effect epoch s s' → P s.state → P s'.state) : P s.state := by
  induction h with
  | new h =>
    obtain ⟨-, rfl⟩ := new_eq_ok_iff.mp h
    exact new _
  | call _ hcall ih => exact step (effect_of_call hcall) ih
  | operate op _ ih => exact ih
  | outside providers sessionKeys _ ih => exact ih
  | takeEvents _ ih => exact ih

theorem Reachable.ledger (h : Reachable s) : Ledger.empty.Reaches s.ledger := by
  induction h with
  | @new config ops providers sessionKeys s h =>
    obtain ⟨-, rfl⟩ := new_eq_ok_iff.mp h
    exact ⟨ops, rfl⟩
  | call _ hcall ih => exact ih.trans (reaches_of_call hcall)
  | operate op _ ih => exact ih.trans Ledger.reaches_operate
  | outside providers sessionKeys _ ih => exact ih
  | takeEvents _ ih => exact ih

/-! The sample service with its data set is one that calls lead to. -/

theorem sampleLedger_eq_run :
    ServiceM.sampleLedger = .run .empty [.approve 5 samplePayer 1 0 0 epochsPerMonth] := by
  show _ = Ledger.approve .empty _ _ _ _ _ _
  unfold Ledger.approve Ledger.approval Ledger.empty
  simp only [Std.ExtTreeMap.getD_empty]
  rfl

theorem reachable_approvedService : Reachable ServiceM.approvedService := by
  have hnew := ServiceM.new_sampleService
  rw [sampleLedger_eq_run] at hnew
  have hcall : ServiceM.sampleService.call ⟨2, 10⟩ (.approveProvider 1) =
      ((ServiceM.sampleService.call ⟨2, 10⟩ (.approveProvider 1)).1, ServiceM.approvedService) :=
    rfl
  exact (Reachable.new hnew).call hcall

theorem reachable_createdService : Reachable ServiceM.createdService :=
  reachable_approvedService.call ServiceM.call_sampleRequest

end WarmStorage.Service

import WarmStorage.Proofs.Service.Configuration
import WarmStorage.Proofs.Service.Endings
import WarmStorage.Proofs.Service.Pending

/-!
Restarts cannot be noticed. A restart succeeds because the configuration is still valid, and loses
nothing but pending events, which no call looks at. So whatever happens afterwards, every call is
answered and every event is announced as without the restart.
-/

namespace WarmStorage.Service

variable {s t : Service} {events : List Event} {config : Config} {m : Move} {moves : List Move}

/-- What can be seen of a move: the answer, if it is a call, and the events that it adds. -/
def observe (s : Service) (m : Move) : Option (Except ServiceError Reply) × List Event :=
  let answer? := match m with
    | .call ctx c => some (s.call ctx c).1
    | _ => none
  (answer?, s.emitted m)

def observations (s : Service) : List Move → List (Option (Except ServiceError Reply) × List Event)
  | [] => []
  | m :: moves => s.observe m :: (s.move m).observations moves

structure SameButEvents (s t : Service) : Prop where
  state : t.state = s.state
  ledger : t.ledger = s.ledger
  providers : t.providers = s.providers
  sessionKeys : t.sessionKeys = s.sessionKeys

theorem SameButEvents.symm (h : s.SameButEvents t) : t.SameButEvents s :=
  ⟨h.state.symm, h.ledger.symm, h.providers.symm, h.sessionKeys.symm⟩

theorem SameButEvents.trans {u : Service} (h : s.SameButEvents t) (h' : t.SameButEvents u) :
    s.SameButEvents u :=
  ⟨h'.state.trans h.state, h'.ledger.trans h.ledger, h'.providers.trans h.providers,
    h'.sessionKeys.trans h.sessionKeys⟩

theorem sameButEvents_prepend : s.SameButEvents (s.prepend events) :=
  ⟨rfl, rfl, rfl, rfl⟩

theorem SameButEvents.exists_prepend (h : s.SameButEvents t) :
    ∃ u events events', s = prepend u events ∧ t = prepend u events' := by
  refine ⟨{ s with events := [] }, s.events, t.events, ?_, ?_⟩
  · rw [prepend, List.append_nil]
  · rw [prepend, List.append_nil, ← h.state, ← h.ledger, ← h.providers, ← h.sessionKeys]

theorem observe_call {ctx : CallContext} {c : Call} : s.observe (.call ctx c) =
    (some (s.call ctx c).1, (s.call ctx c).2.events.drop s.events.length) :=
  rfl

theorem observe_of_not_call (h : ∀ ctx c, m ≠ .call ctx c) : s.observe m = (none, []) := by
  cases m with
  | call ctx c => exact absurd rfl (h ctx c)
  | _ => exact congrArg (none, ·) (emitted_of_not_call h)

theorem observe_prepend : (s.prepend events).observe m = s.observe m := by
  by_cases hcall : ∃ ctx c, m = .call ctx c
  · obtain ⟨ctx, c, rfl⟩ := hcall
    rw [observe_call, observe_call, call_prepend]
    simp only [prepend, List.length_append, List.drop_length_add_append]
  · have hother ctx c : m ≠ .call ctx c := fun h => hcall ⟨ctx, c, h⟩
    rw [observe_of_not_call hother, observe_of_not_call hother]

theorem move_prepend (valid : s.state.config.validate = .ok ()) :
    (s.move m).SameButEvents ((s.prepend events).move m) := by
  cases m with
  | call ctx c =>
    rw [move_call, move_call, call_prepend]
    exact sameButEvents_prepend
  | operate op => exact ⟨rfl, rfl, rfl, rfl⟩
  | outside providers sessionKeys => exact ⟨rfl, rfl, rfl, rfl⟩
  | takeEvents => exact ⟨rfl, rfl, rfl, rfl⟩
  | restart sessionKeys =>
    rw [move_restart_of_valid valid, move_restart_of_valid (s := s.prepend events) valid]
    exact ⟨rfl, rfl, rfl, rfl⟩

theorem SameButEvents.observe_eq (h : s.SameButEvents t) : t.observe m = s.observe m := by
  obtain ⟨u, events, events', rfl, rfl⟩ := h.exists_prepend
  rw [observe_prepend, observe_prepend]

theorem SameButEvents.move (h : s.SameButEvents t) (valid : s.state.config.validate = .ok ()) :
    (s.move m).SameButEvents (t.move m) := by
  obtain ⟨u, events, events', rfl, rfl⟩ := h.exists_prepend
  have valid : u.state.config.validate = .ok () := valid
  exact (move_prepend valid).symm.trans (move_prepend valid)

theorem SameButEvents.run (h : s.SameButEvents t) (configured : s.Configured config)
    (moves : List Move) :
    (s.run moves).SameButEvents (t.run moves) ∧ t.observations moves = s.observations moves := by
  induction moves generalizing s t with
  | nil => exact ⟨h, rfl⟩
  | cons m moves ih =>
    obtain ⟨hrun, hobservations⟩ := ih (h.move configured.valid) configured.move
    refine ⟨hrun, ?_⟩
    rw [observations, observations, h.observe_eq, hobservations]

/--
A service that was started with a valid configuration can be restarted at any time, from the text
of its state and with the ledger, the registry and the session keys it works with. From then on
nothing tells it from the service that was not restarted: not the answers to calls, not the events
that are added, not state or ledger. Signatures are bound as they were at the start.
-/
theorem restart_unnoticed {l : Ledger} {providers : ProviderRegistry} {sessionKeys : SessionKeys}
    (h : new config l providers sessionKeys = .ok s) (before : List Move) :
    ∃ t, (s.run before).restart (s.run before).sessionKeys = .ok t ∧
      ∀ after, t.observations after = (s.run before).observations after ∧
        (t.run after).state = ((s.run before).run after).state ∧
        (t.run after).ledger = ((s.run before).run after).ledger ∧
        (t.run after).signingContext = ⟨config.domain, config.serviceAddress⟩ ∧
        ((s.run before).run after).signingContext = ⟨config.domain, config.serviceAddress⟩ := by
  have configured : (s.run before).Configured config := (configured_of_new h).run
  refine ⟨_, restart_eq_ok_iff.mpr ⟨configured.valid, rfl⟩, fun after => ?_⟩
  -- the restarted service differs from the other one in its pending events
  have same : (s.run before).SameButEvents
      { s.run before with sessionKeys := (s.run before).sessionKeys, events := [] } :=
    ⟨rfl, rfl, rfl, rfl⟩
  obtain ⟨hrun, hobservations⟩ := same.run configured after
  have signing : ((s.run before).run after).signingContext = _ := configured.run.signingContext_eq
  refine ⟨hobservations, hrun.state, hrun.ledger, ?_, signing⟩
  rw [← signing, signingContext, hrun.state, signingContext]

open ServiceM (sampleService sampleRequest approvedService createdService)

/-- After a restart a data set is created with the signature that was made for the service. -/
theorem restart_unnoticed_approvedService :
    ∃ t, approvedService.restart approvedService.sessionKeys = .ok t ∧
      t.observations [.call ⟨3, 10⟩ (.dataSetCreated 1 7 sampleRequest)] =
        [(some (.ok .done), [.dataSetCreated 1 1 1 none none samplePayer 7 8 []])] ∧
      (t.run [.call ⟨3, 10⟩ (.dataSetCreated 1 7 sampleRequest)]).ledger =
        createdService.ledger := by
  have hrun : sampleService.run [.call ⟨2, 10⟩ (.approveProvider 1)] = approvedService :=
    rfl
  have hobserve : approvedService.observe (.call ⟨3, 10⟩ (.dataSetCreated 1 7 sampleRequest)) =
      (some (.ok .done), [.dataSetCreated 1 1 1 none none samplePayer 7 8 []]) := by
    rw [observe_call, ServiceM.call_sampleRequest]
    exact congrArg (_, ·) (List.drop_left ..)
  obtain ⟨t, hrestart, hafter⟩ :=
    restart_unnoticed ServiceM.new_sampleService [.call ⟨2, 10⟩ (.approveProvider 1)]
  rw [hrun] at hrestart
  obtain ⟨hobservations, -, hledger, -⟩ :=
    hafter [.call ⟨3, 10⟩ (.dataSetCreated 1 7 sampleRequest)]
  refine ⟨t, hrestart, ?_, ?_⟩
  · rw [hobservations, hrun, observations, hobserve, observations]
  · rw [hledger, hrun, run_cons, move_call, ServiceM.call_sampleRequest, run_nil]

end WarmStorage.Service

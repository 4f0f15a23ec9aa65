import WarmStorage.Proofs.Service.Respects

/-!
Calls and pending events. A call adds its events behind those that are pending, and reads none of
them: with more events in front it gives the same answer, and the same service with these events in
front.
-/

namespace WarmStorage

def Service.prepend (s : Service) (events : List Event) : Service :=
  { s with events := events ++ s.events }

namespace ServiceM

variable {α : Type} {s : Service} {events : List Event} {ctx : CallContext} {call : ServiceM α}

structure Oblivious (call : ServiceM α) : Prop where
  succeeds : ∀ {s a s'} events, Succeeds call s a s' →
    Succeeds call (s.prepend events) a (s'.prepend events)
  fails : ∀ {s e s'} events, Fails call s e s' →
    Fails call (s.prepend events) e (s'.prepend events)

def Behind (events : List Event) (s t : Service) : Prop :=
  t = s.prepend events

theorem oblivious_of_respects (h : ∀ events, Respects (Behind events) call) : Oblivious call := by
  constructor
  · intro s a s' events hs
    obtain ⟨b, t, t', ht, ht', rfl⟩ | ⟨e, t, t', ht, -, -⟩ := h events s _ rfl
    · cases ht.symm.trans hs
      exact ht'
    · cases ht.symm.trans hs
  · intro s e s' events hs
    obtain ⟨a, t, t', ht, -, -⟩ | ⟨e, t, t', ht, ht', rfl⟩ := h events s _ rfl
    · cases ht.symm.trans hs
    · cases ht.symm.trans hs
      exact ht'

theorem behind_get_bind {f : Service → ServiceM α} (blind : ∀ s, f (s.prepend events) = f s)
    (hf : ∀ s, Respects (Behind events) (f s)) : Respects (Behind events) (get >>= f) := by
  refine respects_get_bind (fun s t h => ?_) hf
  rw [show t = s.prepend events from h, blind]

theorem behind_state_bind {f : ServiceState → ServiceM α}
    (hf : ∀ s, Respects (Behind events) (f s)) : Respects (Behind events) (state >>= f) :=
  behind_get_bind (fun _ => rfl) fun _ => respects_pure.bind hf

theorem behind_config : Respects (Behind events) config :=
  behind_state_bind fun _ => respects_pure

theorem behind_modifyState {f : ServiceState → ServiceState} :
    Respects (Behind events) (modifyState f) := by
  refine respects_modifyState fun s t h => ?_
  rw [show t = s.prepend events from h]
  rfl

theorem behind_ledgerCall {f : Ledger → Except LedgerError (α × Ledger)} :
    Respects (Behind events) (ledgerCall f) := by
  refine behind_get_bind (fun _ => rfl) fun s => respects_ofExcept.bind fun answer =>
    Respects.bind (respects_modify fun s t h => ?_) fun _ => respects_pure
  rw [show t = s.prepend events from h]
  rfl

theorem behind_ledgerChange {f : Ledger → Except LedgerError Ledger} :
    Respects (Behind events) (ledgerChange f) := by
  refine behind_get_bind (fun _ => rfl) fun s => respects_ofExcept.bind fun l =>
    respects_modify fun s t h => ?_
  rw [show t = s.prepend events from h]
  rfl

theorem behind_emit {event : Event} : Respects (Behind events) (emit event) := by
  refine respects_modify fun s t h => ?_
  rw [show t = s.prepend events from h]
  simp only [Behind, Service.prepend, List.append_assoc]

theorem tracks_behind (id : DataSetId) : Tracks (Behind events) id fun _ _ => True where
  config := by
    rintro s t rfl
    exact ⟨_, _, rfl⟩
  sessionKeys := by
    rintro s t rfl
    rfl
  dataSet := by
    rintro s t rfl
    rfl
  own _ _ := trivial
  proving := by
    rintro s t rfl
    rfl
  nonce := by
    rintro s t _ _ _ rfl -
    rfl
  rail := by
    rintro s t _ _ rfl - _ _
    rfl
  setDataSet _ := behind_modifyState
  setProving := behind_modifyState
  recordNonce _ := behind_modifyState
  delete _ := behind_modifyState
  emit := behind_emit
  modifyPayment _ _ _ := behind_ledgerChange
  modifyLockup _ _ _ := behind_ledgerChange
  terminate _ _ _ := behind_ledgerCall

theorem behind_approvedProvider {serviceProvider : Address} :
    Respects (Behind events) (approvedProvider serviceProvider) := by
  refine behind_get_bind (fun _ => rfl) fun s => ?_
  cases s.providers.id? serviceProvider with
  | none => exact respects_throw
  | some provider =>
    apply Respects.guard
    apply Respects.guard
    exact respects_pure

theorem behind_openRail {terms : RailTerms} {period : UInt64} {fixed : TokenAmount} :
    Respects (Behind events) (openRail terms period fixed) :=
  behind_ledgerCall.bind fun _ => behind_ledgerChange.bind fun _ => respects_pure

theorem behind_chooseClientDataSetId {request : CreationRequest} :
    Respects (Behind events) (chooseClientDataSetId request) := by
  refine behind_state_bind fun s => ?_
  apply Respects.guard
  exact respects_pure

theorem behind_dataSetCreated {id : DataSetId} {serviceProvider : Address}
    {request : CreationRequest} :
    Respects (Behind events) (dataSetCreated ctx id serviceProvider request) := by
  have hend d event : Respects (Behind events) (register d >>= fun _ => emit event) :=
    behind_modifyState.bind fun _ => behind_emit
  refine (tracks_behind id).requireVerifier.bind fun _ => ?_
  apply Respects.guard
  apply Respects.guard
  refine behind_state_bind fun s => ?_
  apply Respects.guard
  refine behind_approvedProvider.bind fun provider => behind_get_bind (fun _ => rfl) fun s => ?_
  cases s.providers.payee? provider with
  | none => exact respects_throw
  | some payee =>
    refine behind_config.bind fun c => respects_ofExcept.bind fun entries =>
      respects_ofExcept.bind fun _ => behind_chooseClientDataSetId.bind fun clientId =>
      (tracks_behind id).requireSigned.bind fun _ => behind_get_bind (fun _ => rfl) fun _ =>
      respects_ofExcept.bind fun _ => behind_openRail.bind fun storageRail => ?_
    exact Respects.ite
      ((behind_openRail.bind fun _ => behind_openRail.bind fun _ => respects_pure).bind
        fun _ => hend _ _)
      (respects_pure.bind fun _ => hend _ _)

theorem behind_approveProvider {provider : ProviderId} :
    Respects (Behind events) (approveProvider ctx provider) := by
  refine (tracks_behind 0).requireOwner.bind fun _ => behind_get_bind (fun _ => rfl) fun _ => ?_
  apply Respects.guard
  refine behind_state_bind fun _ => ?_
  apply Respects.guard
  exact behind_modifyState.bind fun _ => behind_emit

theorem behind_unapproveProvider {provider : ProviderId} :
    Respects (Behind events) (unapproveProvider ctx provider) := by
  refine (tracks_behind 0).requireOwner.bind fun _ => behind_state_bind fun _ => ?_
  apply Respects.guard
  exact behind_modifyState.bind fun _ => behind_emit

theorem behind_setProvingParams {params : ProvingParams} :
    Respects (Behind events) (setProvingParams ctx params) :=
  (tracks_behind 0).requireOwner.bind fun _ => respects_ofExcept.bind fun _ =>
    behind_modifyState.bind fun _ => behind_emit

theorem behind_setCommission {bps : UInt16} : Respects (Behind events) (setCommission ctx bps) := by
  refine (tracks_behind 0).requireOwner.bind fun _ => ?_
  apply Respects.guard
  exact behind_modifyState.bind fun _ => behind_emit

theorem behind_setPricing {pricing : Pricing} :
    Respects (Behind events) (setPricing ctx pricing) :=
  (tracks_behind 0).requireOwner.bind fun _ => respects_ofExcept.bind fun _ =>
    behind_modifyState.bind fun _ => behind_emit

theorem dataSetOfRail?_behind {rail : RailId} {t : Service} (h : Behind events s t) :
    t.state.dataSetOfRail? rail = s.state.dataSetOfRail? rail := by
  rw [show t = s.prepend events from h]
  rfl

theorem behind_perform {c : Call} : Respects (Behind events) (perform ctx c) := by
  cases hid : c.about? with
  | some id =>
    refine (tracks_behind id).perform hid ?_
    rintro _ _ - s t rfl
    exact ⟨rfl, rfl⟩
  | none =>
    cases c with
    | dataSetCreated => exact behind_dataSetCreated.done
    | railTerminated =>
      exact (respects_railTerminated tracks_behind fun _ _ => dataSetOfRail?_behind).done
    | arbitrate =>
      exact (respects_arbitrate tracks_behind fun _ _ => dataSetOfRail?_behind).bind fun _ =>
        respects_pure
    | approveProvider => exact behind_approveProvider.done
    | unapproveProvider => exact behind_unapproveProvider.done
    | setProvingParams => exact behind_setProvingParams.done
    | setCommission => exact behind_setCommission.done
    | setPricing => exact behind_setPricing.done
    | _ => contradiction

theorem oblivious_perform {c : Call} : Oblivious (perform ctx c) :=
  oblivious_of_respects fun _ => behind_perform

end ServiceM

open ServiceM

theorem Service.call_prepend {s : Service} {events : List Event} {ctx : CallContext} {c : Call} :
    (s.prepend events).call ctx c = ((s.call ctx c).1, (s.call ctx c).2.prepend events) := by
  have heq : s.call ctx c = ((s.call ctx c).1, (s.call ctx c).2) := rfl
  generalize (s.call ctx c).1 = answer at heq
  generalize (s.call ctx c).2 = s' at heq
  cases answer with
  | ok reply =>
    exact call_eq_ok_iff.mpr (oblivious_perform.succeeds events (call_eq_ok_iff.mp heq))
  | error e =>
    exact call_eq_error_iff.mpr (oblivious_perform.fails events (call_eq_error_iff.mp heq))

end WarmStorage

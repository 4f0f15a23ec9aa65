import WarmStorage.Proofs.Service.Egress
import WarmStorage.Proofs.Service.Lifecycle

/-!
Calls on two services at a time. A call respects a relation between services when it has the same
result on related services and leaves related ones, whether it succeeds or is refused. Calls about
one data set read and change only a few things, so a relation has to know only of these: they are
collected in `Tracks`, and every call about the data set respects a relation that tracks it.
-/

namespace WarmStorage

/-- The data set that a call is about. The calls on rails leave it to the service to find it. -/
def Call.about? : Call → Option DataSetId
  | .piecesAdded id _ _ _ => some id
  | .piecesScheduledForRemoval id _ _ => some id
  | .possessionProven id _ => some id
  | .nextProvingPeriod id _ _ => some id
  | .dataSetDeleted id _ => some id
  | .providerChanged id _ _ => some id
  | .terminateService id => some id
  | .topUpEgress id _ _ => some id
  | .settleEgress id _ _ => some id
  | _ => none

def Service.SameAdded (s₀ t₀ s t : Service) : Prop :=
  ∃ events, s.events = s₀.events ++ events ∧ t.events = t₀.events ++ events

namespace Service.SameAdded

variable {s₀ t₀ s t : Service}

theorem refl : SameAdded s₀ t₀ s₀ t₀ :=
  ⟨[], (List.append_nil _).symm, (List.append_nil _).symm⟩

theorem emit (h : SameAdded s₀ t₀ s t) (event : Event) :
    SameAdded s₀ t₀ { s with events := s.events ++ [event] }
      { t with events := t.events ++ [event] } := by
  obtain ⟨events, hs, ht⟩ := h
  refine ⟨events ++ [event], ?_, ?_⟩
  · rw [hs, List.append_assoc]
  · rw [ht, List.append_assoc]

theorem drop_eq (h : SameAdded s₀ t₀ s t) :
    t.events.drop t₀.events.length = s.events.drop s₀.events.length := by
  obtain ⟨events, hs, ht⟩ := h
  rw [hs, ht, List.drop_left, List.drop_left]

end Service.SameAdded

namespace ServiceM

variable {α β : Type} {R : Service → Service → Prop} {s t : Service} {a : α} {e : ServiceError}
  {ctx : CallContext} {id : DataSetId} {d : DataSet}

def Alike (R : Service → Service → Prop) (call : ServiceM α) (s t : Service) : Prop :=
  (∃ a s' t', Succeeds call s a s' ∧ Succeeds call t a t' ∧ R s' t') ∨
    ∃ e s' t', Fails call s e s' ∧ Fails call t e t' ∧ R s' t'

def Respects (R : Service → Service → Prop) (call : ServiceM α) : Prop :=
  ∀ s t, R s t → Alike R call s t

theorem Alike.call {c : Call} (h : Alike R (perform ctx c) s t) :
    (t.call ctx c).1 = (s.call ctx c).1 ∧ R (s.call ctx c).2 (t.call ctx c).2 := by
  obtain ⟨reply, s', t', hs, ht, h'⟩ | ⟨e, s', t', hs, ht, h'⟩ := h
  · rw [call_eq_ok_iff.mpr hs, call_eq_ok_iff.mpr ht]
    exact ⟨rfl, h'⟩
  · rw [call_eq_error_iff.mpr hs, call_eq_error_iff.mpr ht]
    exact ⟨rfl, h'⟩

theorem respects_pure : Respects R (pure a : ServiceM α) := fun s t h =>
  .inl ⟨a, s, t, succeeds_pure.mpr ⟨rfl, rfl⟩, succeeds_pure.mpr ⟨rfl, rfl⟩, h⟩

theorem respects_throw : Respects R (throw e : ServiceM α) := fun s t h =>
  .inr ⟨e, s, t, fails_throw.mpr ⟨rfl, rfl⟩, fails_throw.mpr ⟨rfl, rfl⟩, h⟩

theorem Respects.bind {x : ServiceM α} {f : α → ServiceM β} (hx : Respects R x)
    (hf : ∀ a, Respects R (f a)) : Respects R (x >>= f) := by
  intro s t h
  obtain ⟨a, s', t', hs, ht, h'⟩ | ⟨e, s', t', hs, ht, h'⟩ := hx s t h
  · obtain ⟨b, s'', t'', hs', ht', h''⟩ | ⟨e, s'', t'', hs', ht', h''⟩ := hf a s' t' h'
    · exact .inl ⟨b, s'', t'', succeeds_bind.mpr ⟨a, s', hs, hs'⟩,
        succeeds_bind.mpr ⟨a, t', ht, ht'⟩, h''⟩
    · exact .inr ⟨e, s'', t'', fails_bind.mpr (.inr ⟨a, s', hs, hs'⟩),
        fails_bind.mpr (.inr ⟨a, t', ht, ht'⟩), h''⟩
  · exact .inr ⟨e, s', t', fails_bind.mpr (.inl hs), fails_bind.mpr (.inl ht), h'⟩

theorem Respects.ite {c : Prop} [Decidable c] {x y : ServiceM α} (hx : Respects R x)
    (hy : Respects R y) : Respects R (if c then x else y) := by
  split
  · exact hx
  · exact hy

theorem Respects.guard {c : Prop} [Decidable c] {f : β → ServiceM α} {x : ServiceM α}
    (hx : Respects R x) : Respects R (if c then throw e >>= f else x) :=
  Respects.ite respects_throw hx

theorem Alike.bind_read {x : ServiceM α} {f : α → ServiceM β} {a' : α} (hs : Succeeds x s a s)
    (ht : Succeeds x t a' t) (same : f a' = f a) (h : Alike R (f a) s t) :
    Alike R (x >>= f) s t := by
  obtain ⟨b, s', t', hs', ht', h'⟩ | ⟨e, s', t', hs', ht', h'⟩ := h
  · rw [← same] at ht'
    exact .inl ⟨b, s', t', succeeds_bind.mpr ⟨a, s, hs, hs'⟩,
      succeeds_bind.mpr ⟨a', t, ht, ht'⟩, h'⟩
  · rw [← same] at ht'
    exact .inr ⟨e, s', t', fails_bind.mpr (.inr ⟨a, s, hs, hs'⟩),
      fails_bind.mpr (.inr ⟨a', t, ht, ht'⟩), h'⟩

theorem respects_get_bind {f : Service → ServiceM α} (same : ∀ s t, R s t → f t = f s)
    (hf : ∀ s, Respects R (f s)) : Respects R (get >>= f) := fun s t h =>
  .bind_read (succeeds_get.mpr ⟨rfl, rfl⟩) (succeeds_get.mpr ⟨rfl, rfl⟩) (same s t h) (hf s s t h)

theorem respects_state_bind {f : ServiceState → ServiceM α}
    (same : ∀ s t, R s t → f t.state = f s.state) (hf : ∀ s, Respects R (f s)) :
    Respects R (state >>= f) := fun s t h =>
  .bind_read (succeeds_state.mpr ⟨rfl, rfl⟩) (succeeds_state.mpr ⟨rfl, rfl⟩) (same s t h)
    (hf _ s t h)

theorem respects_config_bind {f : Config → ServiceM α}
    (same : ∀ s t, R s t → f t.state.config = f s.state.config) (hf : ∀ c, Respects R (f c)) :
    Respects R (config >>= f) := fun s t h =>
  .bind_read (succeeds_config.mpr ⟨rfl, rfl⟩) (succeeds_config.mpr ⟨rfl, rfl⟩) (same s t h)
    (hf _ s t h)

theorem respects_modify {f : Service → Service} (hf : ∀ s t, R s t → R (f s) (f t)) :
    Respects R (modify f : ServiceM PUnit) := fun s t h =>
  .inl ⟨(), f s, f t, succeeds_modify.mpr rfl, succeeds_modify.mpr rfl, hf s t h⟩

theorem respects_modifyState {f : ServiceState → ServiceState}
    (hf : ∀ s t, R s t → R { s with state := f s.state } { t with state := f t.state }) :
    Respects R (modifyState f) :=
  respects_modify hf

theorem respects_ofExcept {ε : Type} {wrap : ε → ServiceError} {x : Except ε α} :
    Respects R (ofExcept wrap x) := by
  cases x with
  | ok a => exact respects_pure
  | error e => exact respects_throw

theorem respects_ledgerCall {f : Ledger → Except LedgerError (α × Ledger)}
    (hf : ∀ s t, R s t →
      (∃ a l l', f s.ledger = .ok (a, l) ∧ f t.ledger = .ok (a, l') ∧
        R { s with ledger := l } { t with ledger := l' }) ∨
      ∃ err, f s.ledger = .error err ∧ f t.ledger = .error err) :
    Respects R (ledgerCall f) := by
  intro s t h
  obtain ⟨a, l, l', hs, ht, h'⟩ | ⟨err, hs, ht⟩ := hf s t h
  · exact .inl ⟨a, _, _, succeeds_ledgerCall.mpr ⟨l, hs, rfl⟩,
      succeeds_ledgerCall.mpr ⟨l', ht, rfl⟩, h'⟩
  · exact .inr ⟨.ledger err, s, t, fails_ledgerCall.mpr ⟨err, hs, rfl, rfl⟩,
      fails_ledgerCall.mpr ⟨err, ht, rfl, rfl⟩, h⟩

theorem respects_ledgerChange {f : Ledger → Except LedgerError Ledger}
    (hf : ∀ s t, R s t →
      (∃ l l', f s.ledger = .ok l ∧ f t.ledger = .ok l' ∧
        R { s with ledger := l } { t with ledger := l' }) ∨
      ∃ err, f s.ledger = .error err ∧ f t.ledger = .error err) :
    Respects R (ledgerChange f) := by
  intro s t h
  obtain ⟨l, l', hs, ht, h'⟩ | ⟨err, hs, ht⟩ := hf s t h
  · exact .inl ⟨(), _, _, succeeds_ledgerChange.mpr ⟨l, hs, rfl⟩,
      succeeds_ledgerChange.mpr ⟨l', ht, rfl⟩, h'⟩
  · exact .inr ⟨.ledger err, s, t, fails_ledgerChange.mpr ⟨err, hs, rfl, rfl⟩,
      fails_ledgerChange.mpr ⟨err, ht, rfl, rfl⟩, h⟩

theorem respects_requireNotPastEnd : Respects R (requireNotPastEnd ctx id d) :=
  respects_throw.ite respects_pure

theorem Respects.done {call : ServiceM Unit} (h : Respects R call) : Respects R (done call) :=
  h.bind fun _ => respects_pure

/--
The relation knows of everything that calls about the data set `id` read, and is kept by everything
that they change. `Own` tells the payers and rails that such a data set may have.
-/
structure Tracks (R : Service → Service → Prop) (id : DataSetId)
    (Own : Address → List RailId → Prop) : Prop where
  config {s t : Service} : R s t → ∃ proving commissionBps,
    t.state.config = { s.state.config with proving := proving, commissionBps := commissionBps }
  sessionKeys {s t : Service} : R s t → t.sessionKeys = s.sessionKeys
  dataSet {s t : Service} : R s t → t.state.dataSet? id = s.state.dataSet? id
  own {s t : Service} {d : DataSet} : R s t → s.state.dataSet? id = some d →
    Own d.payer d.railIds
  proving {s t : Service} : R s t → t.state.proving? id = s.state.proving? id
  nonce {s t : Service} {payer : Address} {rails : List RailId} {nonce : UInt256} : R s t →
    Own payer rails → t.state.replay.nonce? payer nonce = s.state.replay.nonce? payer nonce
  rail {s t : Service} {payer : Address} {rails : List RailId} : R s t → Own payer rails →
    ∀ rail ∈ rails, t.ledger.rail? rail = s.ledger.rail? rail
  setDataSet {d : DataSet} : Own d.payer d.railIds → Respects R (setDataSet id d)
  setProving {p : ProvingState} : Respects R (setProving id p)
  recordNonce {payer : Address} {rails : List RailId} {nonce : UInt256} {use : NonceUse} :
    Own payer rails →
      Respects R (modifyState fun s => { s with replay := s.replay.recordNonce payer nonce use })
  delete {d : DataSet} : Own d.payer d.railIds → Respects R (modifyState (·.withoutDataSet id d))
  emit {event : Event} : Respects R (emit event)
  modifyPayment {payer : Address} {rails : List RailId} {rate amount : TokenAmount} :
    Own payer rails → ∀ rail ∈ rails, Respects R (ledgerChange (·.modifyPayment rail rate amount))
  modifyLockup {payer : Address} {rails : List RailId} {period : UInt64} {fixed : TokenAmount} :
    Own payer rails → ∀ rail ∈ rails, Respects R (ledgerChange (·.modifyLockup rail period fixed))
  terminate {payer : Address} {rails : List RailId} {epoch : Epoch} :
    Own payer rails → ∀ rail ∈ rails, Respects R (ledgerCall (·.terminate rail epoch))

namespace Tracks

variable {Own : Address → List RailId → Prop} (h : Tracks R id Own)

include h

theorem config_bind {f : Config → ServiceM α}
    (same : ∀ c proving commissionBps,
      f { c with proving := proving, commissionBps := commissionBps } = f c)
    (hf : ∀ c, Respects R (f c)) : Respects R (ServiceM.config >>= f) := by
  refine respects_config_bind (fun s t hst => ?_) hf
  obtain ⟨proving, commissionBps, heq⟩ := h.config hst
  rw [heq, same]

theorem signingContext (hst : R s t) : t.signingContext = s.signingContext := by
  obtain ⟨proving, commissionBps, heq⟩ := h.config hst
  rw [Service.signingContext, heq, Service.signingContext]

theorem requireVerifier : Respects R (requireVerifier ctx) :=
  h.config_bind (fun _ _ _ => rfl) fun _ => respects_throw.ite respects_pure

theorem requirePayments : Respects R (requirePayments ctx) :=
  h.config_bind (fun _ _ _ => rfl) fun _ => respects_throw.ite respects_pure

theorem requireOwner : Respects R (requireOwner ctx) :=
  h.config_bind (fun _ _ _ => rfl) fun _ => respects_throw.ite respects_pure

theorem dataSet_bind {f : DataSet → ServiceM α}
    (hf : ∀ d, Own d.payer d.railIds → Respects R (f d)) :
    Respects R (ServiceM.dataSet id >>= f) := by
  intro s t hst
  have hsame := h.dataSet hst
  cases hd : s.state.dataSet? id with
  | some d =>
    exact .bind_read (succeeds_dataSet.mpr ⟨hd, rfl⟩) (succeeds_dataSet.mpr ⟨hsame.trans hd, rfl⟩)
      rfl (hf d (h.own hst hd) s t hst)
  | none =>
    have fails {u : Service} (hu : u.state.dataSet? id = none) :
        Fails (ServiceM.dataSet id >>= f) u (.dataSetNotFound id) u := by
      refine fails_bind.mpr (.inl (fails_bind.mpr (.inr ⟨_, u, succeeds_state.mpr ⟨rfl, rfl⟩, ?_⟩)))
      rw [hu]
      exact fails_throw.mpr ⟨rfl, rfl⟩
    exact .inr ⟨_, s, t, fails hd, fails (hsame.trans hd), hst⟩

theorem requireSigned {m : Message} {signature : List UInt8} {payer : Address} :
    Respects R (requireSigned ctx m signature payer) := by
  refine respects_get_bind (fun s t hst => ?_) fun _ =>
    respects_ofExcept.bind fun _ => respects_pure
  rw [h.signingContext hst, h.sessionKeys hst]

theorem provingState : Respects R (ServiceM.proving id) := by
  refine respects_state_bind (fun s t hst => ?_) fun s => ?_
  · rw [h.proving hst]
  · cases s.proving? id with
    | none => exact respects_throw
    | some p => exact respects_pure

omit h in
theorem checkPieceMetadata {limits : MetadataLimits} {lists : List Metadata} :
    Respects R (checkPieceMetadata limits lists) := by
  induction lists with
  | nil => exact respects_pure
  | cons entries lists ih => exact respects_ofExcept.bind fun _ => ih

theorem piecesAdded {first : PieceId} {pieces : List (List UInt8)} {request : AdditionRequest} :
    Respects R (piecesAdded ctx id first pieces request) := by
  refine h.requireVerifier.bind fun _ => h.dataSet_bind fun d hd => ?_
  apply Respects.guard
  apply Respects.guard
  refine h.config_bind (fun _ _ _ => rfl) fun _ => checkPieceMetadata.bind fun _ =>
    respects_state_bind (fun s t hst => by rw [h.nonce hst hd]) fun _ => ?_
  apply Respects.guard
  exact h.requireSigned.bind fun _ => respects_ofExcept.bind fun ids =>
    Respects.bind (h.setDataSet hd) fun _ => Respects.bind (h.recordNonce hd) fun _ => h.emit

theorem piecesScheduledForRemoval {pieces : List PieceId} {signature : List UInt8} :
    Respects R (piecesScheduledForRemoval ctx id pieces signature) :=
  h.requireVerifier.bind fun _ => h.dataSet_bind fun _ _ =>
    respects_requireNotPastEnd.bind fun _ => h.requireSigned.bind fun _ => h.emit

theorem possessionProven {count : UInt64} : Respects R (possessionProven ctx id count) :=
  h.requireVerifier.bind fun _ => h.dataSet_bind fun _ _ =>
    respects_requireNotPastEnd.bind fun _ => h.provingState.bind fun _ =>
    respects_ofExcept.bind fun _ => h.setProving.bind fun _ => h.emit

theorem storageRate {leafCount : UInt64} : Respects R (storageRate leafCount) := by
  unfold ServiceM.storageRate
  cases Word.exactMul? leafCount bytesPerLeaf with
  | none => exact respects_throw
  | some bytes => exact h.config_bind (fun _ _ _ => rfl) fun _ => respects_ofExcept

theorem updateRate {leafCount : UInt64} (hd : Own d.payer d.railIds) :
    Respects R (updateRate d leafCount) :=
  respects_pure.ite (h.storageRate.bind fun _ =>
    (h.modifyPayment hd _ (List.mem_cons_self ..)).bind fun _ => respects_pure)

theorem nextProvingPeriod {challenge : Epoch} {leafCount : UInt64} :
    Respects R (nextProvingPeriod ctx id challenge leafCount) := by
  refine h.requireVerifier.bind fun _ => h.dataSet_bind fun d hd =>
    respects_requireNotPastEnd.bind fun _ => h.provingState.bind fun p =>
    respects_ofExcept.bind fun a => (h.updateRate hd).bind fun rate => h.setProving.bind fun _ => ?_
  -- the events that follow are the same whether a fault is reported before them or not
  refine (fun hevents => Respects.ite (h.emit.bind fun _ => hevents) hevents) ?_
  refine h.emit.bind fun _ => ?_
  cases rate with
  | none => exact respects_pure
  | some rate => exact h.emit

theorem dataSetDeleted {leafCount : UInt64} : Respects R (dataSetDeleted ctx id leafCount) := by
  refine h.requireVerifier.bind fun _ => h.dataSet_bind fun d hd => ?_
  apply Respects.guard
  exact (h.delete hd).bind fun _ => h.emit

theorem providerChanged {old new : Address}
    (approved : ∀ {s t}, R s t → t.state.approvedProviders = s.state.approvedProviders)
    (providers : ∀ {s t}, R s t → t.providers = s.providers) :
    Respects R (providerChanged ctx id old new) := by
  refine h.requireVerifier.bind fun _ => h.dataSet_bind fun d hd =>
    h.config_bind (fun _ _ _ => rfl) fun c => ?_
  apply Respects.guard
  apply Respects.guard
  apply Respects.guard
  refine Respects.bind ?_ fun _ => Respects.bind (h.setDataSet hd) fun _ => h.emit
  refine respects_get_bind (fun s t hst => ?_) fun s => ?_
  · simp only [ServiceState.isApproved, approved hst, providers hst]
    rfl
  · cases s.providers.id? new with
    | none => exact respects_throw
    | some provider =>
      apply Respects.guard
      apply Respects.guard
      exact respects_pure

theorem terminateRails {payer : Address} {rails ended : List RailId} {epoch : Epoch}
    (howned : Own payer rails) (hended : ∀ rail ∈ ended, rail ∈ rails) :
    Respects R (terminateRails epoch ended) := by
  induction ended with
  | nil => exact respects_pure
  | cons rail ended ih =>
    obtain ⟨hrail, hended⟩ := List.forall_mem_cons.mp hended
    exact (h.terminate howned rail hrail).bind fun _ => ih hended

theorem terminateService : Respects R (terminateService ctx id) := by
  refine h.dataSet_bind fun d hd => ?_
  apply Respects.guard
  apply Respects.guard
  refine respects_get_bind (fun s t hst => ?_) fun s => ?_
  · have hlive : liveEgress t.ledger d = liveEgress s.ledger d := by
      refine List.filter_congr fun rail hrail => ?_
      rw [h.rail hst hd rail (List.mem_cons_of_mem _ hrail)]
    unfold liveEgress at hlive
    dsimp only
    rw [hlive]
  refine (h.terminate hd _ (List.mem_cons_self ..)).bind fun endEpoch =>
    (h.terminateRails hd fun rail hrail => ?_).bind fun _ => ?_
  · exact List.mem_cons_of_mem _ (List.mem_filter.mp hrail).1
  have hend : Respects R (do
      ServiceM.emit (.storagePaymentTerminated id endEpoch d.storageRail)
      return endEpoch) :=
    h.emit.bind fun _ => respects_pure
  exact Respects.ite
    (Respects.bind (h.setDataSet hd) fun _ => h.emit.bind fun _ => hend)
    (Respects.bind (h.setDataSet hd) fun _ => h.emit.bind fun _ => hend)

omit h in
theorem egressRails_bind {f : RailId × RailId → ServiceM α}
    (hf : ∀ cdnRail ∈ d.railIds, ∀ cacheMissRail ∈ d.railIds,
      Respects R (f (cdnRail, cacheMissRail))) :
    Respects R (egressRails id d >>= f) := by
  intro s t hst
  by_cases hrails : ∃ cdnRail cacheMissRail,
      d.cdnRail = some cdnRail ∧ d.cacheMissRail = some cacheMissRail
  · obtain ⟨cdnRail, cacheMissRail, hcdn, hcacheMiss⟩ := hrails
    have hfrom : ∀ rail, rail = cdnRail ∨ rail = cacheMissRail → rail ∈ d.railIds := by
      intro rail hrail
      rw [Deal.railIds, Deal.egressRails, hcdn, hcacheMiss]
      obtain rfl | rfl := hrail
      · simp
      · simp
    exact .bind_read (succeeds_egressRails.mpr ⟨hcdn, hcacheMiss, rfl⟩)
      (succeeds_egressRails.mpr ⟨hcdn, hcacheMiss, rfl⟩) rfl
      (hf cdnRail (hfrom _ (.inl rfl)) cacheMissRail (hfrom _ (.inr rfl)) s t hst)
  · have fails (u : Service) : Fails (egressRails id d >>= f) u (.noCdnRails id) u := by
      refine fails_bind.mpr (.inl ?_)
      unfold egressRails
      split
      · rename_i cdnRail cacheMissRail hcdn hcacheMiss
        exact absurd ⟨cdnRail, cacheMissRail, hcdn, hcacheMiss⟩ hrails
      · exact fails_throw.mpr ⟨rfl, rfl⟩
    exact .inr ⟨_, s, t, fails s, fails t, hst⟩

theorem railState {payer : Address} {rails : List RailId} {rail : RailId}
    (howned : Own payer rails) (hrail : rail ∈ rails) : Respects R (ServiceM.rail rail) := by
  refine respects_get_bind (fun s t hst => ?_) fun s => ?_
  · rw [h.rail hst howned rail hrail]
  · cases s.ledger.rail? rail with
    | none => exact respects_throw
    | some r => exact respects_pure

theorem liveRail {payer : Address} {rails : List RailId} {rail : RailId}
    (howned : Own payer rails) (hrail : rail ∈ rails) : Respects R (liveRail rail) := by
  refine (h.railState howned hrail).bind fun r => ?_
  apply Respects.guard
  exact respects_pure

theorem topUpEgress {cdnAmount cacheMissAmount : TokenAmount} :
    Respects R (topUpEgress ctx id cdnAmount cacheMissAmount) := by
  refine h.dataSet_bind fun d hd => ?_
  apply Respects.guard
  refine egressRails_bind fun cdnRail hcdnRail cacheMissRail hcacheMissRail =>
    (h.liveRail hd hcdnRail).bind fun cdn => (h.liveRail hd hcacheMissRail).bind fun cacheMiss => ?_
  cases UInt256.exactAdd? cdn.lockupFixed cdnAmount with
  | none => exact respects_throw
  | some cdnLockup =>
    cases UInt256.exactAdd? cacheMiss.lockupFixed cacheMissAmount with
    | none => exact respects_throw
    | some cacheMissLockup =>
      exact ((h.modifyLockup hd _ hcdnRail).ite respects_pure).bind fun _ =>
        ((h.modifyLockup hd _ hcacheMissRail).ite respects_pure).bind fun _ => h.emit

theorem chargeableRate {payer : Address} {rails : List RailId} {rail : RailId}
    {amount : TokenAmount} (howned : Own payer rails) (hrail : rail ∈ rails) :
    Respects R (chargeableRate rail amount) := by
  refine (h.railState howned hrail).bind fun r => ?_
  apply Respects.guard
  exact respects_pure

theorem settleEgress {cdnAmount cacheMissAmount : TokenAmount} :
    Respects R (settleEgress ctx id cdnAmount cacheMissAmount) := by
  refine h.config_bind (fun _ _ _ => rfl) fun c => ?_
  apply Respects.guard
  exact h.dataSet_bind fun d hd => egressRails_bind fun cdnRail hcdnRail cacheMissRail
    hcacheMissRail => (h.chargeableRate hd hcdnRail).bind fun _ =>
    (h.chargeableRate hd hcacheMissRail).bind fun _ =>
    ((h.modifyPayment hd _ hcdnRail).ite respects_pure).bind fun _ =>
    ((h.modifyPayment hd _ hcacheMissRail).ite respects_pure).bind fun _ => h.emit

theorem perform {c : Call} (about : c.about? = some id)
    (lookup : ∀ old new, c = .providerChanged id old new → ∀ s t, R s t →
      t.state.approvedProviders = s.state.approvedProviders ∧ t.providers = s.providers) :
    Respects R (perform ctx c) := by
  cases c with
  | piecesAdded =>
    cases about
    exact h.piecesAdded.done
  | piecesScheduledForRemoval =>
    cases about
    exact h.piecesScheduledForRemoval.done
  | possessionProven =>
    cases about
    exact h.possessionProven.done
  | nextProvingPeriod =>
    cases about
    exact h.nextProvingPeriod.done
  | dataSetDeleted =>
    cases about
    exact h.dataSetDeleted.done
  | providerChanged =>
    cases about
    exact (h.providerChanged (fun hst => (lookup _ _ rfl _ _ hst).1)
      fun hst => (lookup _ _ rfl _ _ hst).2).done
  | terminateService =>
    cases about
    exact h.terminateService.bind fun _ => respects_pure
  | topUpEgress =>
    cases about
    exact h.topUpEgress.done
  | settleEgress =>
    cases about
    exact h.settleEgress.done
  | _ => contradiction

end Tracks

section Rails

variable {Own : Address → List RailId → Prop} {rail : RailId} {endEpoch : Epoch}

theorem respects_railTerminated (h : ∀ id, Tracks R id Own)
    (owner : ∀ s t, R s t → t.state.dataSetOfRail? rail = s.state.dataSetOfRail? rail) :
    Respects R (railTerminated ctx rail endEpoch) := by
  refine (h 0).requirePayments.bind fun _ => respects_state_bind (fun s t hst => ?_) fun s => ?_
  · rw [owner s t hst]
  · cases s.dataSetOfRail? rail with
    | none => exact respects_throw
    | some id =>
      exact (h id).dataSet_bind fun d hd =>
        Respects.ite (Respects.bind ((h id).setDataSet hd) fun _ => (h id).emit) respects_pure

theorem arbitrate_congr {s t : ServiceState} {proposed : TokenAmount} {after upTo current : Epoch}
    (owner : t.dataSetOfRail? rail = s.dataSetOfRail? rail)
    (dataSet : ∀ id, t.dataSet? id = s.dataSet? id)
    (proving : ∀ id, t.proving? id = s.proving? id) :
    t.arbitrate rail proposed after upTo current =
      s.arbitrate rail proposed after upTo current := by
  simp only [ServiceState.arbitrate, owner, dataSet, proving]

theorem respects_arbitrate {proposed : TokenAmount} {after upTo : Epoch}
    (h : ∀ id, Tracks R id Own)
    (owner : ∀ s t, R s t → t.state.dataSetOfRail? rail = s.state.dataSetOfRail? rail) :
    Respects R (arbitrate ctx rail proposed after upTo) := by
  refine (h 0).requirePayments.bind fun _ => respects_state_bind (fun s t hst => ?_) fun s =>
    respects_ofExcept
  rw [arbitrate_congr (owner s t hst) (fun id => (h id).dataSet hst) fun id => (h id).proving hst]

end Rails

end ServiceM

end WarmStorage

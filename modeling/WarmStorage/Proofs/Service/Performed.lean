import WarmStorage.Proofs.Service.Creation
import WarmStorage.Proofs.Service.Egress
import WarmStorage.Proofs.Service.Lifecycle
import WarmStorage.Proofs.Service.Owner
import WarmStorage.Proofs.Service.Pieces
import WarmStorage.Proofs.Service.Proving

/-!
What a call does when it succeeds, said once. Whatever is true of all calls is a split on
`Performed`, which has one case for each way in which a service changes.
-/

namespace WarmStorage

/-- What the owner makes of the configuration and the approved providers, and the event of it. -/
inductive Service.OwnerSets (s : Service) :
    Call → Config → Std.ExtTreeSet ProviderId → Event → Prop where
  | approved {provider : ProviderId} (active : s.providers.isActive provider = true)
      (fresh : s.state.isApproved provider = false) :
      OwnerSets s (.approveProvider provider) s.state.config
        (s.state.approvedProviders.insert provider) (.providerApproved provider)
  | unapproved {provider : ProviderId} (approved : s.state.isApproved provider = true) :
      OwnerSets s (.unapproveProvider provider) s.state.config
        (s.state.approvedProviders.erase provider) (.providerUnapproved provider)
  | proving {params : ProvingParams} (valid : params.validate = .ok ()) :
      OwnerSets s (.setProvingParams params) { s.state.config with proving := params }
        s.state.approvedProviders (.provingParamsUpdated params)
  | commission {bps : UInt16} (le : bps ≤ maxCommissionBps) :
      OwnerSets s (.setCommission bps) { s.state.config with commissionBps := bps }
        s.state.approvedProviders (.commissionUpdated bps)
  | pricing {pricing : Pricing} (valid : pricing.validate = .ok ()) :
      OwnerSets s (.setPricing pricing) { s.state.config with pricing := pricing }
        s.state.approvedProviders .pricingUpdated

open ServiceM

namespace Service

/-- What a call does that succeeds. -/
inductive Performed (ctx : CallContext) (s : Service) : Call → Reply → Service → Prop where
  | created {id : DataSetId} {serviceProvider payee : Address} {request : CreationRequest}
      {provider : ProviderId} {entries : Metadata} {clientId : UInt256} {storageRail : RailId}
      {egress : Option RailId × Option RailId} {l : Ledger}
      (checked : CreationChecked ctx id serviceProvider request s provider payee entries clientId)
      (rails : RailsOpened s.ledger s.state.config
        (storageTerms s.state.config request.payer payee)
        (creationMessage s.state.config.versioning.cdnFlag request clientId payee entries).2
        storageRail egress l) :
      Performed ctx s (.dataSetCreated id serviceProvider request) .done { s with
        state := s.state.registered (createdDataSet s.state.config id serviceProvider request
          provider payee entries clientId storageRail egress)
        ledger := l
        events := s.events ++ [.dataSetCreated id provider storageRail egress.1 egress.2
          request.payer serviceProvider payee entries] }
  | extended {id : DataSetId} {first : PieceId} {pieces : List (List UInt8)}
      {request : AdditionRequest} {d : DataSet} {ids : List PieceId}
      (caller : ctx.caller = s.state.config.verifier) (hd : s.state.dataSet? id = some d)
      (live : d.isTerminated = false)
      (valid : ∀ entries ∈ request.pieceMetadata,
        s.state.config.metadata.validate entries .piece = .ok ())
      (free : s.state.replay.nonce? d.payer request.nonce = none) :
      Performed ctx s (.piecesAdded id first pieces request) .done { s with
        state := { s.state with
          dataSets := s.state.dataSets.insert id
            (addedPieces d ids request (d.piecesAdded + .ofNat pieces.length))
          replay := s.state.replay.recordNonce d.payer request.nonce
            ⟨id, d.piecesAdded + .ofNat pieces.length⟩ }
        events := s.events ++ [.piecesAdded id ids request.nonce] }
  | scheduled {id : DataSetId} {pieces : List PieceId} {signature : List UInt8} {d : DataSet}
      (caller : ctx.caller = s.state.config.verifier) (hd : s.state.dataSet? id = some d)
      (unended : d.isPastEnd ctx.epoch = false) :
      Performed ctx s (.piecesScheduledForRemoval id pieces signature) .done { s with
        events := s.events ++ [.pieceRemovalsScheduled id pieces] }
  | proven {id : DataSetId} {count period : UInt64} {d : DataSet} {p : ProvingState}
      (caller : ctx.caller = s.state.config.verifier) (hd : s.state.dataSet? id = some d)
      (unended : d.isPastEnd ctx.epoch = false) (hp : s.state.proving? id = some p)
      (checked : p.checkProof ctx.epoch count = .ok period) :
      Performed ctx s (.possessionProven id count) .done { s with
        state := { s.state with proving := s.state.proving.insert id (p.recordProof period) }
        events := s.events ++ [.possessionProven id period ctx.epoch] }
  | advanced {id : DataSetId} {challenge : Epoch} {leafCount : UInt64} {d : DataSet}
      {p : ProvingState} {a : Advance} {rate : Option TokenAmount} {l : Ledger}
      (caller : ctx.caller = s.state.config.verifier) (hd : s.state.dataSet? id = some d)
      (unended : d.isPastEnd ctx.epoch = false) (hp : s.state.proving? id = some p)
      (checked : p.checkAdvance ctx.epoch challenge = .ok a)
      (priced : RateUpdated s d leafCount rate l) :
      Performed ctx s (.nextProvingPeriod id challenge leafCount) .done { s with
        state := { s.state with proving := s.state.proving.insert id (p.applyAdvance a) }
        ledger := l
        events := s.events ++ advanceEvents id d a challenge leafCount rate }
  | deleted {id : DataSetId} {leafCount : UInt64} {d : DataSet}
      (caller : ctx.caller = s.state.config.verifier) (hd : s.state.dataSet? id = some d)
      (ended : d.isPastEnd ctx.epoch = true) :
      Performed ctx s (.dataSetDeleted id leafCount) .done { s with
        state := s.state.withoutDataSet id d
        events := s.events ++ [.dataSetDeleted id leafCount] }
  | reassigned {id : DataSetId} {new : Address} {d : DataSet} {provider : ProviderId}
      (caller : ctx.caller = s.state.config.verifier) (hd : s.state.dataSet? id = some d)
      (known : s.providers.id? new = some provider)
      (approved : s.state.isApproved provider = true) :
      Performed ctx s (.providerChanged id d.serviceProvider new) .done { s with
        state := { s.state with
          dataSets := s.state.dataSets.insert id
            { d with serviceProvider := new, providerId := provider } }
        events := s.events ++ [.providerChanged id d.serviceProvider new provider] }
  | reported {id : DataSetId} {endEpoch : Epoch} {d : DataSet}
      (caller : ctx.caller = s.state.config.payments) (hd : s.state.dataSet? id = some d)
      (live : d.isTerminated = false) :
      Performed ctx s (.railTerminated d.storageRail endEpoch) .done { s with
        state := { s.state with
          dataSets := s.state.dataSets.insert id { d with endEpoch := endEpoch } }
        events := s.events ++ [.storagePaymentTerminated id endEpoch d.storageRail] }
  | ignored {rail : RailId} {endEpoch : Epoch} {id : DataSetId} {d : DataSet}
      (caller : ctx.caller = s.state.config.payments) (hd : s.state.dataSet? id = some d)
      (stale : ¬ (rail = d.storageRail ∧ d.isTerminated = false)) :
      Performed ctx s (.railTerminated rail endEpoch) .done s
  | arbitrated {rail : RailId} {proposed : TokenAmount} {after upTo : Epoch}
      {o : SettlementOutcome} (caller : ctx.caller = s.state.config.payments)
      (checked : s.state.arbitrate rail proposed after upTo ctx.epoch = .ok o) :
      Performed ctx s (.arbitrate rail proposed after upTo) (.outcome o) s
  | ended {id : DataSetId} {endEpoch : Epoch} {d : DataSet} {l l' : Ledger}
      (hd : s.state.dataSet? id = some d) (live : d.isTerminated = false)
      (caller : ctx.caller = d.payer ∨ ctx.caller = d.payee ∨ ctx.caller = d.serviceProvider)
      (storage : s.ledger.terminate d.storageRail ctx.epoch = .ok (endEpoch, l))
      (egress : RailsTerminated ctx.epoch (liveEgress s.ledger d) l l') :
      Performed ctx s (.terminateService id) (.endEpoch endEpoch) { s with
        state := { s.state with dataSets := s.state.dataSets.insert id (endedDataSet d endEpoch) }
        ledger := l'
        events := s.events ++
          [if d.hasCdnRails then
            .serviceTerminated ctx.caller id d.storageRail d.cacheMissRail d.cdnRail
          else .serviceTerminated ctx.caller id d.storageRail none none,
          .storagePaymentTerminated id endEpoch d.storageRail] }
  | toppedUp {id : DataSetId} {cdnAmount cacheMissAmount cdnLockup cacheMissLockup : TokenAmount}
      {d : DataSet} {cdnRail cacheMissRail : RailId} {cdn cacheMiss : Rail} {l l' : Ledger}
      (checked : TopUpChecked ctx id cdnAmount cacheMissAmount s d cdnRail cacheMissRail cdn
        cacheMiss cdnLockup cacheMissLockup)
      (hcdn : LockupRaised s.ledger cdnRail cdn cdnAmount cdnLockup l)
      (hcacheMiss : LockupRaised l cacheMissRail cacheMiss cacheMissAmount cacheMissLockup l') :
      Performed ctx s (.topUpEgress id cdnAmount cacheMissAmount) .done { s with
        ledger := l'
        events := s.events ++ [.cdnRailsToppedUp id cdnLockup cacheMissLockup] }
  | settled {id : DataSetId} {cdnAmount cacheMissAmount : TokenAmount} {d : DataSet}
      {cdnRail cacheMissRail : RailId} {cdn cacheMiss : Rail} {l l' : Ledger}
      (checked : ChargeChecked ctx id cdnAmount cacheMissAmount s d cdnRail cacheMissRail cdn
        cacheMiss)
      (hcdn : Charged s.ledger cdnRail cdn.rate cdnAmount l)
      (hcacheMiss : Charged l cacheMissRail cacheMiss.rate cacheMissAmount l') :
      Performed ctx s (.settleEgress id cdnAmount cacheMissAmount) .done { s with
        ledger := l'
        events := s.events ++ [.cdnPaymentSettled id cdnAmount cacheMissAmount] }
  | owner {c : Call} {config : Config} {approved : Std.ExtTreeSet ProviderId} {event : Event}
      (caller : ctx.caller = s.state.config.owner) (sets : s.OwnerSets c config approved event) :
      Performed ctx s c .done { s with
        state := { s.state with config := config, approvedProviders := approved }
        events := s.events ++ [event] }

variable {ctx : CallContext} {c : Call} {s s' : Service} {reply : Reply}

theorem performed_of_succeeds (h : Succeeds (perform ctx c) s reply s') :
    Performed ctx s c reply s' := by
  cases c with
  | dataSetCreated =>
    obtain ⟨rfl, hcall⟩ := succeeds_done.mp h
    obtain ⟨_, _, _, _, _, _, _, hchecked, hrails, rfl⟩ := succeeds_dataSetCreated.mp hcall
    exact .created hchecked hrails
  | piecesAdded =>
    obtain ⟨rfl, hcall⟩ := succeeds_done.mp h
    obtain ⟨hcaller, _, hd, hlive, -, hvalid, hnonce, -, _, -, rfl⟩ := succeeds_piecesAdded.mp hcall
    exact .extended hcaller hd hlive hvalid hnonce
  | piecesScheduledForRemoval =>
    obtain ⟨rfl, hcall⟩ := succeeds_done.mp h
    obtain ⟨hcaller, _, hd, hpast, -, rfl⟩ := succeeds_piecesScheduledForRemoval.mp hcall
    exact .scheduled hcaller hd hpast
  | possessionProven =>
    obtain ⟨rfl, hcall⟩ := succeeds_done.mp h
    obtain ⟨hcaller, _, _, _, hd, hpast, hp, hchecked, rfl⟩ := succeeds_possessionProven.mp hcall
    exact .proven hcaller hd hpast hp hchecked
  | nextProvingPeriod =>
    obtain ⟨rfl, hcall⟩ := succeeds_done.mp h
    obtain ⟨hcaller, _, _, _, _, _, hd, hpast, hp, hchecked, hrate, rfl⟩ :=
      succeeds_nextProvingPeriod.mp hcall
    exact .advanced hcaller hd hpast hp hchecked hrate
  | dataSetDeleted =>
    obtain ⟨rfl, hcall⟩ := succeeds_done.mp h
    obtain ⟨hcaller, _, hd, hpast, rfl⟩ := succeeds_dataSetDeleted.mp hcall
    exact .deleted hcaller hd hpast
  | providerChanged =>
    obtain ⟨rfl, hcall⟩ := succeeds_done.mp h
    obtain ⟨hcaller, _, hd, -, rfl, -, _, hknown, -, happroved, rfl⟩ :=
      succeeds_providerChanged.mp hcall
    exact .reassigned hcaller hd hknown happroved
  | railTerminated =>
    obtain ⟨rfl, hcall⟩ := succeeds_done.mp h
    obtain ⟨hcaller, _, _, -, hd, ⟨rfl, hlive, rfl⟩ | ⟨hstale, rfl⟩⟩ :=
      succeeds_railTerminated.mp hcall
    · exact .reported hcaller hd hlive
    · exact .ignored hcaller hd hstale
  | arbitrate =>
    obtain ⟨_, _, hcall, hreply⟩ := succeeds_bind.mp h
    obtain ⟨hcaller, hchecked, rfl⟩ := succeeds_arbitrate.mp hcall
    obtain ⟨rfl, rfl⟩ := succeeds_pure.mp hreply
    exact .arbitrated hcaller hchecked
  | terminateService =>
    obtain ⟨_, _, hcall, hreply⟩ := succeeds_bind.mp h
    obtain ⟨rfl, rfl⟩ := succeeds_pure.mp hreply
    obtain ⟨_, _, _, hd, hcaller, hlive, hstorage, hegress, rfl⟩ :=
      succeeds_terminateService.mp hcall
    exact .ended hd hlive hcaller hstorage hegress
  | topUpEgress =>
    obtain ⟨rfl, hcall⟩ := succeeds_done.mp h
    obtain ⟨_, _, _, _, _, _, _, _, _, hchecked, hcdn, hcacheMiss, rfl⟩ :=
      succeeds_topUpEgress.mp hcall
    exact .toppedUp hchecked hcdn hcacheMiss
  | settleEgress =>
    obtain ⟨rfl, hcall⟩ := succeeds_done.mp h
    obtain ⟨_, _, _, _, _, _, _, hchecked, hcdn, hcacheMiss, rfl⟩ := succeeds_settleEgress.mp hcall
    exact .settled hchecked hcdn hcacheMiss
  | approveProvider =>
    obtain ⟨rfl, hcall⟩ := succeeds_done.mp h
    obtain ⟨hcaller, hactive, hfresh, rfl⟩ := succeeds_approveProvider.mp hcall
    exact .owner hcaller (.approved hactive hfresh)
  | unapproveProvider =>
    obtain ⟨rfl, hcall⟩ := succeeds_done.mp h
    obtain ⟨hcaller, happroved, rfl⟩ := succeeds_unapproveProvider.mp hcall
    exact .owner hcaller (.unapproved happroved)
  | setProvingParams =>
    obtain ⟨rfl, hcall⟩ := succeeds_done.mp h
    obtain ⟨hcaller, hvalid, rfl⟩ := succeeds_setProvingParams.mp hcall
    exact .owner hcaller (.proving hvalid)
  | setCommission =>
    obtain ⟨rfl, hcall⟩ := succeeds_done.mp h
    obtain ⟨hcaller, hle, rfl⟩ := succeeds_setCommission.mp hcall
    exact .owner hcaller (.commission hle)
  | setPricing =>
    obtain ⟨rfl, hcall⟩ := succeeds_done.mp h
    obtain ⟨hcaller, hvalid, rfl⟩ := succeeds_setPricing.mp hcall
    exact .owner hcaller (.pricing hvalid)

end Service

end WarmStorage

import WarmStorage.Proofs.Service.Funding
import WarmStorage.Proofs.Service.Index
import WarmStorage.Proofs.Service.Run

/-!
A refused call leaves the service as it was. Most calls check everything before they change
anything. The creation of a data set and the termination of its payments change the ledger in
several steps and take none of them back, but nothing that comes after the first step can be
refused. Payments for egress are the exception: the second of two charges can be refused after the
first.
-/

namespace WarmStorage

/-- The calls that change two rails on behalf of different amounts. -/
def Call.isEgressPayment : Call → Bool
  | .topUpEgress .. => true
  | .settleEgress .. => true
  | _ => false

namespace ServiceM

variable {α β : Type} {s s' : Service} {a : α} {e : ServiceError} {ctx : CallContext}
  {id : DataSetId}

def Unchanged (call : ServiceM α) (s : Service) : Prop :=
  ∀ e s', Fails call s e s' → s' = s

theorem RefusedWithin.unchanged {call : ServiceM α} (h : RefusedWithin Eq call) :
    Unchanged call s := by
  intro e s' hfails
  exact (h s e s' hfails).symm

theorem Unchanged.of_not_succeeds {call : ServiceM α}
    (h : (∀ a t, ¬ Succeeds call s a t) → Unchanged call s) : Unchanged call s := by
  intro e s' hfails
  apply h _ e s' hfails
  intro a t hsucceeds
  have heq := hsucceeds.symm.trans hfails
  contradiction

theorem Unchanged.bind_total {x : ServiceM α} {f : α → ServiceM β} (hx : Unchanged x s)
    (hf : ∀ a, Total (f a)) : Unchanged (x >>= f) s := by
  intro e s' h
  obtain h | ⟨a, t, -, h⟩ := fails_bind.mp h
  · exact hx e s' h
  · exact absurd h (hf a t e s')

theorem Within.check {x : ServiceM α} {f : α → ServiceM β} (hx : Within Eq x)
    (hf : ∀ a, Succeeds x s a s → Unchanged (f a) s) : Unchanged (x >>= f) s :=
  hx.bind_refusedTo rfl hf

theorem Unchanged.guard {c : Prop} [Decidable c] {f : β → ServiceM α} {x : ServiceM α}
    (hx : ¬ c → Unchanged x s) : Unchanged (if c then throw e >>= f else x) s :=
  RefusedTo.guard rfl hx

theorem unchanged_dataSetCreated {serviceProvider : Address} {request : CreationRequest} :
    Unchanged (dataSetCreated ctx id serviceProvider request) s := by
  -- a creation that passes all checks succeeds
  refine Unchanged.of_not_succeeds fun hrefused => ?_
  refine within_requireVerifier.check fun _ hcaller => ?_
  refine Unchanged.guard fun hpayer => Unchanged.guard fun hserviceProvider => ?_
  refine within_state.check fun t ht => ?_
  refine Unchanged.guard fun hunused => ?_
  refine within_approvedProvider.check fun provider hprovider => within_get.check fun t' ht' => ?_
  cases hpayee : t'.providers.payee? provider with
  | none => exact within_throw.refused.unchanged
  | some payee =>
    refine within_config.check fun c hc => within_ofExcept.check fun entries hentries =>
      within_ofExcept.check fun _ hvalid =>
      within_chooseClientDataSetId.check fun clientId hchosen =>
      within_requireSigned.check fun _ hsigned => within_get.check fun t'' ht'' =>
      within_ofExcept.check fun _ hfunded => ?_
    obtain rfl := (succeeds_state.mp ht).1.symm
    obtain rfl := (succeeds_get.mp ht').1.symm
    obtain rfl := (succeeds_get.mp ht'').1.symm
    obtain rfl := (succeeds_config.mp hc).1.symm
    obtain ⟨hknown, hactive, happroved, -⟩ := succeeds_approvedProvider.mp hprovider
    have hchecked : CreationChecked ctx id serviceProvider request s provider payee entries
        clientId := by
      constructor
      · exact (succeeds_requireVerifier.mp hcaller).1
      · exact hpayer
      · exact hserviceProvider
      · exact Option.not_isSome_iff_eq_none.mp hunused
      · exact hknown
      · exact hactive
      · exact happroved
      · exact hpayee
      · exact (succeeds_ofExcept.mp hentries).1
      · exact (succeeds_ofExcept.mp hvalid).1
      · exact (succeeds_chooseClientDataSetId.mp hchosen).1
      · exact (succeeds_requireSigned.mp hsigned).1
      · exact (succeeds_ofExcept.mp hfunded).1
    obtain ⟨storageRail, egress, l, hrails⟩ := exists_railsOpened hchecked.funded
    exact absurd (succeeds_dataSetCreated.mpr
      ⟨provider, payee, entries, clientId, storageRail, egress, l, hchecked, hrails, rfl⟩)
      (hrefused () _)

theorem unchanged_terminateService
    (nodup : ∀ d, s.state.dataSet? id = some d → d.railIds.Nodup) :
    Unchanged (terminateService ctx id) s := by
  -- what is left to do once the storage rail is terminated cannot be refused
  refine Unchanged.of_not_succeeds fun hrefused => ?_
  refine within_dataSet.check fun d hd => ?_
  refine Unchanged.guard fun hparty => Unchanged.guard fun hended => ?_
  refine within_get.check fun t ht => ?_
  obtain rfl := (succeeds_get.mp ht).1.symm
  intro e s' h
  obtain h | ⟨endEpoch, t, hstorage, -⟩ := fails_bind.mp h
  · exact (refusedWithin_ledgerCall.unchanged) e s' h
  · obtain ⟨l, hl, -⟩ := succeeds_ledgerCall.mp hstorage
    have hd := (succeeds_dataSet.mp hd).1
    obtain ⟨l', hegress⟩ := exists_liveEgressTerminated hl (nodup d hd)
    have hparty : ctx.caller = d.payer ∨ ctx.caller = d.payee ∨ ctx.caller = d.serviceProvider := by
      grind
    rw [Bool.not_eq_true] at hended
    exact absurd (succeeds_terminateService.mpr ⟨d, l, l', hd, hparty, hended, hl, hegress, rfl⟩)
      (hrefused endEpoch _)

theorem unchanged_perform {c : Call} (hc : c.isEgressPayment = false)
    (nodup : ∀ id d, s.state.dataSet? id = some d → d.railIds.Nodup) :
    Unchanged (perform ctx c) s := by
  have done_unchanged {call : ServiceM Unit} (h : Unchanged call s) : Unchanged (done call) s :=
    h.bind_total fun _ => total_pure
  cases c with
  | dataSetCreated => exact done_unchanged unchanged_dataSetCreated
  | piecesAdded => exact refusedWithin_piecesAdded.done.unchanged
  | piecesScheduledForRemoval => exact refusedWithin_piecesScheduledForRemoval.done.unchanged
  | possessionProven => exact refusedWithin_possessionProven.done.unchanged
  | nextProvingPeriod => exact refusedWithin_nextProvingPeriod.done.unchanged
  | dataSetDeleted => exact refusedWithin_dataSetDeleted.done.unchanged
  | providerChanged => exact refusedWithin_providerChanged.done.unchanged
  | railTerminated => exact refusedWithin_railTerminated.done.unchanged
  | arbitrate => exact (within_arbitrate.refused.bind_total fun _ => total_pure).unchanged
  | terminateService id =>
    exact (unchanged_terminateService (nodup id)).bind_total fun _ => total_pure
  | topUpEgress => contradiction
  | settleEgress => contradiction
  | approveProvider => exact refusedWithin_approveProvider.done.unchanged
  | unapproveProvider => exact refusedWithin_unapproveProvider.done.unchanged
  | setProvingParams => exact refusedWithin_setProvingParams.done.unchanged
  | setCommission => exact refusedWithin_setCommission.done.unchanged
  | setPricing => exact refusedWithin_setPricing.done.unchanged

end ServiceM

namespace Service

open ServiceM

variable {s : Service}

/--
A refused call that is no payment for egress leaves the service as it was, the ledger included. In
particular every rail of a new data set can be opened once the funds of its payer were examined, and
once a storage rail is terminated so can be the rails for egress that were live before.
-/
theorem Reachable.refused_call_changes_nothing (h : Reachable s) :
    (∀ ctx c e s', c.isEgressPayment = false → s.call ctx c = (.error e, s') → s' = s) ∧
    (∀ payer payee withCdn,
      s.state.config.checkFunding payer
        (s.ledger.approval s.state.config.token payer s.state.config.serviceAddress)
        (s.ledger.account s.state.config.token payer) withCdn = .ok () →
      ∃ storageRail egress l, RailsOpened s.ledger s.state.config
        (storageTerms s.state.config payer payee) withCdn storageRail egress l) ∧
    ∀ id d epoch endEpoch l, s.state.dataSet? id = some d →
      s.ledger.terminate d.storageRail epoch = .ok (endEpoch, l) →
      ∃ l', RailsTerminated epoch (liveEgress s.ledger d) l l' := by
  have nodup : ∀ id d, s.state.dataSet? id = some d → d.railIds.Nodup := by
    intro id d hd
    exact (h.indexed.dataSet id d hd).distinct
  refine ⟨?_, ?_, ?_⟩
  · intro ctx c e s' hc hcall
    exact unchanged_perform hc nodup e s' (call_eq_error_iff.mp hcall)
  · intro payer payee withCdn hfunded
    exact exists_railsOpened hfunded
  · intro id d epoch endEpoch l hd hterminate
    exact exists_liveEgressTerminated hterminate (nodup id d hd)

/-- The rails 2 and 3 for egress are live, and can be ended after the storage rail. -/
theorem refused_call_of_cdnService :
    cdnService.call ⟨9, 10⟩ (.terminateService 1) = (.error (.notParty 1 9), cdnService) ∧
    (∃ storageRail egress l, RailsOpened cdnService.ledger cdnService.state.config
      (storageTerms cdnService.state.config cdnPayer 8) true storageRail egress l) ∧
    ∃ endEpoch l l', cdnService.ledger.terminate 1 20 = .ok (endEpoch, l) ∧
      RailsTerminated 20 [2, 3] l l' := by
  obtain ⟨hunchanged, hopened, hterminated⟩ :=
    Reachable.refused_call_changes_nothing reachable_cdnService
  refine ⟨?_, ?_, ?_⟩
  · have hanswer : (cdnService.call ⟨9, 10⟩ (.terminateService 1)).1 =
        .error (.notParty 1 9) := by
      decide +kernel
    exact Prod.ext hanswer (hunchanged _ _ _ _ rfl (Prod.ext hanswer rfl))
  · exact hopened cdnPayer 8 true (by decide +kernel)
  · have hrails : (cdnService.state.dataSet? 1).map (fun d =>
        (d.storageRail, liveEgress cdnService.ledger d)) = some (1, [2, 3]) := by
      decide +kernel
    obtain ⟨d, hd, hrails⟩ := Option.map_eq_some_iff.mp hrails
    rw [Prod.mk.injEq] at hrails
    obtain ⟨⟨endEpoch, l⟩, hterminate⟩ : ∃ r, cdnService.ledger.terminate 1 20 = .ok r :=
      ⟨_, Ledger.eq_ok_getD (a := (0, .empty)) (by decide +kernel)⟩
    rw [← hrails.1] at hterminate
    obtain ⟨l', hl'⟩ := hterminated 1 d 20 endEpoch l hd hterminate
    rw [hrails.2] at hl'
    rw [hrails.1] at hterminate
    exact ⟨endEpoch, l, l', hterminate, hl'⟩

end Service

end WarmStorage

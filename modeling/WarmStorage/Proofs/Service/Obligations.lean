import WarmStorage.Proofs.Service.Frozen
import WarmStorage.Proofs.Service.Respects
import WarmStorage.Proofs.Service.Restart

/-!
The owner and the obligations that there are. The owner sets the terms for new data sets: how they
are proven, the commission on their rails, and which providers may have them. Only creations and
changes of provider look at these terms. All other calls do the same whatever the owner sets in
between, and what was agreed on when a data set was created stays until it is deleted.
-/

namespace WarmStorage

def Call.setsTerms : Call → Bool
  | .approveProvider _ => true
  | .unapproveProvider _ => true
  | .setProvingParams _ => true
  | .setCommission _ => true
  | _ => false

def Call.readsTerms : Call → Bool
  | .dataSetCreated .. => true
  | .providerChanged .. => true
  | _ => false

def Move.setsTerms : Move → Bool
  | .call _ c => c.setsTerms
  | _ => false

def Move.readsTerms : Move → Bool
  | .call _ c => c.readsTerms
  | _ => false

def ServiceState.onTerms (s : ServiceState) (proving : ProvingParams) (commissionBps : UInt16)
    (approvedProviders : Std.ExtTreeSet ProviderId) : ServiceState :=
  { s with
    config := { s.config with proving := proving, commissionBps := commissionBps }
    approvedProviders := approvedProviders }

namespace Service

open ServiceM

variable {s t s₀ t₀ : Service} {ctx : CallContext} {c : Call} {m : Move} {moves : List Move}
  {id : DataSetId} {d d' : DataSet}

structure SameButTerms (s t : Service) : Prop where
  state : ∃ proving commissionBps approvedProviders,
    t.state = s.state.onTerms proving commissionBps approvedProviders
  ledger : t.ledger = s.ledger
  providers : t.providers = s.providers
  sessionKeys : t.sessionKeys = s.sessionKeys

theorem sameButTerms_of_state (hstate : t.state = s.state) (hledger : t.ledger = s.ledger)
    (hproviders : t.providers = s.providers) (hsessionKeys : t.sessionKeys = s.sessionKeys) :
    s.SameButTerms t :=
  ⟨⟨_, _, _, hstate⟩, hledger, hproviders, hsessionKeys⟩

theorem SameButTerms.refl : s.SameButTerms s :=
  sameButTerms_of_state rfl rfl rfl rfl

theorem SameButTerms.trans {u : Service} (h : s.SameButTerms t) (h' : t.SameButTerms u) :
    s.SameButTerms u := by
  obtain ⟨proving, commissionBps, approvedProviders, ht⟩ := h.state
  obtain ⟨proving', commissionBps', approvedProviders', hu⟩ := h'.state
  refine ⟨⟨proving', commissionBps', approvedProviders', ?_⟩, h'.ledger.trans h.ledger,
    h'.providers.trans h.providers, h'.sessionKeys.trans h.sessionKeys⟩
  rw [hu, ht]
  rfl

theorem refusedWithin_of_setsTerms (h : c.setsTerms = true) :
    RefusedWithin Eq (perform ctx c) := by
  cases c with
  | approveProvider => exact refusedWithin_approveProvider.done
  | unapproveProvider => exact refusedWithin_unapproveProvider.done
  | setProvingParams => exact refusedWithin_setProvingParams.done
  | setCommission => exact refusedWithin_setCommission.done
  | _ => contradiction

theorem sameButTerms_of_setsTerms (h : c.setsTerms = true) : s.SameButTerms (s.call ctx c).2 := by
  cases hcall : s.call ctx c with
  | mk answer s' =>
  cases answer with
  | error e =>
    rw [refusedWithin_of_setsTerms h _ _ _ (call_eq_error_iff.mp hcall)]
    exact .refl
  | ok reply =>
    cases performed_of_succeeds (call_eq_ok_iff.mp hcall) with
    | owner _ sets =>
      cases sets with
      | pricing => contradiction
      | _ => exact ⟨⟨_, _, _, rfl⟩, rfl, rfl, rfl⟩
    | _ => contradiction

def BesideTerms (s₀ t₀ s t : Service) : Prop :=
  s.SameButTerms t ∧ SameAdded s₀ t₀ s t

theorem besideTerms_modifyState {f : ServiceState → ServiceState}
    (hf : ∀ state proving commissionBps approvedProviders,
      f (state.onTerms proving commissionBps approvedProviders) =
        (f state).onTerms proving commissionBps approvedProviders) :
    Respects (BesideTerms s₀ t₀) (modifyState f) := by
  refine respects_modifyState fun s t ⟨hterms, hevents⟩ => ⟨?_, hevents⟩
  obtain ⟨proving, commissionBps, approvedProviders, ht⟩ := hterms.state
  refine ⟨⟨proving, commissionBps, approvedProviders, ?_⟩, hterms.ledger, hterms.providers,
    hterms.sessionKeys⟩
  rw [ht, hf]

theorem besideTerms_ledgerCall {α : Type} {f : Ledger → Except LedgerError (α × Ledger)} :
    Respects (BesideTerms s₀ t₀) (ledgerCall f) := by
  refine respects_ledgerCall fun s t ⟨hterms, hevents⟩ => ?_
  rw [hterms.ledger]
  cases hf : f s.ledger with
  | error err => exact .inr ⟨err, rfl, rfl⟩
  | ok answer =>
    exact .inl ⟨answer.1, answer.2, answer.2, rfl, rfl,
      ⟨hterms.state, rfl, hterms.providers, hterms.sessionKeys⟩, hevents⟩

theorem besideTerms_ledgerChange {f : Ledger → Except LedgerError Ledger} :
    Respects (BesideTerms s₀ t₀) (ledgerChange f) := by
  refine respects_ledgerChange fun s t ⟨hterms, hevents⟩ => ?_
  rw [hterms.ledger]
  cases hf : f s.ledger with
  | error err => exact .inr ⟨err, rfl, rfl⟩
  | ok l =>
    exact .inl ⟨l, l, rfl, rfl, ⟨hterms.state, rfl, hterms.providers, hterms.sessionKeys⟩, hevents⟩

theorem besideTerms_emit {event : Event} : Respects (BesideTerms s₀ t₀) (emit event) :=
  respects_modify fun _ _ ⟨hterms, hevents⟩ =>
    ⟨⟨hterms.state, hterms.ledger, hterms.providers, hterms.sessionKeys⟩, hevents.emit event⟩

theorem tracks_besideTerms (id : DataSetId) :
    Tracks (BesideTerms s₀ t₀) id fun _ _ => True where
  config := by
    rintro s t ⟨hterms, -⟩
    obtain ⟨proving, commissionBps, _, ht⟩ := hterms.state
    exact ⟨proving, commissionBps, by rw [ht]; rfl⟩
  sessionKeys h := h.1.sessionKeys
  dataSet := by
    rintro s t ⟨hterms, -⟩
    obtain ⟨_, _, _, ht⟩ := hterms.state
    rw [ht]
    rfl
  own _ _ := trivial
  proving := by
    rintro s t ⟨hterms, -⟩
    obtain ⟨_, _, _, ht⟩ := hterms.state
    rw [ht]
    rfl
  nonce := by
    rintro s t _ _ _ ⟨hterms, -⟩ -
    obtain ⟨_, _, _, ht⟩ := hterms.state
    rw [ht]
    rfl
  rail h _ _ _ := by rw [h.1.ledger]
  setDataSet _ := besideTerms_modifyState fun _ _ _ _ => rfl
  setProving := besideTerms_modifyState fun _ _ _ _ => rfl
  recordNonce _ := besideTerms_modifyState fun _ _ _ _ => rfl
  delete _ := besideTerms_modifyState fun _ _ _ _ => rfl
  emit := besideTerms_emit
  modifyPayment _ _ _ := besideTerms_ledgerChange
  modifyLockup _ _ _ := besideTerms_ledgerChange
  terminate _ _ _ := besideTerms_ledgerCall

theorem dataSetOfRail?_besideTerms {rail : RailId} (h : BesideTerms s₀ t₀ s t) :
    t.state.dataSetOfRail? rail = s.state.dataSetOfRail? rail := by
  obtain ⟨_, _, _, ht⟩ := h.1.state
  rw [ht]
  rfl

theorem respects_besideTerms (hsets : c.setsTerms = false) (hreads : c.readsTerms = false) :
    Respects (BesideTerms s₀ t₀) (perform ctx c) := by
  cases hid : c.about? with
  | some id =>
    refine (tracks_besideTerms id).perform hid ?_
    rintro old new rfl
    contradiction
  | none =>
    cases c with
    | railTerminated rail endEpoch =>
      exact (respects_railTerminated tracks_besideTerms fun _ _ h =>
        dataSetOfRail?_besideTerms h).done
    | arbitrate rail proposed after upTo =>
      exact (respects_arbitrate tracks_besideTerms fun _ _ h =>
        dataSetOfRail?_besideTerms h).bind fun _ => respects_pure
    | setPricing pricing =>
      exact Respects.done <| (tracks_besideTerms 0).requireOwner.bind fun _ =>
        respects_ofExcept.bind fun _ =>
        Respects.bind (besideTerms_modifyState fun _ _ _ _ => rfl) fun _ => besideTerms_emit
    | _ => contradiction

theorem SameButTerms.call (h : s.SameButTerms t) (hsets : c.setsTerms = false)
    (hreads : c.readsTerms = false) :
    (s.call ctx c).2.SameButTerms (t.call ctx c).2 ∧
      t.observe (.call ctx c) = s.observe (.call ctx c) := by
  have hrespects : Respects (BesideTerms s t) (perform ctx c) := respects_besideTerms hsets hreads
  obtain ⟨hanswer, hterms, hevents⟩ := (hrespects s t ⟨h, .refl⟩).call
  refine ⟨hterms, ?_⟩
  rw [observe_call, observe_call, hanswer, hevents.drop_eq]

theorem observe_eq_of_not_call (h : ∀ ctx c, m ≠ .call ctx c) : t.observe m = s.observe m := by
  rw [observe_of_not_call h, observe_of_not_call h]

theorem SameButTerms.move (h : s.SameButTerms t) (hs : Reachable s) (ht : Reachable t)
    (hsets : m.setsTerms = false) (hreads : m.readsTerms = false) :
    (s.move m).SameButTerms (t.move m) ∧ t.observe m = s.observe m := by
  cases m with
  | call ctx c => exact h.call hsets hreads
  | operate op =>
    refine ⟨⟨h.state, ?_, h.providers, h.sessionKeys⟩, observe_eq_of_not_call nofun⟩
    show (t.ledger.operate op).2 = (s.ledger.operate op).2
    rw [h.ledger]
  | outside providers sessionKeys =>
    exact ⟨⟨h.state, h.ledger, rfl, rfl⟩, observe_eq_of_not_call nofun⟩
  | takeEvents =>
    exact ⟨⟨h.state, h.ledger, h.providers, h.sessionKeys⟩, observe_eq_of_not_call nofun⟩
  | restart sessionKeys =>
    refine ⟨?_, observe_eq_of_not_call nofun⟩
    rw [move_restart_of_valid hs.valid, move_restart_of_valid ht.valid]
    exact ⟨h.state, h.ledger, h.providers, rfl⟩

def observationsOf (p : Move → Bool) (s : Service) :
    List Move → List (Option (Except ServiceError Reply) × List Event)
  | [] => []
  | m :: moves =>
    if p m then s.observe m :: (s.move m).observationsOf p moves
    else (s.move m).observationsOf p moves

theorem SameButTerms.run (h : s.SameButTerms t) (hs : Reachable s) (ht : Reachable t)
    (hreads : ∀ m ∈ moves, m.readsTerms = false) :
    (s.run (moves.filter (!·.setsTerms))).SameButTerms (t.run moves) ∧
      t.observationsOf (!·.setsTerms) moves = s.observations (moves.filter (!·.setsTerms)) := by
  induction moves generalizing s t with
  | nil => exact ⟨h, rfl⟩
  | cons m moves ih =>
    obtain ⟨hm, hmoves⟩ := List.forall_mem_cons.mp hreads
    rw [observationsOf, List.filter_cons]
    cases hsets : m.setsTerms with
    | false =>
      obtain ⟨hmove, hobserve⟩ := h.move hs ht hsets hm
      obtain ⟨hrun, hobservations⟩ := ih hmove hs.move ht.move hmoves
      exact ⟨hrun, congrArg₂ List.cons hobserve hobservations⟩
    | true =>
      -- the move is left out of the run on the left, and its effect is one that nobody looks at
      cases m with
      | call ctx c =>
        exact ih (h.trans (sameButTerms_of_setsTerms hsets)) hs ht.move hmoves
      | _ => contradiction

end Service

structure Obligation where
  payer : Address
  payee : Address
  clientDataSetId : UInt256
  storageRail : RailId
  cacheMissRail : Option RailId
  cdnRail : Option RailId
  commissionBps : UInt16
  proving : ProvingParams
deriving DecidableEq

def DataSet.obligation (d : DataSet) (proving : ProvingParams) : Obligation :=
  ⟨d.payer, d.payee, d.clientDataSetId, d.storageRail, d.cacheMissRail, d.cdnRail, d.commissionBps,
    proving⟩

def ServiceState.obligation? (s : ServiceState) (id : DataSetId) : Option Obligation := do
  let d ← s.dataSet? id
  let p ← s.proving? id
  return d.obligation p.params

namespace Service

open ServiceM

variable {s t : Service} {ctx : CallContext} {c : Call} {m : Move} {moves : List Move}
  {id : DataSetId} {d d' : DataSet} {epoch : Epoch}

theorem obligation_endedDataSet {endEpoch : Epoch} :
    (endedDataSet d endEpoch).obligation = d.obligation := by
  unfold endedDataSet
  split
  · rfl
  · rfl

theorem Continues.obligation {ends : List Epoch} (h : Continues ctx c s id d d' ends) :
    d'.obligation = d.obligation := by
  cases h with
  | moved heq =>
    rw [heq]
    rfl
  | grown _ heq =>
    rw [heq]
    rfl
  | reported _ _ _ heq =>
    rw [heq]
    rfl
  | ended _ _ _ heq =>
    rw [heq]
    exact obligation_endedDataSet

theorem ProvingGoesOn.params (h : ProvingGoesOn epoch s t id d) :
    (t.state.proving? id).map (·.params) = (s.state.proving? id).map (·.params) := by
  cases h with
  | kept heq => rw [heq]
  | stepped hp _ _ _ heq =>
    rw [hp, heq, Option.map_some, Option.map_some, ProvingState.Step.params_apply]

theorem obligation?_eq_map (hd : s.state.dataSet? id = some d) :
    s.state.obligation? id = ((s.state.proving? id).map (·.params)).map d.obligation := by
  rw [ServiceState.obligation?, hd]
  cases s.state.proving? id with
  | none => rfl
  | some p => rfl

theorem obligation?_move (hd : s.state.dataSet? id = some d)
    (hd' : (s.move m).state.dataSet? id = some d') :
    (s.move m).state.obligation? id = s.state.obligation? id := by
  obtain ⟨ctx, c, rfl⟩ | ⟨op, rfl⟩ | ⟨hstate, -⟩ := move_cases (s := s) m
  · rw [move_call] at hd' ⊢
    have hgoes : ProvingGoesOn ctx.epoch s (s.call ctx c).2 id d :=
      (effect_of_call rfl).provingGoesOn hd hd'
    rw [obligation?_eq_map hd, obligation?_eq_map hd', hgoes.params,
      (continues_of_call hd hd').obligation]
  · rfl
  · rw [hstate]

theorem obligation?_run (lives : s.Lives id moves) :
    (s.run moves).state.obligation? id = s.state.obligation? id := by
  induction moves generalizing s with
  | nil => rfl
  | cons m moves ih =>
    obtain ⟨d, hd⟩ := lives.exists_dataSet
    obtain ⟨d', hd'⟩ := lives.2.exists_dataSet
    rw [run_cons, ih lives.2, obligation?_move hd hd']

theorem Reachable.exists_obligation (hs : Reachable s) (hd : s.state.dataSet? id = some d) :
    ∃ o, s.state.obligation? id = some o := by
  have hproving := hs.indexed.proving id
  rw [hd, Option.isSome_some] at hproving
  obtain ⟨p, hp⟩ := Option.isSome_iff_exists.mp hproving
  exact ⟨d.obligation p.params, by rw [obligation?_eq_map hd, hp, Option.map_some, Option.map_some]⟩

/--
What the owner does never touches obligations that there are. Take any run without creations and
changes of provider. Leave out the calls, by whomever and successful or not, that set proving
parameters or the commission, or approve or unapprove a provider: each of the other moves is
answered in the same way and adds the same events, and the run leads to the same data sets, proving
states and ledger, and to the same answers of arbitration. And along any run what was agreed on for
a data set stays as it is as long as the data set is there.
-/
theorem Reachable.obligations_untouched (hs : Reachable s) :
    (∀ moves, (∀ m ∈ moves, m.readsTerms = false) →
      let others := moves.filter (!·.setsTerms)
      s.observationsOf (!·.setsTerms) moves = s.observations others ∧
      (s.run moves).state.dataSets = (s.run others).state.dataSets ∧
      (s.run moves).state.proving = (s.run others).state.proving ∧
      (s.run moves).ledger = (s.run others).ledger ∧
      ∀ rail proposed after upTo current,
        (s.run moves).state.arbitrate rail proposed after upTo current =
          (s.run others).state.arbitrate rail proposed after upTo current) ∧
    ∀ id moves, s.Lives id moves → ∃ o, s.state.obligation? id = some o ∧
      (s.run moves).state.obligation? id = some o := by
  constructor
  · intro moves hreads
    obtain ⟨hterms, hobservations⟩ := SameButTerms.refl.run hs hs hreads
    obtain ⟨_, _, _, hstate⟩ := hterms.state
    refine ⟨hobservations, ?_, ?_, hterms.ledger, fun rail proposed after upTo current => ?_⟩
    · rw [hstate]
      rfl
    · rw [hstate]
      rfl
    · rw [hstate]
      exact arbitrate_congr rfl (fun _ => rfl) fun _ => rfl
  · intro id moves lives
    obtain ⟨d, hd⟩ := lives.exists_dataSet
    obtain ⟨o, ho⟩ := hs.exists_obligation hd
    exact ⟨o, ho, by rw [obligation?_run lives, ho]⟩

/--
Proving starts and is proven, and the payer terminates the service; before and in between the owner
sets other terms, and someone else tries to.
-/
def changesOfTerms : List Move :=
  [.call ⟨2, 10⟩ (.setProvingParams ⟨100, 7⟩), .call ⟨3, 30⟩ (.nextProvingPeriod 1 38 0),
    .call ⟨2, 31⟩ (.setCommission 500), .call ⟨9, 32⟩ (.unapproveProvider 1),
    .call ⟨3, 38⟩ (.possessionProven 1 5), .call ⟨2, 40⟩ (.unapproveProvider 1),
    .call ⟨cdnPayer, 50⟩ (.terminateService 1)]

theorem obligations_untouched_cdnService :
    (∀ m ∈ changesOfTerms, m.readsTerms = false) ∧
    cdnService.observationsOf (!·.setsTerms) changesOfTerms =
      cdnService.observations (changesOfTerms.filter (!·.setsTerms)) ∧
    (cdnService.run changesOfTerms).state.config.proving = ⟨100, 7⟩ ∧
    cdnService.Lives 1 changesOfTerms ∧
    ∃ o, cdnService.state.obligation? 1 = some o ∧ o.proving = cdnConfig.proving ∧
      (cdnService.run changesOfTerms).state.obligation? 1 = some o := by
  have hreads : ∀ m ∈ changesOfTerms, m.readsTerms = false := by decide
  have lives : cdnService.Lives 1 changesOfTerms := by decide +kernel
  have hproving : (cdnService.state.obligation? 1).map (·.proving) = some cdnConfig.proving := by
    decide +kernel
  obtain ⟨huntouched, hagreed⟩ := Reachable.obligations_untouched reachable_cdnService
  obtain ⟨o, ho, ho'⟩ := hagreed 1 changesOfTerms lives
  rw [ho, Option.map_some, Option.some.injEq] at hproving
  exact ⟨hreads, (huntouched changesOfTerms hreads).1, by decide +kernel, lives, o, ho, hproving,
    ho'⟩

end Service

end WarmStorage

import WarmStorage.Proofs.Authorization.Verification
import WarmStorage.Proofs.Ledger.Operations
import WarmStorage.Proofs.Service.Failure

/-!
The creation of a data set. Until it is taken into the state only the ledger changes, which opens
the rails of the data set under its next numbers.
-/

namespace WarmStorage

def ServiceState.registered (s : ServiceState) (d : DataSet) : ServiceState :=
  { s with
    dataSets := s.dataSets.insert d.id d
    proving := s.proving.insert d.id { params := s.config.proving }
    replay := s.replay.recordDataSet d.payer d.clientDataSetId d.id
    payerDataSets := s.payerDataSets.insert d.payer (s.payerDataSets.getD d.payer [] ++ [d.id])
    railOwners := d.railIds.foldl (fun m rail => m.insert rail d.id) s.railOwners
    payerCounters := match s.config.versioning.clientIdScheme with
      | .payerCounter => s.payerCounters.insert d.payer (s.nextClientDataSetId d.payer + 1)
      | .clientNonce => s.payerCounters }

namespace ServiceM

variable {ctx : CallContext} {id : DataSetId} {d : DataSet} {s s' : Service} {u : Unit} {c : Config}
  {terms : RailTerms} {rail : RailId} {period : UInt64} {fixed : TokenAmount}
  {serviceProvider payee : Address} {request : CreationRequest} {clientId : UInt256}
  {egress : Option RailId × Option RailId}

@[simp]
theorem succeeds_register : Succeeds (register d) s u s' ↔
    s' = { s with state := s.state.registered d } :=
  succeeds_modifyState

def RailOpened (l : Ledger) (terms : RailTerms) (period : UInt64) (fixed : TokenAmount)
    (rail : RailId) (l' : Ledger) : Prop :=
  ∃ m, l.createRail terms = .ok (rail, m) ∧ m.modifyLockup rail period fixed = .ok l'

theorem RailOpened.numbers {l l' : Ledger} (h : RailOpened l terms period fixed rail l') :
    rail = l.lastRail + 1 ∧ l'.lastRail = l.lastRail + 1 := by
  obtain ⟨m, hcreate, hlockup⟩ := h
  obtain ⟨-, rfl, rfl⟩ := Ledger.createRail_eq_ok_iff.mp hcreate
  exact ⟨rfl, Ledger.lastRail_of_modifyLockup hlockup⟩

theorem RailOpened.reaches {l l' : Ledger} (h : RailOpened l terms period fixed rail l') :
    l.Reaches l' := by
  obtain ⟨m, hcreate, hlockup⟩ := h
  exact (Ledger.reaches_of_createRail hcreate).trans (Ledger.reaches_of_modifyLockup hlockup)

@[simp]
theorem succeeds_openRail : Succeeds (openRail terms period fixed) s rail s' ↔
    ∃ l, RailOpened s.ledger terms period fixed rail l ∧ s' = { s with ledger := l } := by
  unfold openRail RailOpened
  simp only [succeeds_bind, succeeds_ledgerCall, succeeds_ledgerChange, succeeds_pure]
  constructor
  · rintro ⟨rail, _, ⟨m, hcreate, rfl⟩, -, _, ⟨l, hlockup, rfl⟩, rfl, rfl⟩
    exact ⟨l, ⟨m, hcreate, hlockup⟩, rfl⟩
  · rintro ⟨l, ⟨m, hcreate, hlockup⟩, rfl⟩
    exact ⟨rail, _, ⟨m, hcreate, rfl⟩, (), _, ⟨l, hlockup, rfl⟩, rfl, rfl⟩

def EgressOpened (l : Ledger) (c : Config) (storage : RailTerms)
    (egress : Option RailId × Option RailId) (l' : Ledger) : Prop :=
  ∃ cacheMissRail cdnRail m, egress = (some cacheMissRail, some cdnRail) ∧
    RailOpened l { storage with commissionBps := 0 } 0 c.pricing.cacheMissLockup cacheMissRail m ∧
    RailOpened m { storage with commissionBps := 0, payee := c.cdnBeneficiary } 0
      c.pricing.cdnLockup cdnRail l'

theorem succeeds_openEgressRails : Succeeds (openEgressRails c terms) s egress s' ↔
    ∃ l, EgressOpened s.ledger c terms egress l ∧ s' = { s with ledger := l } := by
  unfold openEgressRails EgressOpened
  simp only [succeeds_bind, succeeds_openRail, succeeds_pure]
  constructor
  · rintro ⟨cacheMissRail, _, ⟨m, hcacheMiss, rfl⟩, cdnRail, _, ⟨l, hcdn, rfl⟩, rfl, rfl⟩
    exact ⟨l, ⟨cacheMissRail, cdnRail, m, rfl, hcacheMiss, hcdn⟩, rfl⟩
  · rintro ⟨l, ⟨cacheMissRail, cdnRail, m, rfl, hcacheMiss, hcdn⟩, rfl⟩
    exact ⟨cacheMissRail, _, ⟨m, hcacheMiss, rfl⟩, cdnRail, _, ⟨l, hcdn, rfl⟩, rfl, rfl⟩

def ClientIdChosen (s : ServiceState) (request : CreationRequest) (clientId : UInt256) : Prop :=
  clientId = (match s.config.versioning.clientIdScheme with
    | .payerCounter => .ofWord (s.nextClientDataSetId request.payer)
    | .clientNonce => request.clientDataSetId) ∧
  s.replay.dataSet? request.payer clientId = none

theorem succeeds_chooseClientDataSetId : Succeeds (chooseClientDataSetId request) s clientId s' ↔
    ClientIdChosen s.state request clientId ∧ s' = s := by
  unfold chooseClientDataSetId ClientIdChosen
  simp only [succeeds_bind, succeeds_state, succeeds_guard, succeeds_pure, and_assoc,
    exists_and_left, exists_eq_left, Option.not_isSome_iff_eq_none]
  constructor
  · rintro ⟨hunused, rfl, rfl⟩
    exact ⟨rfl, hunused, rfl⟩
  · rintro ⟨rfl, hunused, rfl⟩
    exact ⟨hunused, rfl, rfl⟩

theorem within_chooseClientDataSetId {R : Service → Service → Prop} [Std.Refl R]
    [IsTrans Service R] : Within R (chooseClientDataSetId request) :=
  within_state.bind fun _ => Within.guard within_pure

def storageTerms (c : Config) (payer payee : Address) : RailTerms :=
  { token := c.token
    payer := payer
    payee := payee
    operator := c.serviceAddress
    arbiter := c.serviceAddress
    commissionBps := c.commissionBps
    feeRecipient := c.feeRecipient }

def RailsOpened (l : Ledger) (c : Config) (terms : RailTerms) (withCdn : Bool)
    (storageRail : RailId) (egress : Option RailId × Option RailId) (l' : Ledger) : Prop :=
  ∃ m, RailOpened l terms c.lockupPeriod 0 storageRail m ∧
    (withCdn = true ∧ EgressOpened m c terms egress l' ∨
      withCdn = false ∧ egress = (none, none) ∧ l' = m)

theorem RailsOpened.reaches {l l' : Ledger} {withCdn : Bool}
    (h : RailsOpened l c terms withCdn rail egress l') : l.Reaches l' := by
  obtain ⟨m, hstorage, ⟨-, _, _, m', -, hcacheMiss, hcdn⟩ | ⟨-, -, rfl⟩⟩ := h
  · exact (hstorage.reaches.trans hcacheMiss.reaches).trans hcdn.reaches
  · exact hstorage.reaches

structure CreationChecked (ctx : CallContext) (id : DataSetId) (serviceProvider : Address)
    (request : CreationRequest) (s : Service) (provider : ProviderId) (payee : Address)
    (entries : Metadata) (clientId : UInt256) : Prop where
  caller : ctx.caller = s.state.config.verifier
  payer_ne : request.payer ≠ 0
  serviceProvider_ne : serviceProvider ≠ 0
  unused : s.state.dataSet? id = none
  known : s.providers.id? serviceProvider = some provider
  active : s.providers.isActive provider = true
  approved : s.state.isApproved provider = true
  payee_eq : s.providers.payee? provider = some payee
  entries_eq : Metadata.ofColumns request.metadataKeys request.metadataValues = .ok entries
  entries_valid : s.state.config.metadata.validate entries .dataSet = .ok ()
  chosen : ClientIdChosen s.state request clientId
  signed : ∃ signer, s.signingContext.verify
    (creationMessage s.state.config.versioning.cdnFlag request clientId payee entries).1
    request.signature request.payer s.sessionKeys ctx.epoch = .ok signer
  funded : s.state.config.checkFunding request.payer
    (s.ledger.approval s.state.config.token request.payer s.state.config.serviceAddress)
    (s.ledger.account s.state.config.token request.payer)
    (creationMessage s.state.config.versioning.cdnFlag request clientId payee entries).2 = .ok ()

def createdDataSet (c : Config) (id : DataSetId) (serviceProvider : Address)
    (request : CreationRequest) (provider : ProviderId) (payee : Address) (entries : Metadata)
    (clientId : UInt256) (storageRail : RailId) (egress : Option RailId × Option RailId) :
    DataSet :=
  { id := id
    payer := request.payer
    serviceProvider := serviceProvider
    payee := payee
    providerId := provider
    clientDataSetId := clientId
    storageRail := storageRail
    cacheMissRail := egress.1
    cdnRail := egress.2
    commissionBps := c.commissionBps
    withCdn := (creationMessage c.versioning.cdnFlag request clientId payee entries).2
    metadata := entries }

theorem succeeds_dataSetCreated :
    Succeeds (dataSetCreated ctx id serviceProvider request) s u s' ↔
      ∃ provider payee entries clientId storageRail egress l,
        CreationChecked ctx id serviceProvider request s provider payee entries clientId ∧
        RailsOpened s.ledger s.state.config (storageTerms s.state.config request.payer payee)
          (creationMessage s.state.config.versioning.cdnFlag request clientId payee entries).2
          storageRail egress l ∧
        s' = { s with
          state := s.state.registered (createdDataSet s.state.config id serviceProvider request
            provider payee entries clientId storageRail egress)
          ledger := l
          events := s.events ++ [.dataSetCreated id provider storageRail egress.1 egress.2
            request.payer serviceProvider payee entries] } := by
  simp only [dataSetCreated, succeeds_bind, succeeds_requireVerifier, succeeds_guard,
    succeeds_state, succeeds_approvedProvider, succeeds_get, and_assoc, exists_and_left,
    exists_eq_left, exists_const, Option.not_isSome_iff_eq_none]
  constructor
  · rintro ⟨hcaller, hpayer, hserviceProvider, hunused, provider, hknown, hactive, happroved, h⟩
    cases hpayee : s.providers.payee? provider with
    | none =>
      rw [hpayee] at h
      exact absurd h succeeds_throw
    | some payee =>
      rw [hpayee] at h
      simp only [succeeds_bind, succeeds_config, succeeds_ofExcept, succeeds_chooseClientDataSetId,
        succeeds_requireSigned, succeeds_get, succeeds_openRail, succeeds_ite,
        succeeds_openEgressRails, succeeds_pure, succeeds_register, succeeds_emit, and_assoc,
        exists_and_left, exists_eq_left, exists_const] at h
      obtain ⟨entries, hentries, ⟨⟩, hvalid, clientId, hchosen, hsigned, ⟨⟩, hfunded, storageRail,
        _, ⟨m, hstorage, rfl⟩, hegress⟩ := h
      have hchecked : CreationChecked ctx id serviceProvider request s provider payee entries
          clientId :=
        ⟨hcaller, hpayer, hserviceProvider, hunused, hknown, hactive, happroved, hpayee, hentries,
          hvalid, hchosen, hsigned, hfunded⟩
      obtain ⟨hcdn, egress, _, ⟨l, hegress, rfl⟩, rfl⟩ | ⟨hplain, rfl⟩ := hegress
      · exact ⟨provider, payee, entries, clientId, hchecked, storageRail, egress, l,
          ⟨m, hstorage, .inl ⟨hcdn, hegress⟩⟩, rfl⟩
      · rw [Bool.not_eq_true] at hplain
        exact ⟨provider, payee, entries, clientId, hchecked, storageRail, (none, none), m,
          ⟨m, hstorage, .inr ⟨hplain, rfl, rfl⟩⟩, rfl⟩
  · rintro ⟨provider, payee, entries, clientId, h, storageRail, egress, l, ⟨m, hstorage, hegress⟩,
      rfl⟩
    refine ⟨h.caller, h.payer_ne, h.serviceProvider_ne, h.unused, provider, h.known, h.active,
      h.approved, ?_⟩
    rw [h.payee_eq]
    simp only [succeeds_bind, succeeds_config, succeeds_ofExcept, succeeds_chooseClientDataSetId,
      succeeds_requireSigned, succeeds_get, succeeds_openRail, succeeds_ite,
      succeeds_openEgressRails, succeeds_pure, succeeds_register, succeeds_emit, and_assoc,
      exists_and_left, exists_eq_left, exists_const]
    refine ⟨entries, h.entries_eq, (), h.entries_valid, clientId, h.chosen, h.signed, (), h.funded,
      storageRail, _, ⟨m, hstorage, rfl⟩, ?_⟩
    obtain ⟨hcdn, hegress⟩ | ⟨hplain, rfl, rfl⟩ := hegress
    · exact .inl ⟨hcdn, egress, _, ⟨l, hegress, rfl⟩, rfl⟩
    · rw [← Bool.not_eq_true] at hplain
      exact .inr ⟨hplain, rfl⟩

/-- A refused creation may have opened rails, and changed nothing else. -/
theorem refusedWithin_dataSetCreated :
    RefusedWithin SameButLedger (dataSetCreated ctx id serviceProvider request) := by
  have within_openRail : ∀ {terms period fixed},
      Within SameButLedger (openRail terms period fixed) :=
    (within_ledgerCall fun _ _ _ => Ledger.reaches_of_createRail).bind fun _ =>
      (within_ledgerChange fun _ _ => Ledger.reaches_of_modifyLockup).bind fun _ => within_pure
  have within_openEgressRails : ∀ {c terms}, Within SameButLedger (openEgressRails c terms) :=
    within_openRail.bind fun _ => within_openRail.bind fun _ => within_pure
  have total_end : ∀ d e, Total (register d >>= fun _ => emit e) := fun d e =>
    total_modifyState.bind fun _ => total_emit
  refine within_requireVerifier.bind_refused fun _ => ?_
  apply RefusedWithin.guard
  apply RefusedWithin.guard
  refine within_state.bind_refused fun t => ?_
  apply RefusedWithin.guard
  refine within_approvedProvider.bind_refused fun provider => within_get.bind_refused fun t => ?_
  cases t.providers.payee? provider with
  | none => exact within_throw.refused
  | some payee =>
    refine within_config.bind_refused fun c => within_ofExcept.bind_refused fun entries =>
      within_ofExcept.bind_refused fun _ =>
      within_chooseClientDataSetId.bind_refused fun clientId =>
      within_requireSigned.bind_refused fun _ => within_get.bind_refused fun _ =>
      within_ofExcept.bind_refused fun _ => within_openRail.bind_refused fun storageRail => ?_
    exact RefusedWithin.ite
      (within_openEgressRails.bind_refused fun _ => (total_end _ _).refusedWithin)
      (within_pure.bind_refused fun _ => (total_end _ _).refusedWithin)

/-!
A creation that succeeds: the data set 1 of the provider 7, which is paid over the rail 1.
-/

def sampleConfig : Config where
  serviceAddress := 1
  owner := 2
  verifier := 3
  payments := 4
  token := 5
  proving := ⟨10, 4⟩
  pricing := ⟨0, 0, 0, 0, 0, 0⟩
  domain := sampleContext.domain

def sampleLedger : Ledger where
  approvals := (∅ : Std.ExtTreeMap ApprovalKey Approval).insert ⟨5, samplePayer, 1⟩
    { isApproved := true, maxLockupPeriod := epochsPerMonth }

def sampleService : Service :=
  ⟨.ofConfig sampleConfig, sampleLedger, (ProviderRegistry.empty.register 7 8).2, .empty, []⟩

theorem new_sampleService :
    Service.new sampleConfig sampleLedger (ProviderRegistry.empty.register 7 8).2 .empty =
      .ok sampleService := by
  have hvalid : sampleConfig.validate = .ok () := rfl
  unfold Service.new Service.ofState
  rw [ServiceState.ofConfig, hvalid]
  rfl

def approvedService : Service :=
  (sampleService.call ⟨2, 10⟩ (.approveProvider 1)).2

def sampleRequest : CreationRequest where
  payer := samplePayer
  clientDataSetId := 0
  metadataKeys := []
  metadataValues := []
  withCdn := false
  signature := sampleSignature

theorem creationChecked_sampleRequest :
    CreationChecked ⟨3, 10⟩ 1 7 sampleRequest approvedService 1 8 [] 0 where
  caller := by decide +kernel
  payer_ne := by decide
  serviceProvider_ne := by decide
  unused := Option.isNone_iff_eq_none.mp (by decide +kernel)
  known := by decide +kernel
  active := by decide +kernel
  approved := by decide +kernel
  payee_eq := by decide +kernel
  entries_eq := rfl
  entries_valid := rfl
  chosen := ⟨by decide +kernel, by decide +kernel⟩
  signed := ⟨samplePayer, verify_sampleMessage⟩
  funded := by rfl

def railLedger : Ledger :=
  { sampleLedger with
    lastRail := 1
    rails := sampleLedger.rails.insert 1
      { toRailTerms := storageTerms sampleConfig samplePayer 8 } }

def createdLedger : Ledger :=
  (railLedger.modifyLockup 1 epochsPerMonth 0).toOption.getD .empty

theorem railsOpened_createdLedger :
    RailsOpened sampleLedger sampleConfig (storageTerms sampleConfig samplePayer 8) false 1
      (none, none) createdLedger := by
  refine ⟨createdLedger, ⟨railLedger, ?_, ?_⟩, .inr ⟨rfl, rfl, rfl⟩⟩
  · rw [Ledger.createRail_eq_ok_iff]
    exact ⟨by decide +kernel, by decide +kernel, rfl⟩
  · exact Ledger.eq_ok_getD (by decide +kernel)

def createdService : Service :=
  { approvedService with
    state := approvedService.state.registered
      (createdDataSet sampleConfig 1 7 sampleRequest 1 8 [] 0 1 (none, none))
    ledger := createdLedger
    events := approvedService.events ++ [.dataSetCreated 1 1 1 none none samplePayer 7 8 []] }

theorem call_sampleRequest : approvedService.call ⟨3, 10⟩ (.dataSetCreated 1 7 sampleRequest) =
    (.ok .done, createdService) := by
  rw [call_eq_ok_iff]
  refine succeeds_done.mpr ⟨rfl, succeeds_dataSetCreated.mpr ?_⟩
  exact ⟨1, 8, [], 0, 1, (none, none), createdLedger, creationChecked_sampleRequest,
    railsOpened_createdLedger, rfl⟩

end ServiceM

end WarmStorage

import WarmStorage.Proofs.Authorization.Delegation
import WarmStorage.Proofs.Service.Agreement
import WarmStorage.Proofs.Service.Configuration

/-!
What is signed along a run. Creations, additions and removals succeed only when the payer signed
what they store and announce, or somebody did to whom the payer granted it last.
-/

namespace WarmStorage

def DataSet.creationMessage (flag : CdnFlag) (d : DataSet) : Message :=
  match flag with
  | .metadataKey => .createDataSet d.clientDataSetId d.payee d.metadata
  | .field => .createDataSetWithCdn d.clientDataSetId d.withCdn d.payee d.metadata

namespace Service

open ServiceM (Succeeds call_eq_ok_iff succeeds_done succeeds_dataSetCreated succeeds_piecesAdded
  succeeds_piecesScheduledForRemoval createdDataSet ClientIdChosen)

/--
The services that calls lead to, with the history of their session keys. The session keys change
only by their operations, and are given anew when a service is started again.
-/
inductive Keyed : Service → List SessionKeys.Operation → Prop where
  | new {config : Config} {ops : List Ledger.Operation} {providers : ProviderRegistry}
      {history : List SessionKeys.Operation} {s : Service}
      (h : Service.new config (.run .empty ops) providers (.run .empty history) = .ok s) :
      Keyed s history
  | call {s : Service} {history : List SessionKeys.Operation} (ctx : CallContext) (c : Call)
      (h : Keyed s history) : Keyed (s.call ctx c).2 history
  | operate {s : Service} {history : List SessionKeys.Operation} (op : Ledger.Operation)
      (h : Keyed s history) : Keyed { s with ledger := (s.ledger.operate op).2 } history
  | register {s : Service} {history : List SessionKeys.Operation} (providers : ProviderRegistry)
      (h : Keyed s history) : Keyed { s with providers := providers } history
  | session {s : Service} {history : List SessionKeys.Operation} (op : SessionKeys.Operation)
      (h : Keyed s history) :
      Keyed { s with sessionKeys := s.sessionKeys.operate op } (history ++ [op])
  | takeEvents {s : Service} {history : List SessionKeys.Operation} (h : Keyed s history) :
      Keyed s.takeEvents.2 history
  | restart {s s' : Service} {history : List SessionKeys.Operation}
      (history' : List SessionKeys.Operation) (h : Keyed s history)
      (hrestart : s.restart (.run .empty history') = .ok s') : Keyed s' history'

variable {s s' : Service} {history : List SessionKeys.Operation}

theorem Keyed.reachable (h : Keyed s history) : Reachable s := by
  induction h with
  | new h => exact .new h
  | call ctx c _ ih => exact ih.call rfl
  | operate op _ ih => exact ih.operate op
  | @register s _ providers _ ih => exact ih.outside providers s.sessionKeys
  | @session s _ op _ ih => exact ih.outside s.providers (s.sessionKeys.operate op)
  | takeEvents _ ih => exact ih.takeEvents
  | @restart s _ _ history' _ hrestart ih =>
    obtain ⟨-, rfl⟩ := restart_eq_ok_iff.mp hrestart
    exact ih.takeEvents.outside s.providers _

theorem Keyed.sessionKeys_eq (h : Keyed s history) :
    s.sessionKeys = .run .empty history := by
  induction h with
  | new h =>
    obtain ⟨-, rfl⟩ := new_eq_ok_iff.mp h
    rfl
  | @call s history ctx c _ ih =>
    have hadjusts : s.Adjusts (s.call ctx c).2 := adjusts_of_call rfl
    exact hadjusts.sessionKeys.trans ih
  | operate op _ ih => exact ih
  | register providers _ ih => exact ih
  | @session s history op _ ih =>
    show s.sessionKeys.operate op = _
    rw [ih, SessionKeys.run, SessionKeys.run, List.foldl_append]
    rfl
  | takeEvents _ ih => exact ih
  | restart history' _ hrestart _ =>
    obtain ⟨-, rfl⟩ := restart_eq_ok_iff.mp hrestart
    rfl

/-- The payer signed `m` for the service, or somebody did to whom the payer granted it last. -/
def SignedFor (s : Service) (history : List SessionKeys.Operation) (epoch : Epoch) (m : Message)
    (signature : List UInt8) (payer : Address) : Prop :=
  ∃ signer, recoverSigner (s.signingContext.signingHash m) signature = .ok signer ∧
    (signer = payer ∨ SessionKeys.Delegated history ⟨payer, signer, m.kind.typeHash⟩ epoch)

theorem Keyed.signedFor {epoch : Epoch} {m : Message} {signature : List UInt8} {payer : Address}
    (hs : Keyed s history)
    (h : ∃ signer, s.signingContext.verify m signature payer s.sessionKeys epoch = .ok signer) :
    s.SignedFor history epoch m signature payer := by
  obtain ⟨signer, h⟩ := h
  rw [hs.sessionKeys_eq, SigningContext.verify_run_eq_ok_iff] at h
  exact ⟨signer, h⟩

variable {ctx : CallContext} {id : DataSetId} {reply : Reply}

structure CreatedAsSigned (s : Service) (history : List SessionKeys.Operation) (ctx : CallContext)
    (id : DataSetId) (request : CreationRequest) (s' : Service) (d : DataSet) : Prop where
  payer_eq : d.payer = request.payer
  chosen : ClientIdChosen s.state request d.clientDataSetId
  signed : s.SignedFor history ctx.epoch (d.creationMessage s.state.config.versioning.cdnFlag)
    request.signature d.payer
  stored : s'.state.dataSet? id = some d
  announced : s'.events = s.events ++ [.dataSetCreated id d.providerId d.storageRail
    d.cacheMissRail d.cdnRail d.payer d.serviceProvider d.payee d.metadata]

theorem Keyed.createdAsSigned {serviceProvider : Address} {request : CreationRequest}
    (hs : Keyed s history)
    (h : s.call ctx (.dataSetCreated id serviceProvider request) = (.ok reply, s')) :
    ∃ d, CreatedAsSigned s history ctx id request s' d := by
  obtain ⟨-, h⟩ := succeeds_done.mp (call_eq_ok_iff.mp h)
  obtain ⟨provider, payee, entries, clientId, storageRail, egress, l, hchecked, -, rfl⟩ :=
    succeeds_dataSetCreated.mp h
  refine ⟨createdDataSet s.state.config id serviceProvider request provider payee entries clientId
    storageRail egress, rfl, hchecked.chosen, ?_, ?_, rfl⟩
  · have hsigned := hs.signedFor hchecked.signed
    -- with either flag the message is made of what is stored
    unfold DataSet.creationMessage
    unfold createdDataSet
    cases hflag : s.state.config.versioning.cdnFlag with
    | metadataKey =>
      rw [hflag] at hsigned
      exact hsigned
    | field =>
      rw [hflag] at hsigned
      exact hsigned
  · exact ServiceState.dataSet?_registered.trans (if_pos rfl)

structure AddedAsSigned (s : Service) (history : List SessionKeys.Operation) (ctx : CallContext)
    (id : DataSetId) (first : PieceId) (pieces : List (List UInt8)) (request : AdditionRequest)
    (s' : Service) (d d' : DataSet) (ids : List PieceId) : Prop where
  dataSet_eq : s.state.dataSet? id = some d
  recorded : s.state.replay.dataSet? d.payer d.clientDataSetId = some id
  signed : s.SignedFor history ctx.epoch
    (.addPieces d.clientDataSetId request.nonce pieces request.pieceMetadata) request.signature
    d.payer
  ids_eq : ids.map UInt64.toNat = (List.range pieces.length).map (first.toNat + ·)
  stored : s'.state.dataSet? id = some d'
  metadata : ids.map (fun piece => d'.pieceMetadata[piece]?) = request.pieceMetadata.map some
  others : ∀ piece, piece ∉ ids → d'.pieceMetadata[piece]? = d.pieceMetadata[piece]?
  announced : s'.events = s.events ++ [.piecesAdded id ids request.nonce]

theorem Keyed.addedAsSigned {first : PieceId} {pieces : List (List UInt8)}
    {request : AdditionRequest} (hs : Keyed s history)
    (h : s.call ctx (.piecesAdded id first pieces request) = (.ok reply, s')) :
    ∃ d d' ids, AddedAsSigned s history ctx id first pieces request s' d d' ids := by
  obtain ⟨-, h⟩ := succeeds_done.mp (call_eq_ok_iff.mp h)
  obtain ⟨-, d, hd, -, hlength, -, -, hsigned, ids, hids, rfl⟩ := succeeds_piecesAdded.mp h
  refine ⟨d, _, ids, hd, (hs.reachable.indexed.dataSet id d hd).clientId, hs.signedFor hsigned,
    toNat_of_pieceIds hids, Std.ExtTreeMap.getElem?_insert_self,
    ServiceM.pieceMetadata_addedPieces hids hlength, ?_, rfl⟩
  intro piece hpiece
  exact getElem?_foldl_insert_zip_of_not_mem hpiece

structure RemovalSigned (s : Service) (history : List SessionKeys.Operation) (ctx : CallContext)
    (id : DataSetId) (pieces : List PieceId) (signature : List UInt8) (s' : Service)
    (d : DataSet) : Prop where
  dataSet_eq : s.state.dataSet? id = some d
  recorded : s.state.replay.dataSet? d.payer d.clientDataSetId = some id
  signed : s.SignedFor history ctx.epoch (.schedulePieceRemovals d.clientDataSetId pieces)
    signature d.payer
  announced : s'.events = s.events ++ [.pieceRemovalsScheduled id pieces]

theorem Keyed.removalSigned {pieces : List PieceId} {signature : List UInt8}
    (hs : Keyed s history)
    (h : s.call ctx (.piecesScheduledForRemoval id pieces signature) = (.ok reply, s')) :
    ∃ d, RemovalSigned s history ctx id pieces signature s' d := by
  obtain ⟨-, h⟩ := succeeds_done.mp (call_eq_ok_iff.mp h)
  obtain ⟨-, d, hd, -, hsigned, rfl⟩ := succeeds_piecesScheduledForRemoval.mp h
  exact ⟨d, hd, (hs.reachable.indexed.dataSet id d hd).clientId, hs.signedFor hsigned, rfl⟩

/--
The last operation about a grant decides who may sign for a payer, whatever happened to the session
keys before. So along every run what a creation, an addition or a removal stores and announces was
signed by the payer, or by somebody to whom the payer granted it last.
-/
theorem delegation_decides :
    (∀ history ctx m signature payer epoch signer,
      SigningContext.verify ctx m signature payer (.run .empty history) epoch = .ok signer ↔
        recoverSigner (ctx.signingHash m) signature = .ok signer ∧ (signer = payer ∨
          SessionKeys.Delegated history ⟨payer, signer, m.kind.typeHash⟩ epoch)) ∧
    ∀ s history, Keyed s history → ∀ ctx id reply s',
      (∀ serviceProvider request,
        s.call ctx (.dataSetCreated id serviceProvider request) = (.ok reply, s') →
          ∃ d, CreatedAsSigned s history ctx id request s' d) ∧
      (∀ first pieces request,
        s.call ctx (.piecesAdded id first pieces request) = (.ok reply, s') →
          ∃ d d' ids, AddedAsSigned s history ctx id first pieces request s' d d' ids) ∧
      ∀ pieces signature,
        s.call ctx (.piecesScheduledForRemoval id pieces signature) = (.ok reply, s') →
          ∃ d, RemovalSigned s history ctx id pieces signature s' d := by
  refine ⟨?_, ?_⟩
  · intro history ctx m signature payer epoch signer
    exact SigningContext.verify_run_eq_ok_iff
  · intro s history hs ctx id reply s'
    exact ⟨fun _ _ => hs.createdAsSigned, fun _ _ _ => hs.addedAsSigned,
      fun _ _ => hs.removalSigned⟩

def heirHistory : List SessionKeys.Operation :=
  [.login 11 cdnPayer [cdnMessage.kind.typeHash] 1000000]

theorem keyed_vacatedService : Keyed vacatedService heirHistory := by
  have hnew : Keyed emptyCdnService [] := @Keyed.new _ [] _ [] _ new_emptyCdnService
  have hcreated : Keyed cdnService [] := by
    have h := (((hnew.operate (.deposit 5 cdnPayer 1000)).operate
      (.approve 5 cdnPayer 1 0 500 epochsPerMonth)).call ⟨2, 0⟩ (.approveProvider 1)).call
      ⟨3, 0⟩ (.dataSetCreated 1 7 (cdnRequest cdnPayer))
    change Keyed (preparedCdnService.call _ _).2 [] at h
    rwa [call_cdnCreation] at h
  have hvacated := (((((hcreated.operate (.terminate 1 20)).call ⟨4, 30⟩
    (.railTerminated 1 (20 + epochsPerMonth))).call ⟨4, 40⟩
    (.railTerminated 1 (20 + epochsPerMonth))).call ⟨3, 21 + epochsPerMonth⟩
    (.dataSetDeleted 1 0)).operate (.deposit 5 11 1000)).operate
    (.approve 5 11 1 0 500 epochsPerMonth)
  have hkeys := hvacated.sessionKeys_eq
  have hgranted := (hvacated.register (ProviderRegistry.empty.register 7 8).2).session
    (.login 11 cdnPayer [cdnMessage.kind.typeHash] 1000000)
  dsimp only at hgranted hkeys
  rw [hkeys] at hgranted
  exact hgranted

/--
The account 11 never signed anything: its grant lets the first payer sign until the epoch 1000000,
and lets nobody sign once it is revoked.
-/
theorem delegation_decides_heirHistory :
    sampleContext.verify cdnMessage cdnSignature 11 (.run .empty heirHistory) 1000000 =
      .ok cdnPayer ∧
    (∀ signer, sampleContext.verify cdnMessage cdnSignature 11
      (.run .empty (heirHistory ++ [.revoke 11 cdnPayer [cdnMessage.kind.typeHash]])) 1000000 ≠
        .ok signer) ∧
    Keyed vacatedService heirHistory ∧
    vacatedService.call ⟨3, 22 + epochsPerMonth⟩ (.dataSetCreated 1 7 (cdnRequest 11)) =
      (.ok .done, recreatedService) ∧
    ∃ d, CreatedAsSigned vacatedService heirHistory ⟨3, 22 + epochsPerMonth⟩ 1 (cdnRequest 11)
      recreatedService d := by
  obtain ⟨hverify, hrun⟩ := delegation_decides
  refine ⟨?_, ?_, keyed_vacatedService, call_heirCreation, ?_⟩
  · rw [hverify]
    refine ⟨recoverSigner_cdnSignature, .inr ⟨[cdnMessage.kind.typeHash], 1000000, ?_, ?_⟩⟩
    · simp [SessionKeys.lastAbout?, SessionKeys.Operation.Names, heirHistory]
    · decide
  · intro signer h
    obtain ⟨hsigner, hmay⟩ := (hverify ..).mp h
    rw [recoverSigner_cdnSignature, Except.ok.injEq] at hsigner
    subst hsigner
    obtain hpayer | ⟨permissions, expiry, hlast, -⟩ := hmay
    · exact absurd hpayer (by decide)
    · simp [SessionKeys.lastAbout?, SessionKeys.Operation.Names, heirHistory] at hlast
  · exact (hrun _ _ keyed_vacatedService _ _ _ _).1 _ _ call_heirCreation

end Service

end WarmStorage

import WarmStorage.Proofs.Service.Reachable
import WarmStorage.Proofs.Snapshot
import WarmStorage.Service.Run

/-!
Runs of a service. A restart changes nothing but the session keys, which are given anew, and the
events, which are not kept; so every run leads to a service that is reachable without restarts.
-/

namespace WarmStorage.Service

variable {s s' : Service} {m : Move} {moves moves' : List Move} {sessionKeys : SessionKeys}

@[simp]
theorem run_nil : s.run [] = s :=
  rfl

@[simp]
theorem run_cons : s.run (m :: moves) = (s.move m).run moves :=
  rfl

theorem move_call {ctx : CallContext} {c : Call} : s.move (.call ctx c) = (s.call ctx c).2 :=
  rfl

theorem call_eq_of_answer {ctx : CallContext} {c : Call} {answer : Except ServiceError Reply}
    (h : (s.call ctx c).1 = answer) : s.call ctx c = (answer, (s.call ctx c).2) :=
  Prod.ext h rfl

theorem run_append : s.run (moves ++ moves') = (s.run moves).run moves' :=
  List.foldl_append

theorem restart_eq_ok_iff : s.restart sessionKeys = .ok s' ↔
    s.state.config.validate = .ok () ∧
      s' = { s with sessionKeys := sessionKeys, events := [] } := by
  unfold restart
  rw [Snapshot.ofText_toText]
  exact ofState_eq_ok_iff

theorem move_restart_of_valid (h : s.state.config.validate = .ok ()) :
    s.move (.restart sessionKeys) = { s with sessionKeys := sessionKeys, events := [] } := by
  unfold move
  dsimp only
  rw [restart_eq_ok_iff.mpr ⟨h, rfl⟩]

theorem move_restart (s : Service) (sessionKeys : SessionKeys) : s.move (.restart sessionKeys) = s ∨
    s.move (.restart sessionKeys) = { s with sessionKeys := sessionKeys, events := [] } := by
  unfold move
  dsimp only
  split
  · rename_i hrestart
    exact .inr (restart_eq_ok_iff.mp hrestart).2
  · exact .inl rfl

theorem move_cases (m : Move) : (∃ ctx c, m = .call ctx c) ∨ (∃ op, m = .operate op) ∨
    (s.move m).state = s.state ∧ (s.move m).ledger = s.ledger := by
  cases m with
  | call ctx c => exact .inl ⟨ctx, c, rfl⟩
  | operate op => exact .inr (.inl ⟨op, rfl⟩)
  | outside providers sessionKeys => exact .inr (.inr ⟨rfl, rfl⟩)
  | takeEvents => exact .inr (.inr ⟨rfl, rfl⟩)
  | restart sessionKeys =>
    refine .inr (.inr ?_)
    obtain heq | heq := move_restart s sessionKeys
    · rw [heq]
      exact ⟨rfl, rfl⟩
    · rw [heq]
      exact ⟨rfl, rfl⟩

theorem reaches_move : s.ledger.Reaches (s.move m).ledger := by
  obtain ⟨ctx, c, rfl⟩ | ⟨op, rfl⟩ | ⟨-, hledger⟩ := move_cases (s := s) m
  · rw [move_call]
    exact reaches_of_call rfl
  · exact Ledger.reaches_operate
  · rw [hledger]
    exact .refl

theorem reaches_run (s : Service) (moves : List Move) : s.ledger.Reaches (s.run moves).ledger := by
  induction moves generalizing s with
  | nil => exact .refl
  | cons m moves ih => exact reaches_move.trans (ih _)

theorem Reachable.move (h : Reachable s) : Reachable (s.move m) := by
  cases m with
  | call ctx c => exact h.call rfl
  | operate op => exact h.operate op
  | outside providers sessionKeys => exact h.outside providers sessionKeys
  | takeEvents => exact h.takeEvents
  | restart sessionKeys =>
    obtain heq | heq := move_restart s sessionKeys
    · rw [heq]
      exact h
    · rw [heq]
      exact h.takeEvents.outside s.providers sessionKeys

theorem Reachable.run (h : Reachable s) : Reachable (s.run moves) := by
  induction moves generalizing s with
  | nil => exact h
  | cons m moves ih => exact ih h.move

end WarmStorage.Service

namespace WarmStorage

/-!
A service with a data set that has the CDN add-on: the data set 1 of the provider 7, with the
storage rail 1, which is paid to 8, and the egress rails 2 and 3.
-/

open Hash.Keccak (hashBytes hashBytes_eq_hashBytesByRows)

def cdnMessage : Message := .createDataSetWithCdn 0 true 8 []

def cdnSignature : List UInt8 :=
  Bytes.ofNat 32 0x6b7edebb43301903bec92da059d7100e1ef1da0fde1b2d029d94925e97561f2d ++
    Bytes.ofNat 32 0x6b7edebb43301903bec92da059d7100e1ef1da0fde1b2d029d94925e97561f2d ++ [27]

def cdnPayer : Address := 0x50a5d67e52c2dd099459c042745ebeec6358a6c2

theorem signingHash_cdnMessage : sampleContext.signingHash cdnMessage =
    0xbd8363ce366fb4f4c3a4771ef27acfd318882b9dc43fb96fa6e705fdda6a24fb := by
  have htype : hashBytes (Bytes.ofString MessageKind.createDataSetWithCdn.type) =
      Bytes.ofNat 32 0xedaff842b7574594a8caff66dd90f13f2701b979468f067fa0fcb36c5461a134 := by
    rw [hashBytes_eq_hashBytesByRows]
    decide +kernel
  have hmessage : cdnMessage.encoding.bytes =
      Bytes.ofNat 32 0xa6776c20d5fbac2856e36d40c2619510ed517f29e3d3e0f02239ad1b60e78d30 := by
    simp only [cdnMessage, Message.encoding, Message.kind, Message.fields, Encoding.metadata,
      List.map_nil, Encoding.list, Encoding.struct, Encoding.string, Encoding.dynamic,
      Encoding.bytes, Encoding.bytesOfParts, List.append_nil]
    rw [htype, hashBytes_nil, hashBytes_eq_hashBytesByRows]
    decide +kernel
  simp only [SigningContext.signingHash, SigningContext.signing, Encoding.bytes,
    Encoding.bytesOfParts, List.append_nil]
  rw [bytes_sampleContext, hmessage, hashBytes_eq_hashBytesByRows]
  decide +kernel

theorem recoverSigner_cdnSignature :
    recoverSigner (sampleContext.signingHash cdnMessage) cdnSignature = .ok cdnPayer := by
  have hkey : (parseSignature cdnSignature).toOption.bind (Secp256k1.recoverKey?
      0xbd8363ce366fb4f4c3a4771ef27acfd318882b9dc43fb96fa6e705fdda6a24fb) =
      some (0xf8a6186bd6997fa5771f038629bb6856e6fe26dbea2f8c7ce1bdc37116b181b1,
        0x3913da4083bec4827f3794e98e9ab16bb3fa118bbd06cbd37f7ec27f9e824eee) := by
    decide +kernel
  have haddress :
      Secp256k1.addressOf 0xf8a6186bd6997fa5771f038629bb6856e6fe26dbea2f8c7ce1bdc37116b181b1
        0x3913da4083bec4827f3794e98e9ab16bb3fa118bbd06cbd37f7ec27f9e824eee = cdnPayer := by
    rw [Secp256k1.addressOf, Hash.Keccak.hash, hashBytes_eq_hashBytesByRows]
    decide +kernel
  rw [signingHash_cdnMessage]
  exact recoverSigner_of_key hkey haddress

theorem verify_cdnMessage {keys : SessionKeys} {epoch : Epoch} :
    sampleContext.verify cdnMessage cdnSignature cdnPayer keys epoch = .ok cdnPayer :=
  SigningContext.verify_eq_ok_iff.mpr ⟨recoverSigner_cdnSignature, .inl rfl⟩

namespace Service

open ServiceM

variable {s : Service} {id : DataSetId}

def cdnConfig : Config :=
  { sampleConfig with
    cdnController := 6
    cdnBeneficiary := 9
    pricing := { sampleConfig.pricing with cdnLockup := 70, cacheMissLockup := 30 }
    versioning := { cdnFlag := .field } }

def emptyCdnService : Service :=
  ⟨.ofConfig cdnConfig, .empty, (ProviderRegistry.empty.register 7 8).2, .empty, []⟩

theorem new_emptyCdnService :
    Service.new cdnConfig .empty (ProviderRegistry.empty.register 7 8).2 .empty =
      .ok emptyCdnService := by
  have hvalid : cdnConfig.validate = .ok () := rfl
  exact new_eq_ok_iff.mpr ⟨hvalid, rfl⟩

/-- The payer has 1000, of which the service may lock up 500. -/
def cdnPreparation : List Move :=
  [.operate (.deposit 5 cdnPayer 1000), .operate (.approve 5 cdnPayer 1 0 500 epochsPerMonth),
    .call ⟨2, 0⟩ (.approveProvider 1)]

def preparedCdnService : Service :=
  emptyCdnService.run cdnPreparation

def cdnRequest (payer : Address) : CreationRequest where
  payer := payer
  clientDataSetId := 0
  metadataKeys := []
  metadataValues := []
  withCdn := true
  signature := cdnSignature

def opening (l : Ledger) (terms : RailTerms) (period : UInt64) (fixed : TokenAmount) :
    Except LedgerError Ledger := do
  let (rail, l) ← l.createRail terms
  l.modifyLockup rail period fixed

theorem railOpened_of_opening {l : Ledger} {terms : RailTerms} {period : UInt64}
    {fixed : TokenAmount} (h : (opening l terms period fixed).toOption.isSome = true) :
    RailOpened l terms period fixed (l.lastRail + 1)
      ((opening l terms period fixed).toOption.getD .empty) := by
  have h := Ledger.eq_ok_getD (a := Ledger.empty) h
  obtain ⟨⟨rail, m⟩, hcreate, hlockup⟩ := Ledger.bind_eq_ok_iff.mp h
  obtain ⟨-, rfl, -⟩ := Ledger.createRail_eq_ok_iff.mp hcreate
  exact ⟨m, hcreate, hlockup⟩

def cdnTerms (payer : Address) : RailTerms := storageTerms cdnConfig payer 8

def storageLedger (l : Ledger) (payer : Address) : Ledger :=
  (opening l (cdnTerms payer) epochsPerMonth 0).toOption.getD .empty

def cacheMissLedger (l : Ledger) (payer : Address) : Ledger :=
  (opening (storageLedger l payer) { cdnTerms payer with commissionBps := 0 } 0
    30).toOption.getD .empty

def cdnLedger (l : Ledger) (payer : Address) : Ledger :=
  (opening (cacheMissLedger l payer) { cdnTerms payer with commissionBps := 0, payee := 9 } 0
    70).toOption.getD .empty

def withCdnDataSetUnder (s : Service) (id : DataSetId) (payer : Address)
    (storage cacheMiss cdn : RailId) : Service :=
  { s with
    state := s.state.registered (createdDataSet s.state.config id 7 (cdnRequest payer) 1 8 [] 0
      storage (some cacheMiss, some cdn))
    ledger := cdnLedger s.ledger payer
    events := s.events ++
      [.dataSetCreated id 1 storage (some cacheMiss) (some cdn) payer 7 8 []] }

theorem call_cdnRequest_under {payer : Address} {epoch : Epoch}
    (hchecked : CreationChecked ⟨3, epoch⟩ id 7 (cdnRequest payer) s 1 8 [] 0)
    (hconfig : s.state.config = cdnConfig)
    (hstorage : (opening s.ledger (cdnTerms payer) epochsPerMonth 0).toOption.isSome = true)
    (hcacheMiss : (opening (storageLedger s.ledger payer)
      { cdnTerms payer with commissionBps := 0 } 0 30).toOption.isSome = true)
    (hcdn : (opening (cacheMissLedger s.ledger payer)
      { cdnTerms payer with commissionBps := 0, payee := 9 } 0 70).toOption.isSome = true) :
    s.call ⟨3, epoch⟩ (.dataSetCreated id 7 (cdnRequest payer)) =
      (.ok .done, s.withCdnDataSetUnder id payer (s.ledger.lastRail + 1)
        ((storageLedger s.ledger payer).lastRail + 1)
        ((cacheMissLedger s.ledger payer).lastRail + 1)) := by
  rw [call_eq_ok_iff]
  refine succeeds_done.mpr ⟨rfl, succeeds_dataSetCreated.mpr
    ⟨1, 8, [], 0, _, _, cdnLedger s.ledger payer, hchecked, ?_, rfl⟩⟩
  rw [hconfig]
  exact ⟨_, railOpened_of_opening hstorage, .inl ⟨rfl, _, _, _, rfl,
    railOpened_of_opening hcacheMiss, railOpened_of_opening hcdn⟩⟩

def withCdnDataSet (s : Service) (payer : Address) (storage cacheMiss cdn : RailId) : Service :=
  { s with
    state := s.state.registered (createdDataSet s.state.config 1 7 (cdnRequest payer) 1 8 [] 0
      storage (some cacheMiss, some cdn))
    ledger := cdnLedger s.ledger payer
    events := s.events ++
      [.dataSetCreated 1 1 storage (some cacheMiss) (some cdn) payer 7 8 []] }

theorem call_cdnRequest {payer : Address} {epoch : Epoch}
    (hchecked : CreationChecked ⟨3, epoch⟩ 1 7 (cdnRequest payer) s 1 8 [] 0)
    (hconfig : s.state.config = cdnConfig)
    (hstorage : (opening s.ledger (cdnTerms payer) epochsPerMonth 0).toOption.isSome = true)
    (hcacheMiss : (opening (storageLedger s.ledger payer)
      { cdnTerms payer with commissionBps := 0 } 0 30).toOption.isSome = true)
    (hcdn : (opening (cacheMissLedger s.ledger payer)
      { cdnTerms payer with commissionBps := 0, payee := 9 } 0 70).toOption.isSome = true) :
    s.call ⟨3, epoch⟩ (.dataSetCreated 1 7 (cdnRequest payer)) =
      (.ok .done, s.withCdnDataSet payer (s.ledger.lastRail + 1)
        ((storageLedger s.ledger payer).lastRail + 1)
        ((cacheMissLedger s.ledger payer).lastRail + 1)) :=
  call_cdnRequest_under hchecked hconfig hstorage hcacheMiss hcdn

theorem creationChecked_cdnRequest (epoch : Epoch) :
    CreationChecked ⟨3, epoch⟩ 1 7 (cdnRequest cdnPayer) preparedCdnService 1 8 [] 0 where
  caller := rfl
  payer_ne := by decide
  serviceProvider_ne := by decide
  unused := Option.isNone_iff_eq_none.mp (by decide +kernel)
  known := by decide +kernel
  active := by decide +kernel
  approved := by decide +kernel
  payee_eq := by decide +kernel
  entries_eq := rfl
  entries_valid := by decide +kernel
  chosen := ⟨by decide +kernel, by decide +kernel⟩
  signed := ⟨cdnPayer, verify_cdnMessage⟩
  funded := by decide +kernel

def cdnService : Service :=
  preparedCdnService.withCdnDataSet cdnPayer 1 2 3

def cdnCreation : List Move :=
  cdnPreparation ++ [.call ⟨3, 0⟩ (.dataSetCreated 1 7 (cdnRequest cdnPayer))]

theorem call_cdnCreation (epoch : Epoch) :
    preparedCdnService.call ⟨3, epoch⟩ (.dataSetCreated 1 7 (cdnRequest cdnPayer)) =
      (.ok .done, cdnService) := by
  have hcall := call_cdnRequest (creationChecked_cdnRequest epoch) rfl
    (by decide +kernel) (by decide +kernel) (by decide +kernel)
  rwa [show preparedCdnService.ledger.lastRail + 1 = 1 by decide +kernel,
    show (storageLedger preparedCdnService.ledger cdnPayer).lastRail + 1 = 2 by decide +kernel,
    show (cacheMissLedger preparedCdnService.ledger cdnPayer).lastRail + 1 = 3 by
      decide +kernel] at hcall

theorem run_cdnCreation : emptyCdnService.run cdnCreation = cdnService := by
  rw [cdnCreation, run_append, run_cons, run_nil, move_call]
  show (preparedCdnService.call _ _).2 = _
  rw [call_cdnCreation]

theorem reachable_cdnService : Reachable cdnService := by
  have hnew : Reachable emptyCdnService := @Reachable.new _ [] _ _ _ new_emptyCdnService
  rw [← run_cdnCreation]
  exact hnew.run

end Service

end WarmStorage

import WarmStorage.Proofs.Metadata
import WarmStorage.Proofs.Service.Contracts
import WarmStorage.Proofs.Service.Revisions

/-!
Stored metadata. Entries come in with creations and additions, which validate them under the limits
of the service, and the end of a data set only takes one away. The limits themselves never change,
so all metadata in the state stays within them.
-/

namespace WarmStorage

namespace Service

open ServiceM

variable {s s' : Service} {id : DataSetId} {d d' : DataSet} {ctx : CallContext} {c : Call}
  {limits : MetadataLimits}

end Service

/-!
The data set with the CDN add-on once more, where the add-on is asked for by an entry.
-/

open Hash.Keccak (hashBytes hashBytes_eq_hashBytesByRows)

def markedMessage : Message := .createDataSet 0 8 [⟨withCdnKey, ""⟩]

/-- The key of this signature is the generator and the point that the signature names. -/
def markedSignature : List UInt8 :=
  Bytes.ofNat 32 0x4c5a90535b55f9006daaea6237d17b2688aaa4046e65aed70350fc3bee207582 ++
    Bytes.ofNat 32 0x4c5a90535b55f9006daaea6237d17b2688aaa4046e65aed70350fc3bee207582 ++ [27]

def markedPayer : Address := 0xf98d39b9eb36e5954ba7e64918321d2a8f042faa

theorem bytes_markedEntries : (Encoding.metadata [⟨withCdnKey, ""⟩]).bytes =
    Bytes.ofNat 32 0xe14fbdaadc84c311967095d454062d947bcf18e122ab5b7d6159d2d08830962b := by
  have hstring : Bytes.ofString "" = [] := by
    decide +kernel
  have htype : hashBytes (Bytes.ofString Encoding.entryType) =
      Bytes.ofNat 32 0xd20856dd76daca72c7d233da76c03b33508847cecc71e5fc20ef738b2ef04eb7 := by
    rw [hashBytes_eq_hashBytesByRows]
    decide +kernel
  have hkey : hashBytes (Bytes.ofString withCdnKey) =
      Bytes.ofNat 32 0x10d682e39bf70b0cd1672c8ab7ee64226a91dc8d5c0db08d130740d434cf4e2c := by
    rw [hashBytes_eq_hashBytesByRows]
    decide +kernel
  have hentry : (Encoding.struct Encoding.entryType [.string withCdnKey, .string ""]).bytes =
      Bytes.ofNat 32 0xe6f025f232c7e3f427aa6f86f376ed6b34a9ffba9d2dcde8f8c746567c25c2d2 := by
    simp only [Encoding.struct, Encoding.string, Encoding.dynamic, Encoding.bytes,
      Encoding.bytesOfParts, List.append_nil, hstring]
    rw [htype, hkey, hashBytes_nil, hashBytes_eq_hashBytesByRows]
    decide +kernel
  simp only [Encoding.metadata, List.map_cons, List.map_nil, Encoding.list, Encoding.bytes,
    Encoding.bytesOfParts, List.append_nil]
  rw [hentry, hashBytes_eq_hashBytesByRows]
  decide +kernel

theorem signingHash_markedMessage : sampleContext.signingHash markedMessage =
    0xb3a56faca4aa06ff9255159dc82e84d8320438e240e2f164bc816250e215cbbf := by
  have hmessage : markedMessage.encoding.bytes =
      Bytes.ofNat 32 0x078cc1a65500bf3391e544b0a9fe988dc38fc507ee9d81db8c090292cadc52ef := by
    simp only [markedMessage, Message.encoding, Message.kind, Message.fields, Encoding.struct,
      Encoding.string, Encoding.dynamic, Encoding.bytes, Encoding.bytesOfParts, List.append_nil]
    rw [hashBytes_creationType, bytes_markedEntries, hashBytes_eq_hashBytesByRows]
    decide +kernel
  simp only [SigningContext.signingHash, SigningContext.signing, Encoding.bytes,
    Encoding.bytesOfParts, List.append_nil]
  rw [bytes_sampleContext, hmessage, hashBytes_eq_hashBytesByRows]
  decide +kernel

theorem recoverSigner_markedSignature :
    recoverSigner (sampleContext.signingHash markedMessage) markedSignature = .ok markedPayer := by
  have hkey : (parseSignature markedSignature).toOption.bind (Secp256k1.recoverKey?
      0xb3a56faca4aa06ff9255159dc82e84d8320438e240e2f164bc816250e215cbbf) =
      some (0x3f02ba140262d3bc97c8580727cde7cf3f24c2cdea01bc9d32c8ecc9ca477bb8,
        0x4bef064d8e3f324676a6397dea08f23d11b3930bdbee2c383c14ef6f80a443fa) := by
    decide +kernel
  have haddress :
      Secp256k1.addressOf 0x3f02ba140262d3bc97c8580727cde7cf3f24c2cdea01bc9d32c8ecc9ca477bb8
        0x4bef064d8e3f324676a6397dea08f23d11b3930bdbee2c383c14ef6f80a443fa = markedPayer := by
    rw [Secp256k1.addressOf, Hash.Keccak.hash, hashBytes_eq_hashBytesByRows]
    decide +kernel
  rw [signingHash_markedMessage]
  exact recoverSigner_of_key hkey haddress

theorem verify_markedMessage {keys : SessionKeys} {epoch : Epoch} :
    sampleContext.verify markedMessage markedSignature markedPayer keys epoch = .ok markedPayer :=
  SigningContext.verify_eq_ok_iff.mpr ⟨recoverSigner_markedSignature, .inl rfl⟩

namespace Service

open ServiceM

def markedConfig : Config :=
  { cdnConfig with versioning := {} }

def emptyMarkedService : Service :=
  ⟨.ofConfig markedConfig, .empty, (ProviderRegistry.empty.register 7 8).2, .empty, []⟩

theorem new_emptyMarkedService :
    Service.new markedConfig .empty (ProviderRegistry.empty.register 7 8).2 .empty =
      .ok emptyMarkedService := by
  have hvalid : markedConfig.validate = .ok () := rfl
  exact new_eq_ok_iff.mpr ⟨hvalid, rfl⟩

def markedPreparation : List Move :=
  [.operate (.deposit 5 markedPayer 1000), .operate (.approve 5 markedPayer 1 0 500 epochsPerMonth),
    .call ⟨2, 0⟩ (.approveProvider 1)]

def preparedMarkedService : Service :=
  emptyMarkedService.run markedPreparation

def markedRequest : CreationRequest where
  payer := markedPayer
  clientDataSetId := 0
  metadataKeys := [withCdnKey]
  metadataValues := [""]
  withCdn := false
  signature := markedSignature

theorem creationChecked_markedRequest :
    CreationChecked ⟨3, 0⟩ 1 7 markedRequest preparedMarkedService 1 8 [⟨withCdnKey, ""⟩] 0 where
  caller := rfl
  payer_ne := by decide
  serviceProvider_ne := by decide
  unused := Option.isNone_iff_eq_none.mp (by decide +kernel)
  known := by decide +kernel
  active := by decide +kernel
  approved := by decide +kernel
  payee_eq := by decide +kernel
  entries_eq := rfl
  entries_valid := by decide +kernel
  chosen := ⟨by decide +kernel, by decide +kernel⟩
  signed := ⟨markedPayer, verify_markedMessage⟩
  funded := by decide +kernel

def markedService : Service :=
  { preparedMarkedService with
    state := preparedMarkedService.state.registered (createdDataSet markedConfig 1 7 markedRequest 1
      8 [⟨withCdnKey, ""⟩] 0 1 (some 2, some 3))
    ledger := cdnLedger preparedMarkedService.ledger markedPayer
    events := [.providerApproved 1,
      .dataSetCreated 1 1 1 (some 2) (some 3) markedPayer 7 8 [⟨withCdnKey, ""⟩]] }

def markedCreation : List Move :=
  markedPreparation ++ [.call ⟨3, 0⟩ (.dataSetCreated 1 7 markedRequest)]

theorem railsOpened_markedService :
    RailsOpened preparedMarkedService.ledger markedConfig (storageTerms markedConfig markedPayer 8)
      true 1 (some 2, some 3) markedService.ledger := by
  have hstorage : (opening preparedMarkedService.ledger (cdnTerms markedPayer) epochsPerMonth
      0).toOption.isSome = true := by
    decide +kernel
  have hcacheMiss : (opening (storageLedger preparedMarkedService.ledger markedPayer)
      { cdnTerms markedPayer with commissionBps := 0 } 0 30).toOption.isSome = true := by
    decide +kernel
  have hcdn : (opening (cacheMissLedger preparedMarkedService.ledger markedPayer)
      { cdnTerms markedPayer with commissionBps := 0, payee := 9 } 0
      70).toOption.isSome = true := by
    decide +kernel
  exact ⟨_, railOpened_of_opening hstorage, .inl ⟨rfl, 2, 3, _, rfl,
    railOpened_of_opening hcacheMiss, railOpened_of_opening hcdn⟩⟩

theorem call_markedRequest :
    preparedMarkedService.call ⟨3, 0⟩ (.dataSetCreated 1 7 markedRequest) =
      (.ok .done, markedService) := by
  rw [call_eq_ok_iff]
  refine succeeds_done.mpr ⟨rfl, succeeds_dataSetCreated.mpr ?_⟩
  exact ⟨1, 8, [⟨withCdnKey, ""⟩], 0, 1, (some 2, some 3), markedService.ledger,
    creationChecked_markedRequest, railsOpened_markedService, rfl⟩

theorem run_markedCreation : emptyMarkedService.run markedCreation = markedService := by
  rw [markedCreation, run_append, run_cons, run_nil, move_call]
  show (preparedMarkedService.call _ _).2 = _
  rw [call_markedRequest]

end Service

end WarmStorage

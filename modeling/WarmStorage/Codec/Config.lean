import WarmStorage.Codec.Record
import WarmStorage.Config

/-!
Configurations as JSON trees. Every part but the proving parameters has defaults for what is left
out.
-/

namespace WarmStorage.Codec

open Record (fields? ofFields)

instance : Codec ProvingParams :=
  let names := ["max_proving_period", "challenge_window_size"]
  { encode := fun p => ofFields names [encode p.periodLength, encode p.windowSize]
    decode? := fun src v => do
      let [periodLength, windowSize] ← fields? src names v | none
      return ⟨← periodLength.required? src, ← windowSize.required? src⟩ }

instance : Codec Pricing :=
  let names := ["storage_price_per_tib_per_month", "cdn_egress_price_per_tib",
    "cache_miss_egress_price_per_tib", "minimum_storage_rate_per_month", "cdn_lockup_amount",
    "cache_miss_lockup_amount"]
  { encode := fun p => ofFields names
      [encode p.storagePrice, encode p.cdnEgressPrice, encode p.cacheMissEgressPrice,
        encode p.minimumPrice, encode p.cdnLockup, encode p.cacheMissLockup]
    decode? := fun src v => do
      let [storagePrice, cdnEgressPrice, cacheMissEgressPrice, minimumPrice, cdnLockup,
        cacheMissLockup] ← fields? src names v | none
      let d : Pricing := {}
      return {
        storagePrice := ← storagePrice.orElse? src d.storagePrice
        cdnEgressPrice := ← cdnEgressPrice.orElse? src d.cdnEgressPrice
        cacheMissEgressPrice := ← cacheMissEgressPrice.orElse? src d.cacheMissEgressPrice
        minimumPrice := ← minimumPrice.orElse? src d.minimumPrice
        cdnLockup := ← cdnLockup.orElse? src d.cdnLockup
        cacheMissLockup := ← cacheMissLockup.orElse? src d.cacheMissLockup } }

instance : Codec MetadataLimits :=
  let names := ["max_key_length", "max_value_length", "max_keys_per_data_set",
    "max_keys_per_piece"]
  { encode := fun l => ofFields names
      [encode l.keyLength, encode l.valueLength, encode l.dataSetKeys, encode l.pieceKeys]
    decode? := fun src v => do
      let [keyLength, valueLength, dataSetKeys, pieceKeys] ← fields? src names v | none
      let d : MetadataLimits := {}
      return {
        keyLength := ← keyLength.orElse? src d.keyLength
        valueLength := ← valueLength.orElse? src d.valueLength
        dataSetKeys := ← dataSetKeys.orElse? src d.dataSetKeys
        pieceKeys := ← pieceKeys.orElse? src d.pieceKeys } }

instance : Codec CdnFlag where
  encode
    | .metadataKey => .ofString "metadata-key"
    | .field => .ofString "field"
  decode? := Choice.decode? [("metadata-key", .metadataKey), ("field", .field)]

instance : Codec ClientIdScheme where
  encode
    | .payerCounter => .ofString "payer-counter"
    | .clientNonce => .ofString "client-nonce"
  decode? := Choice.decode? [("payer-counter", .payerCounter), ("client-nonce", .clientNonce)]

instance : Codec ProviderChangePolicy where
  encode
    | .disabled => .ofString "disabled"
    | .registryApproved => .ofString "registry-approved"
  decode? := Choice.decode? [("disabled", .disabled), ("registry-approved", .registryApproved)]

instance : Codec Versioning :=
  let names := ["cdn_flag", "client_id_scheme", "provider_change"]
  { encode := fun v => ofFields names
      [encode v.cdnFlag, encode v.clientIdScheme, encode v.providerChange]
    decode? := fun src v => do
      let [cdnFlag, clientIdScheme, providerChange] ← fields? src names v | none
      let d : Versioning := {}
      return {
        cdnFlag := ← cdnFlag.orElse? src d.cdnFlag
        clientIdScheme := ← clientIdScheme.orElse? src d.clientIdScheme
        providerChange := ← providerChange.orElse? src d.providerChange } }

instance : Codec SigningDomain :=
  let names := ["name", "version", "chain_id"]
  { encode := fun d => ofFields names [encode d.name, encode d.version, encode d.chainId]
    decode? := fun src v => do
      let [name, version, chainId] ← fields? src names v | none
      let d : SigningDomain := {}
      return {
        name := ← name.orElse? src d.name
        version := ← version.orElse? src d.version
        chainId := ← chainId.orElse? src d.chainId } }

instance : Codec Config :=
  let names := ["service_address", "owner", "pdp_verifier", "payments", "token",
    "cdn_controller", "cdn_beneficiary", "fee_recipient", "commission_bps", "lockup_period",
    "proving", "pricing", "metadata", "versioning", "domain"]
  { encode := fun c => ofFields names
      [encode c.serviceAddress, encode c.owner, encode c.verifier, encode c.payments,
        encode c.token, encode c.cdnController, encode c.cdnBeneficiary, encode c.feeRecipient,
        encode c.commissionBps, encode c.lockupPeriod, encode c.proving, encode c.pricing,
        encode c.metadata, encode c.versioning, encode c.domain]
    decode? := fun src v => do
      let [serviceAddress, owner, verifier, payments, token, cdnController, cdnBeneficiary,
        feeRecipient, commissionBps, lockupPeriod, proving, pricing, metadata, versioning,
        domain] ← fields? src names v | none
      let d : Config := {}
      return {
        serviceAddress := ← serviceAddress.orElse? src d.serviceAddress
        owner := ← owner.orElse? src d.owner
        verifier := ← verifier.orElse? src d.verifier
        payments := ← payments.orElse? src d.payments
        token := ← token.orElse? src d.token
        cdnController := ← cdnController.orElse? src d.cdnController
        cdnBeneficiary := ← cdnBeneficiary.orElse? src d.cdnBeneficiary
        feeRecipient := ← feeRecipient.orElse? src d.feeRecipient
        commissionBps := ← commissionBps.orElse? src d.commissionBps
        lockupPeriod := ← lockupPeriod.orElse? src d.lockupPeriod
        proving := ← proving.orElse? src d.proving
        pricing := ← pricing.orElse? src d.pricing
        metadata := ← metadata.orElse? src d.metadata
        versioning := ← versioning.orElse? src d.versioning
        domain := ← domain.orElse? src d.domain } }

end WarmStorage.Codec

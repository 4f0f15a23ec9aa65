import WarmStorage.Metadata
import WarmStorage.Pricing
import WarmStorage.Schedule
import WarmStorage.Text.Amount

/-!
The configuration of a service: the addresses it deals with, its prices, limits and periods, and
the choices in which deployments differ.
-/

namespace WarmStorage

inductive CdnFlag where
  | metadataKey
  | field
deriving DecidableEq, Repr

inductive ClientIdScheme where
  | payerCounter
  | clientNonce
deriving DecidableEq, Repr

inductive ProviderChangePolicy where
  | disabled
  | registryApproved
deriving DecidableEq, Repr

structure Versioning where
  cdnFlag : CdnFlag := .metadataKey
  clientIdScheme : ClientIdScheme := .clientNonce
  providerChange : ProviderChangePolicy := .disabled
deriving DecidableEq, Repr

structure SigningDomain where
  name : String := "FilecoinWarmStorageService"
  version : String := "1"
  chainId : UInt64 := 314
deriving DecidableEq, Repr

structure Config where
  serviceAddress : Address := 0
  owner : Address := 0
  verifier : Address := 0
  payments : Address := 0
  token : Address := 0
  cdnController : Address := 0
  cdnBeneficiary : Address := 0
  feeRecipient : Address := 0
  /-- Commission of new data sets, in hundredths of a percent. -/
  commissionBps : UInt16 := 0
  /-- Epochs of streaming payment that a storage rail holds. -/
  lockupPeriod : UInt64 := epochsPerMonth
  proving : ProvingParams := ⟨epochsPerDay, 60⟩
  pricing : Pricing := {}
  metadata : MetadataLimits := {}
  versioning : Versioning := {}
  domain : SigningDomain := {}
deriving DecidableEq, Repr

def withCdnKey : String := "withCDN"

def maxCommissionBps : UInt16 := 10000

inductive ConfigError where
  | invalidChallengeWindow (params : ProvingParams)
  | commissionTooHigh (bps : UInt16)
  | zeroAddress (field : String)
  | zeroLockupPeriod
  | zeroMetadataLimit (limit : String)
  | priceFloorTooHigh (minimum price : TokenAmount)
deriving DecidableEq, Repr

def ConfigError.message : ConfigError → String
  | invalidChallengeWindow params =>
    s!"Invalid challenge window size {params.windowSize} for proving period {params.periodLength}"
  | commissionTooHigh bps => s!"Commission {bps} bps exceeds maximum {maxCommissionBps}"
  | zeroAddress field => s!"Address for {field} must be non-zero"
  | zeroLockupPeriod => "Lockup period must be non-zero"
  | zeroMetadataLimit limit => s!"Metadata limit {limit} must be non-zero"
  | priceFloorTooHigh minimum price =>
    let minimum := Text.Amount.decimal minimum
    let price := Text.Amount.decimal price
    s!"Minimum storage rate {minimum} exceeds storage price {price}"

def ProvingParams.validate (params : ProvingParams) : Except ConfigError Unit :=
  if params.Valid then .ok () else .error (.invalidChallengeWindow params)

/-- A floor above the price of a whole tebibyte would make that price meaningless. -/
def Pricing.validate (p : Pricing) : Except ConfigError Unit :=
  if p.storagePrice < p.minimumPrice then
    .error (.priceFloorTooHigh p.minimumPrice p.storagePrice)
  else
    .ok ()

def firstNamed? {α : Type} [DecidableEq α] (v : α) (named : List (String × α)) : Option String :=
  (named.find? (·.2 = v)).map (·.1)

/-- The limits by name; metadata of length or number zero could not be written. -/
def MetadataLimits.named (limits : MetadataLimits) : List (String × UInt64) :=
  [("max_key_length", limits.keyLength), ("max_value_length", limits.valueLength),
   ("max_keys_per_data_set", limits.dataSetKeys), ("max_keys_per_piece", limits.pieceKeys)]

def MetadataLimits.checkNonZero (limits : MetadataLimits) : Except ConfigError Unit :=
  match firstNamed? 0 limits.named with
  | some limit => .error (.zeroMetadataLimit limit)
  | none => .ok ()

namespace Config

def requiredAddresses (c : Config) : List (String × Address) :=
  [("service_address", c.serviceAddress), ("owner", c.owner), ("pdp_verifier", c.verifier),
   ("payments", c.payments), ("token", c.token)]

def checkAddresses (c : Config) : Except ConfigError Unit :=
  match firstNamed? 0 c.requiredAddresses with
  | some field => .error (.zeroAddress field)
  | none => .ok ()

def validate (c : Config) : Except ConfigError Unit := do
  c.checkAddresses
  if maxCommissionBps < c.commissionBps then
    throw (.commissionTooHigh c.commissionBps)
  if c.lockupPeriod = 0 then
    throw .zeroLockupPeriod
  c.proving.validate
  c.pricing.validate
  c.metadata.checkNonZero

end Config

end WarmStorage

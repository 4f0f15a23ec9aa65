import WarmStorage.Authorization.Signature
import WarmStorage.Config
import WarmStorage.Ledger.Rail
import WarmStorage.Proving.Settlement

/-!
Why the service refuses a call, and the text that says so.
-/

namespace WarmStorage

inductive ServiceError where
  -- who called
  | notVerifier (caller : Address)
  | notPayments (caller : Address)
  | notOwner (caller : Address)
  | notPayer (caller payer : Address)
  | notCdnController (caller : Address)
  | notParty (dataSet : DataSetId) (caller : Address)
  -- which provider is meant
  | unknownProvider (serviceProvider : Address)
  | inactiveProvider (provider : ProviderId)
  | providerNotApproved (provider : ProviderId)
  | providerAlreadyApproved (provider : ProviderId)
  | providerChangeDisabled (dataSet : DataSetId)
  | oldProviderMismatch (dataSet : DataSetId) (expected actual : Address)
  -- what the parts of the service refuse
  | auth (e : AuthError)
  | metadata (e : MetadataError)
  | config (e : ConfigError)
  | pricing (e : PricingError)
  | ledger (e : LedgerError)
  | proving (dataSet : DataSetId) (e : ProvingError)
  | settlement (e : SettlementError)
  -- what is wrong with a request
  | zeroAddress (field : String)
  | clientDataSetIdUsed (payer : Address) (clientDataSetId : UInt256)
  | nonceUsed (payer : Address) (nonce : UInt256)
  | pieceMetadataMismatch (pieces lists : Nat)
  | dataSetExists (dataSet : DataSetId)
  | dataSetNotFound (dataSet : DataSetId)
  | railNotAssociated (rail : RailId)
  | invalidEpochRange (after upTo : Epoch)
  -- what the payer cannot fund
  | operatorNotApproved (payer operator : Address)
  | insufficientRateAllowance (required available : TokenAmount)
  | insufficientLockupAllowance (required available : TokenAmount)
  | insufficientMaxLockupPeriod (required available : UInt64)
  | insufficientFunds (required available : TokenAmount)
  -- what the payments of a data set do not allow
  | paymentEnded (dataSet : DataSetId) (endEpoch epoch : Epoch)
  | paymentTerminated (dataSet : DataSetId)
  | railsNotFinalized (dataSet : DataSetId) (endEpoch epoch : Epoch)
  | noCdnRails (dataSet : DataSetId)
  | cdnRailTerminated (rail : RailId)
  | insufficientCdnLockup (rail : RailId) (requested available : TokenAmount)
  -- arithmetic
  | overflow (quantity : String)
  | divisionByZero (quantity : String)
  -- snapshots
  | migrationUnknownProvider (dataSet : DataSetId) (serviceProvider : Address)
  | snapshot
deriving DecidableEq, Repr

namespace ServiceError

open LedgerError (shortage)

def message : ServiceError → String
  | notVerifier caller => s!"Caller {caller.checksummed} is not the PDP verifier"
  | notPayments caller => s!"Caller {caller.checksummed} is not the payments ledger"
  | notOwner caller => s!"Caller {caller.checksummed} is not the owner"
  | notPayer caller payer =>
    s!"Caller {caller.checksummed} is not the payer {payer.checksummed}"
  | notCdnController caller => s!"Caller {caller.checksummed} is not the CDN controller"
  | notParty dataSet caller =>
    s!"Caller {caller.checksummed} is neither payer nor payee of data set {dataSet}"
  | unknownProvider serviceProvider => s!"Provider {serviceProvider.checksummed} is not registered"
  | inactiveProvider provider => s!"Provider id {provider} is not registered or inactive"
  | providerNotApproved provider => s!"Provider id {provider} is not approved"
  | providerAlreadyApproved provider => s!"Provider id {provider} is already approved"
  | providerChangeDisabled dataSet => s!"Provider change is disabled for data set {dataSet}"
  | oldProviderMismatch dataSet expected actual =>
    let expected := expected.checksummed
    let actual := actual.checksummed
    s!"Old provider mismatch for data set {dataSet}: expected {expected}, got {actual}"
  | auth e => e.message
  | metadata e => e.message
  | config e => e.message
  | pricing e => e.message
  | ledger e => e.message
  | proving dataSet e => e.message dataSet
  | settlement e => e.message
  | zeroAddress field => s!"Address for {field} must be non-zero"
  | clientDataSetIdUsed payer clientDataSetId =>
    let clientDataSetId := Text.Amount.decimal clientDataSetId
    s!"Client data set id {clientDataSetId} already used by payer {payer.checksummed}"
  | nonceUsed payer nonce =>
    s!"Nonce {Text.Amount.decimal nonce} already used by payer {payer.checksummed}"
  | pieceMetadataMismatch pieces lists =>
    s!"Piece metadata length mismatch: {pieces} pieces, {lists} metadata entries"
  | dataSetExists dataSet => s!"Data set {dataSet} already exists"
  | dataSetNotFound dataSet => s!"Data set {dataSet} not found"
  | railNotAssociated rail => s!"Rail {rail} is not associated with any data set"
  | invalidEpochRange after upTo => s!"Invalid epoch range ({after}, {upTo}]"
  | operatorNotApproved payer operator =>
    s!"Payer {payer.checksummed} has not approved operator {operator.checksummed}"
  | insufficientRateAllowance required available =>
    shortage "Insufficient rate allowance" required available
  | insufficientLockupAllowance required available =>
    shortage "Insufficient lockup allowance" required available
  | insufficientMaxLockupPeriod required available =>
    s!"Insufficient max lockup period: required {required}, available {available}"
  | insufficientFunds required available => shortage "Insufficient funds" required available
  | paymentEnded dataSet endEpoch epoch =>
    s!"Payment for data set {dataSet} ended at epoch {endEpoch}, current epoch {epoch}"
  | paymentTerminated dataSet => s!"Payment for data set {dataSet} already terminated"
  | railsNotFinalized dataSet endEpoch epoch =>
    s!"Payment rails of data set {dataSet} not finalized: end epoch {endEpoch}, epoch {epoch}"
  | noCdnRails dataSet => s!"Data set {dataSet} has no CDN payment rails"
  | cdnRailTerminated rail => s!"CDN rail {rail} is terminated"
  | insufficientCdnLockup rail requested available =>
    let requested := Text.Amount.decimal requested
    let available := Text.Amount.decimal available
    s!"Insufficient fixed lockup on rail {rail}: requested {requested}, available {available}"
  | overflow quantity => s!"Arithmetic overflow computing {quantity}"
  | divisionByZero quantity => s!"Division by zero computing {quantity}"
  | migrationUnknownProvider dataSet serviceProvider =>
    let provider := serviceProvider.checksummed
    s!"Cannot migrate data set {dataSet}: provider {provider} not registered"
  | snapshot => "Snapshot encoding"

end ServiceError

end WarmStorage

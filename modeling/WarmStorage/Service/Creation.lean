import WarmStorage.Service.Basic

/-!
Creation of data sets. Everything is checked, and the funds of the payer are examined, before the
rails are opened; the state is changed only when all of them are.
-/

namespace WarmStorage

structure CreationRequest where
  payer : Address
  clientDataSetId : UInt256
  metadataKeys : List String
  metadataValues : List String
  withCdn : Bool
  signature : List UInt8

/-- What the payer of a new data set has to have free for lockups. -/
def Config.requiredLockup (c : Config) (withCdn : Bool) : Except ServiceError TokenAmount :=
  match c.pricing.minimumLockup c.lockupPeriod with
  | .error e => .error (.pricing e)
  | .ok storage =>
    if withCdn then
      match (UInt256.exactAdd? storage c.pricing.cdnLockup).bind
          (UInt256.exactAdd? · c.pricing.cacheMissLockup) with
      | none => .error (.overflow "required lockup")
      | some required => .ok required
    else
      .ok storage

/-- Whether a payer can fund the first period of a new data set. -/
def Config.checkFunding (c : Config) (payer : Address) (approval : Approval) (account : Account)
    (withCdn : Bool) : Except ServiceError Unit :=
  match c.pricing.storageRate 0 with
  | .error e => .error (.pricing e)
  | .ok rate => do
    let required ← c.requiredLockup withCdn
    if !approval.isApproved then
      throw (.operatorNotApproved payer c.serviceAddress)
    if approval.remainingRate < rate then
      throw (.insufficientRateAllowance rate approval.remainingRate)
    if approval.remainingLockup < required then
      throw (.insufficientLockupAllowance required approval.remainingLockup)
    if approval.maxLockupPeriod < c.lockupPeriod then
      throw (.insufficientMaxLockupPeriod c.lockupPeriod approval.maxLockupPeriod)
    if account.available < required then
      throw (.insufficientFunds required account.available)

namespace ServiceM

def chooseClientDataSetId (request : CreationRequest) : ServiceM UInt256 := do
  let s ← state
  let id := match s.config.versioning.clientIdScheme with
    | .payerCounter => .ofWord (s.nextClientDataSetId request.payer)
    | .clientNonce => request.clientDataSetId
  if (s.replay.dataSet? request.payer id).isSome then
    throw (.clientDataSetIdUsed request.payer id)
  return id

def creationMessage (flag : CdnFlag) (request : CreationRequest) (clientDataSetId : UInt256)
    (payee : Address) (entries : Metadata) : Message × Bool :=
  match flag with
  | .metadataKey => (.createDataSet clientDataSetId payee entries, entries.hasKey withCdnKey)
  | .field =>
    (.createDataSetWithCdn clientDataSetId request.withCdn payee entries, request.withCdn)

def openRail (terms : RailTerms) (lockupPeriod : UInt64) (lockupFixed : TokenAmount) :
    ServiceM RailId := do
  let rail ← ledgerCall (·.createRail terms)
  ledgerChange (·.modifyLockup rail lockupPeriod lockupFixed)
  return rail

def openEgressRails (c : Config) (storage : RailTerms) :
    ServiceM (Option RailId × Option RailId) := do
  let terms := { storage with commissionBps := 0 }
  let cacheMissRail ← openRail terms 0 c.pricing.cacheMissLockup
  let cdnRail ← openRail { terms with payee := c.cdnBeneficiary } 0 c.pricing.cdnLockup
  return (some cacheMissRail, some cdnRail)

def register (d : DataSet) : ServiceM Unit :=
  modifyState fun s =>
    let counters := match s.config.versioning.clientIdScheme with
      | .payerCounter => s.payerCounters.insert d.payer (s.nextClientDataSetId d.payer + 1)
      | .clientNonce => s.payerCounters
    { s with
      dataSets := s.dataSets.insert d.id d
      proving := s.proving.insert d.id { params := s.config.proving }
      replay := s.replay.recordDataSet d.payer d.clientDataSetId d.id
      payerDataSets := s.payerDataSets.insert d.payer (s.payerDataSets.getD d.payer [] ++ [d.id])
      railOwners := d.railIds.foldl (fun m rail => m.insert rail d.id) s.railOwners
      payerCounters := counters }

def dataSetCreated (ctx : CallContext) (id : DataSetId) (serviceProvider : Address)
    (request : CreationRequest) : ServiceM Unit := do
  requireVerifier ctx
  let payer := request.payer
  if payer = 0 then
    throw (.zeroAddress "payer")
  if serviceProvider = 0 then
    throw (.zeroAddress "service_provider")
  if ((← state).dataSet? id).isSome then
    throw (.dataSetExists id)
  let providerId ← approvedProvider serviceProvider
  let some payee := (← get).providers.payee? providerId | throw (.inactiveProvider providerId)
  let c ← config
  let entries ← ofExcept .metadata (Metadata.ofColumns request.metadataKeys request.metadataValues)
  ofExcept .metadata (c.metadata.validate entries .dataSet)
  let clientDataSetId ← chooseClientDataSetId request
  let (message, withCdn) :=
    creationMessage c.versioning.cdnFlag request clientDataSetId payee entries
  requireSigned ctx message request.signature payer
  let l := (← get).ledger
  ofExcept (·) (c.checkFunding payer (l.approval c.token payer c.serviceAddress)
    (l.account c.token payer) withCdn)
  let terms : RailTerms := {
    token := c.token
    payer := payer
    payee := payee
    operator := c.serviceAddress
    arbiter := c.serviceAddress
    commissionBps := c.commissionBps
    feeRecipient := c.feeRecipient }
  let storageRail ← openRail terms c.lockupPeriod 0
  let (cacheMissRail, cdnRail) ← if withCdn then openEgressRails c terms else pure (none, none)
  register {
    id := id
    payer := payer
    serviceProvider := serviceProvider
    payee := payee
    providerId := providerId
    clientDataSetId := clientDataSetId
    storageRail := storageRail
    cacheMissRail := cacheMissRail
    cdnRail := cdnRail
    commissionBps := c.commissionBps
    withCdn := withCdn
    metadata := entries }
  emit (.dataSetCreated id providerId storageRail cacheMissRail cdnRail payer serviceProvider
    payee entries)

end ServiceM

end WarmStorage

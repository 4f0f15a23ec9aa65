import WarmStorage.Service.Basic

/-!
Arbitration, termination, deletion and changes of provider. Storage is terminated once: by the
payer or the provider over the service, or over the ledger, which then reports it.
-/

namespace WarmStorage.ServiceM

def dataSetDeleted (ctx : CallContext) (id : DataSetId) (leafCount : UInt64) : ServiceM Unit := do
  requireVerifier ctx
  let d ← dataSet id
  if !d.isPastEnd ctx.epoch then
    throw (.railsNotFinalized id d.endEpoch ctx.epoch)
  modifyState fun s => { s with
    dataSets := s.dataSets.erase id
    proving := s.proving.erase id
    railOwners := d.railIds.foldl (fun m rail => m.erase rail) s.railOwners
    payerDataSets := s.payerDataSets.alter d.payer fun ids? =>
      (ids?.map (·.filter (· != id))).filter (!·.isEmpty) }
  emit (.dataSetDeleted id leafCount)

def providerChanged (ctx : CallContext) (id : DataSetId) (old new : Address) :
    ServiceM Unit := do
  requireVerifier ctx
  let d ← dataSet id
  if (← config).versioning.providerChange = .disabled then
    throw (.providerChangeDisabled id)
  if d.serviceProvider ≠ old then
    throw (.oldProviderMismatch id d.serviceProvider old)
  if new = 0 then
    throw (.zeroAddress "new_service_provider")
  let providerId ← approvedProvider new
  setDataSet id { d with serviceProvider := new, providerId := providerId }
  emit (.providerChanged id old new providerId)

def arbitrate (ctx : CallContext) (rail : RailId) (proposed : TokenAmount) (after upTo : Epoch) :
    ServiceM SettlementOutcome := do
  requirePayments ctx
  ofExcept (·) ((← state).arbitrate rail proposed after upTo ctx.epoch)

/--
The ledger reports that a rail was terminated. Only the first report about the storage rail of a
data set is recorded.
-/
def railTerminated (ctx : CallContext) (rail : RailId) (endEpoch : Epoch) : ServiceM Unit := do
  requirePayments ctx
  let some id := (← state).dataSetOfRail? rail | throw (.railNotAssociated rail)
  let d ← dataSet id
  if rail = d.storageRail && !d.isTerminated then
    setDataSet id { d with endEpoch := endEpoch }
    emit (.storagePaymentTerminated id endEpoch rail)

def terminateRails (epoch : Epoch) : List RailId → ServiceM Unit
  | [] => return
  | rail :: rails => do
    let _ ← ledgerCall (·.terminate rail epoch)
    terminateRails epoch rails

/--
Terminates the payments of a data set, and tells the last epoch that storage is paid for. Egress
rails that the ledger already terminated are left alone.
-/
def terminateService (ctx : CallContext) (id : DataSetId) : ServiceM Epoch := do
  let d ← dataSet id
  if ctx.caller ≠ d.payer ∧ ctx.caller ≠ d.payee ∧ ctx.caller ≠ d.serviceProvider then
    throw (.notParty id ctx.caller)
  if d.isTerminated then
    throw (.paymentTerminated id)
  let l := (← get).ledger
  let liveEgress := d.egressRails.filter fun rail => (l.rail? rail).any (!·.isTerminated)
  let endEpoch ← ledgerCall (·.terminate d.storageRail ctx.epoch)
  terminateRails ctx.epoch liveEgress
  let ended := { d with endEpoch := endEpoch }
  if d.hasCdnRails then
    setDataSet id ended.withoutCdn
    emit (.serviceTerminated ctx.caller id d.storageRail d.cacheMissRail d.cdnRail)
  else
    setDataSet id ended
    emit (.serviceTerminated ctx.caller id d.storageRail none none)
  emit (.storagePaymentTerminated id endEpoch d.storageRail)
  return endEpoch

end WarmStorage.ServiceM

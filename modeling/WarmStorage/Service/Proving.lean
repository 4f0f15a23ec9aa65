import WarmStorage.Service.Basic

/-!
Proofs and the advance of proving periods. While a data set is not terminated, each advance also
sets what its storage rail streams, from the number of leaves that are stored now.
-/

namespace WarmStorage

def bytesPerLeaf : UInt64 := 32

namespace ServiceM

def possessionProven (ctx : CallContext) (id : DataSetId) (count : UInt64) : ServiceM Unit := do
  requireVerifier ctx
  let d ← dataSet id
  requireNotPastEnd ctx id d
  let p ← proving id
  let period ← ofExcept (.proving id) (p.checkProof ctx.epoch count)
  setProving id (p.recordProof period)
  emit (.possessionProven id period ctx.epoch)

def storageRate (leafCount : UInt64) : ServiceM TokenAmount := do
  let some bytes := Word.exactMul? leafCount bytesPerLeaf | throw (.overflow "data set size")
  ofExcept .pricing ((← config).pricing.storageRate bytes)

def updateRate (d : DataSet) (leafCount : UInt64) : ServiceM (Option TokenAmount) := do
  if d.isTerminated then
    return none
  let rate ← storageRate leafCount
  ledgerChange (·.modifyPayment d.storageRail rate 0)
  return some rate

def nextProvingPeriod (ctx : CallContext) (id : DataSetId) (challenge : Epoch)
    (leafCount : UInt64) : ServiceM Unit := do
  requireVerifier ctx
  let d ← dataSet id
  requireNotPastEnd ctx id d
  let p ← proving id
  let advance ← ofExcept (.proving id) (p.checkAdvance ctx.epoch challenge)
  let rate ← updateRate d leafCount
  setProving id (p.applyAdvance advance)
  if advance.faultedPeriods > 0 then
    emit (.faultRecorded id advance.faultedPeriods advance.previousDeadline)
  emit (.nextProvingPeriod id challenge advance.nextDeadline leafCount)
  if let some rate := rate then
    emit (.railRateUpdated id d.storageRail rate)

end ServiceM

end WarmStorage

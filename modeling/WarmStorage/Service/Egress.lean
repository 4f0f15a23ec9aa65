import WarmStorage.Service.Basic

/-!
Payments for egress. The payer adds to the fixed lockups of the two egress rails, and the CDN
controller charges usage from them. Both rails are examined before either is changed.
-/

namespace WarmStorage.ServiceM

def egressRails (id : DataSetId) (d : DataSet) : ServiceM (RailId × RailId) :=
  match d.cdnRail, d.cacheMissRail with
  | some cdn, some cacheMiss => return (cdn, cacheMiss)
  | _, _ => throw (.noCdnRails id)

def rail (id : RailId) : ServiceM Rail := do
  match (← get).ledger.rail? id with
  | some r => return r
  | none => throw (.ledger (.unknownRail id))

def liveRail (id : RailId) : ServiceM Rail := do
  let r ← rail id
  if r.isTerminated then
    throw (.cdnRailTerminated id)
  return r

def raiseLockup (id : RailId) (r : Rail) (amount lockup : TokenAmount) : ServiceM Unit := do
  if amount ≠ 0 then
    ledgerChange (·.modifyLockup id r.lockupPeriod lockup)

def topUpEgress (ctx : CallContext) (id : DataSetId) (cdnAmount cacheMissAmount : TokenAmount) :
    ServiceM Unit := do
  let d ← dataSet id
  if ctx.caller ≠ d.payer then
    throw (.notPayer ctx.caller d.payer)
  let (cdnRail, cacheMissRail) ← egressRails id d
  let cdn ← liveRail cdnRail
  let cacheMiss ← liveRail cacheMissRail
  let some cdnLockup := UInt256.exactAdd? cdn.lockupFixed cdnAmount
    | throw (.overflow "cdn lockup")
  let some cacheMissLockup := UInt256.exactAdd? cacheMiss.lockupFixed cacheMissAmount
    | throw (.overflow "cache-miss lockup")
  raiseLockup cdnRail cdn cdnAmount cdnLockup
  raiseLockup cacheMissRail cacheMiss cacheMissAmount cacheMissLockup
  emit (.cdnRailsToppedUp id cdnLockup cacheMissLockup)

def chargeableRate (id : RailId) (amount : TokenAmount) : ServiceM TokenAmount := do
  let r ← rail id
  if r.lockupFixed < amount then
    throw (.insufficientCdnLockup id amount r.lockupFixed)
  return r.rate

def charge (id : RailId) (rate amount : TokenAmount) : ServiceM Unit := do
  if amount ≠ 0 then
    ledgerChange (·.modifyPayment id rate amount)

def settleEgress (ctx : CallContext) (id : DataSetId) (cdnAmount cacheMissAmount : TokenAmount) :
    ServiceM Unit := do
  if ctx.caller ≠ (← config).cdnController then
    throw (.notCdnController ctx.caller)
  let d ← dataSet id
  let (cdnRail, cacheMissRail) ← egressRails id d
  let cdnRate ← chargeableRate cdnRail cdnAmount
  let cacheMissRate ← chargeableRate cacheMissRail cacheMissAmount
  charge cdnRail cdnRate cdnAmount
  charge cacheMissRail cacheMissRate cacheMissAmount
  emit (.cdnPaymentSettled id cdnAmount cacheMissAmount)

end WarmStorage.ServiceM

import WarmStorage.Service.Basic

/-!
What the owner sets. Parameters and prices take effect for data sets and advances from then on.
-/

namespace WarmStorage.ServiceM

def modifyConfig (f : Config → Config) : ServiceM Unit :=
  modifyState fun s => { s with config := f s.config }

def approveProvider (ctx : CallContext) (id : ProviderId) : ServiceM Unit := do
  requireOwner ctx
  if !(← get).providers.isActive id then
    throw (.inactiveProvider id)
  if (← state).isApproved id then
    throw (.providerAlreadyApproved id)
  modifyState fun s => { s with approvedProviders := s.approvedProviders.insert id }
  emit (.providerApproved id)

def unapproveProvider (ctx : CallContext) (id : ProviderId) : ServiceM Unit := do
  requireOwner ctx
  if !(← state).isApproved id then
    throw (.providerNotApproved id)
  modifyState fun s => { s with approvedProviders := s.approvedProviders.erase id }
  emit (.providerUnapproved id)

def setProvingParams (ctx : CallContext) (params : ProvingParams) : ServiceM Unit := do
  requireOwner ctx
  ofExcept .config params.validate
  modifyConfig fun c => { c with proving := params }
  emit (.provingParamsUpdated params)

def setCommission (ctx : CallContext) (bps : UInt16) : ServiceM Unit := do
  requireOwner ctx
  if maxCommissionBps < bps then
    throw (.config (.commissionTooHigh bps))
  modifyConfig fun c => { c with commissionBps := bps }
  emit (.commissionUpdated bps)

def setPricing (ctx : CallContext) (pricing : Pricing) : ServiceM Unit := do
  requireOwner ctx
  ofExcept .config pricing.validate
  modifyConfig fun c => { c with pricing := pricing }
  emit .pricingUpdated

end WarmStorage.ServiceM

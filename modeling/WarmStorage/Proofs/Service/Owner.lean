import WarmStorage.Proofs.Service.Failure

/-!
The calls of the owner. Each sets the part of the state that it is named for, and no data set.
-/

namespace WarmStorage.ServiceM

variable {ctx : CallContext} {provider : ProviderId} {params : ProvingParams} {bps : UInt16}
  {pricing : Pricing} {s s' : Service} {u : Unit} {f : Config → Config}
  {R : Service → Service → Prop} [Std.Refl R] [IsTrans Service R]

@[simp]
theorem succeeds_modifyConfig : Succeeds (modifyConfig f) s u s' ↔
    s' = { s with state := { s.state with config := f s.state.config } } :=
  succeeds_modifyState

theorem total_modifyConfig_emit {event : Event} :
    Total (modifyConfig f >>= fun _ => emit event) :=
  total_modifyState.bind fun _ => total_emit

theorem succeeds_approveProvider : Succeeds (approveProvider ctx provider) s u s' ↔
    ctx.caller = s.state.config.owner ∧ s.providers.isActive provider = true ∧
      s.state.isApproved provider = false ∧
      s' = { s with
        state := { s.state with
          approvedProviders := s.state.approvedProviders.insert provider }
        events := s.events ++ [.providerApproved provider] } := by
  simp [approveProvider, and_assoc]

theorem refusedWithin_approveProvider : RefusedWithin R (approveProvider ctx provider) := by
  refine within_requireOwner.bind_refused fun _ => within_get.bind_refused fun _ => ?_
  apply RefusedWithin.guard
  refine within_state.bind_refused fun _ => ?_
  apply RefusedWithin.guard
  exact (total_modifyState.bind fun _ => total_emit).refusedWithin

theorem succeeds_unapproveProvider : Succeeds (unapproveProvider ctx provider) s u s' ↔
    ctx.caller = s.state.config.owner ∧ s.state.isApproved provider = true ∧
      s' = { s with
        state := { s.state with
          approvedProviders := s.state.approvedProviders.erase provider }
        events := s.events ++ [.providerUnapproved provider] } := by
  simp [unapproveProvider, and_assoc]

theorem refusedWithin_unapproveProvider : RefusedWithin R (unapproveProvider ctx provider) := by
  refine within_requireOwner.bind_refused fun _ => within_state.bind_refused fun _ => ?_
  apply RefusedWithin.guard
  exact (total_modifyState.bind fun _ => total_emit).refusedWithin

theorem succeeds_setProvingParams : Succeeds (setProvingParams ctx params) s u s' ↔
    ctx.caller = s.state.config.owner ∧ params.validate = .ok () ∧
      s' = { s with
        state := { s.state with config := { s.state.config with proving := params } }
        events := s.events ++ [.provingParamsUpdated params] } := by
  simp [setProvingParams, and_assoc]

theorem refusedWithin_setProvingParams : RefusedWithin R (setProvingParams ctx params) :=
  within_requireOwner.bind_refused fun _ => within_ofExcept.bind_refused fun _ =>
    total_modifyConfig_emit.refusedWithin

theorem succeeds_setCommission : Succeeds (setCommission ctx bps) s u s' ↔
    ctx.caller = s.state.config.owner ∧ bps ≤ maxCommissionBps ∧
      s' = { s with
        state := { s.state with config := { s.state.config with commissionBps := bps } }
        events := s.events ++ [.commissionUpdated bps] } := by
  simp [setCommission, and_assoc]

theorem refusedWithin_setCommission : RefusedWithin R (setCommission ctx bps) := by
  refine within_requireOwner.bind_refused fun _ => ?_
  apply RefusedWithin.guard
  exact total_modifyConfig_emit.refusedWithin

theorem succeeds_setPricing : Succeeds (setPricing ctx pricing) s u s' ↔
    ctx.caller = s.state.config.owner ∧ pricing.validate = .ok () ∧
      s' = { s with
        state := { s.state with config := { s.state.config with pricing := pricing } }
        events := s.events ++ [.pricingUpdated] } := by
  simp [setPricing, and_assoc]

theorem refusedWithin_setPricing : RefusedWithin R (setPricing ctx pricing) :=
  within_requireOwner.bind_refused fun _ => within_ofExcept.bind_refused fun _ =>
    total_modifyConfig_emit.refusedWithin

end WarmStorage.ServiceM

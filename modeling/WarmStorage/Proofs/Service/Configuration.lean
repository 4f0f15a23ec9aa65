import WarmStorage.Proofs.Service.Run

/-!
The configuration over a run. Only three calls of the owner change it, and each checks what it sets,
so a valid configuration stays valid. What signatures are bound to is set by none of them, and no
call changes the provider registry or the session keys.
-/

namespace WarmStorage

open Ledger (bind_eq_ok_iff guard_eq_ok_iff)

namespace Config

variable {c c' : Config}

theorem validate_eq_ok_iff : c.validate = .ok () ↔
    c.checkAddresses = .ok () ∧ c.commissionBps ≤ maxCommissionBps ∧ c.lockupPeriod ≠ 0 ∧
      c.proving.validate = .ok () ∧ c.pricing.validate = .ok () ∧
      c.metadata.checkNonZero = .ok () := by
  simp [validate, bind_eq_ok_iff, guard_eq_ok_iff]

inductive Adjusts (c : Config) : Config → Prop where
  | kept : Adjusts c c
  | proving {params : ProvingParams} (valid : params.validate = .ok ()) :
      Adjusts c { c with proving := params }
  | commission {bps : UInt16} (le : bps ≤ maxCommissionBps) :
      Adjusts c { c with commissionBps := bps }
  | pricing {pricing : Pricing} (valid : pricing.validate = .ok ()) :
      Adjusts c { c with pricing := pricing }

theorem Adjusts.validate (h : c.Adjusts c') (hvalid : c.validate = .ok ()) :
    c'.validate = .ok () := by
  obtain ⟨haddresses, hcommission, hlockup, hproving, hpricing, hmetadata⟩ :=
    validate_eq_ok_iff.mp hvalid
  rw [validate_eq_ok_iff]
  cases h with
  | kept => exact ⟨haddresses, hcommission, hlockup, hproving, hpricing, hmetadata⟩
  | proving valid => exact ⟨haddresses, hcommission, hlockup, valid, hpricing, hmetadata⟩
  | commission le => exact ⟨haddresses, le, hlockup, hproving, hpricing, hmetadata⟩
  | pricing valid => exact ⟨haddresses, hcommission, hlockup, hproving, valid, hmetadata⟩

theorem Adjusts.domain_eq (h : c.Adjusts c') : c'.domain = c.domain := by
  cases h
  all_goals rfl

theorem Adjusts.serviceAddress_eq (h : c.Adjusts c') : c'.serviceAddress = c.serviceAddress := by
  cases h
  all_goals rfl

theorem Adjusts.versioning_eq (h : c.Adjusts c') : c'.versioning = c.versioning := by
  cases h
  all_goals rfl

end Config

namespace Service

open ServiceM

variable {s s' : Service} {ctx : CallContext} {c : Call} {reply : Reply} {config : Config}
  {m : Move} {moves : List Move}

theorem adjusts_of_same (h : s'.state = s.state) : s.state.config.Adjusts s'.state.config := by
  rw [h]
  exact .kept

structure Adjusts (s s' : Service) : Prop where
  config : s.state.config.Adjusts s'.state.config
  providers : s'.providers = s.providers
  sessionKeys : s'.sessionKeys = s.sessionKeys

theorem OwnerSets.adjusts {approved : Std.ExtTreeSet ProviderId} {event : Event}
    (h : s.OwnerSets c config approved event) : s.state.config.Adjusts config := by
  cases h with
  | approved => exact .kept
  | unapproved => exact .kept
  | proving valid => exact .proving valid
  | commission le => exact .commission le
  | pricing valid => exact .pricing valid

theorem adjusts_of_succeeds (h : Succeeds (perform ctx c) s reply s') : s.Adjusts s' := by
  cases performed_of_succeeds h with
  | owner _ sets => exact ⟨sets.adjusts, rfl, rfl⟩
  | _ => exact ⟨.kept, rfl, rfl⟩

theorem adjusts_of_call {r : Except ServiceError Reply} (h : s.call ctx c = (r, s')) :
    s.Adjusts s' := by
  cases r with
  | ok reply => exact adjusts_of_succeeds (call_eq_ok_iff.mp h)
  | error e =>
    have hsame := refusedWithin_perform _ _ _ (call_eq_error_iff.mp h)
    exact ⟨adjusts_of_same hsame.state, hsame.providers, hsame.sessionKeys⟩

theorem adjusts_of_move : s.state.config.Adjusts (s.move m).state.config := by
  obtain ⟨ctx, c, rfl⟩ | ⟨op, rfl⟩ | ⟨hstate, -⟩ := move_cases (s := s) m
  · exact (adjusts_of_call rfl).config
  · exact .kept
  · exact adjusts_of_same hstate

theorem versioning_run (s : Service) (moves : List Move) :
    (s.run moves).state.config.versioning = s.state.config.versioning := by
  induction moves generalizing s with
  | nil => rfl
  | cons m moves ih =>
    rw [run_cons, ih]
    exact adjusts_of_move.versioning_eq

theorem Reachable.valid (h : Reachable s) : s.state.config.validate = .ok () := by
  induction h with
  | new h =>
    obtain ⟨hvalid, rfl⟩ := new_eq_ok_iff.mp h
    exact hvalid
  | call _ hcall ih => exact (adjusts_of_call hcall).config.validate ih
  | operate op _ ih => exact ih
  | outside providers sessionKeys _ ih => exact ih
  | takeEvents _ ih => exact ih

structure Configured (config : Config) (s : Service) : Prop where
  valid : s.state.config.validate = .ok ()
  signingContext_eq : s.signingContext = ⟨config.domain, config.serviceAddress⟩

theorem configured_of_new {l : Ledger} {providers : ProviderRegistry} {sessionKeys : SessionKeys}
    (h : new config l providers sessionKeys = .ok s) : s.Configured config := by
  obtain ⟨hvalid, rfl⟩ := new_eq_ok_iff.mp h
  exact ⟨hvalid, rfl⟩

theorem Configured.move (h : s.Configured config) : (s.move m).Configured config := by
  refine ⟨adjusts_of_move.validate h.valid, ?_⟩
  rw [← h.signingContext_eq, signingContext, adjusts_of_move.domain_eq,
    adjusts_of_move.serviceAddress_eq, signingContext]

theorem Configured.run (h : s.Configured config) : (s.run moves).Configured config := by
  induction moves generalizing s with
  | nil => exact h
  | cons m moves ih => exact ih h.move

end Service

end WarmStorage

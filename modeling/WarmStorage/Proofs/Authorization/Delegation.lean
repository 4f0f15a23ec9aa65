import WarmStorage.Proofs.Authorization.Verification

/-!
What a history of session keys amounts to. The last operation about a grant decides over it: until
when it lasts, and so who may sign for a payer.
-/

namespace WarmStorage

namespace SessionKeys

def Operation.Names (grant : Grant) : Operation → Prop
  | .login owner signer permissions _ =>
    owner = grant.owner ∧ signer = grant.signer ∧ grant.permission ∈ permissions
  | .revoke owner signer permissions =>
    owner = grant.owner ∧ signer = grant.signer ∧ grant.permission ∈ permissions

instance decidableNames (grant : Grant) : DecidablePred (Operation.Names grant)
  | .login owner signer permissions _ => inferInstanceAs (Decidable
      (owner = grant.owner ∧ signer = grant.signer ∧ grant.permission ∈ permissions))
  | .revoke owner signer permissions => inferInstanceAs (Decidable
      (owner = grant.owner ∧ signer = grant.signer ∧ grant.permission ∈ permissions))

def Operation.expiry : Operation → Epoch
  | .login _ _ _ expiry => expiry
  | .revoke .. => 0

def lastAbout? (grant : Grant) (history : List Operation) : Option Operation :=
  (history.filter (Operation.Names grant)).getLast?

/-- The last operation about the grant is a login until `epoch` or later, and not until zero. -/
def Delegated (history : List Operation) (grant : Grant) (epoch : Epoch) : Prop :=
  ∃ permissions expiry, lastAbout? grant history =
    some (.login grant.owner grant.signer permissions expiry) ∧ max epoch 1 ≤ expiry

variable {keys : SessionKeys} {grant : Grant} {owner signer : Address} {permissions : List Digest}
  {expiry epoch : Epoch} {op : Operation} {history : List Operation}

theorem expiry_login : (keys.login owner signer permissions expiry).expiry grant =
    if owner = grant.owner ∧ signer = grant.signer ∧ grant.permission ∈ permissions then expiry
    else keys.expiry grant := by
  unfold login SessionKeys.expiry
  generalize keys.expiries = m
  induction permissions generalizing m with
  | nil => simp
  | cons permission permissions ih =>
    rw [List.foldl_cons, ih, Std.ExtTreeMap.getD_insert]
    simp only [Std.compare_eq_iff_eq, List.mem_cons]
    grind [Grant]

theorem expiry_revoke : (keys.revoke owner signer permissions).expiry grant =
    if owner = grant.owner ∧ signer = grant.signer ∧ grant.permission ∈ permissions then 0
    else keys.expiry grant := by
  unfold revoke SessionKeys.expiry
  generalize keys.expiries = m
  induction permissions generalizing m with
  | nil => simp
  | cons permission permissions ih =>
    rw [List.foldl_cons, ih, Std.ExtTreeMap.getD_erase]
    simp only [Std.compare_eq_iff_eq, List.mem_cons]
    grind [Grant]

theorem expiry_operate : (keys.operate op).expiry grant =
    if op.Names grant then op.expiry else keys.expiry grant := by
  cases op with
  | login owner signer permissions expiry => exact expiry_login
  | revoke owner signer permissions => exact expiry_revoke

theorem expiry_empty : SessionKeys.empty.expiry grant = 0 :=
  Std.ExtTreeMap.getD_empty

theorem expiry_run : (keys.run history).expiry grant =
    ((lastAbout? grant history).map Operation.expiry).getD (keys.expiry grant) := by
  unfold run lastAbout?
  induction history generalizing keys with
  | nil => rfl
  | cons op history ih =>
    rw [List.foldl_cons, ih, expiry_operate]
    by_cases hop : op.Names grant
    · rw [if_pos hop, List.filter_cons_of_pos (by simpa using hop), List.getLast?_cons]
      cases (history.filter (Operation.Names grant)).getLast? with
      | none => rfl
      | some last => rfl
    · rw [if_neg hop, List.filter_cons_of_neg (by simpa using hop)]

theorem names_of_lastAbout (h : lastAbout? grant history = some op) : op.Names grant :=
  of_decide_eq_true (List.mem_filter.mp (List.mem_of_getLast? h)).2

theorem max_one_le_iff : max epoch 1 ≤ expiry ↔ expiry ≠ 0 ∧ epoch ≤ expiry := by
  show (if epoch ≤ 1 then 1 else epoch) ≤ expiry ↔ _
  grind

theorem lasts_run_iff : (SessionKeys.empty.run history).expiry grant ≠ 0 ∧
      epoch ≤ (SessionKeys.empty.run history).expiry grant ↔
    Delegated history grant epoch := by
  unfold Delegated
  rw [expiry_run, expiry_empty]
  cases hlast : lastAbout? grant history with
  | none => simp
  | some op =>
    cases op with
    | login owner signer permissions expiry =>
      obtain ⟨rfl, rfl, -⟩ := names_of_lastAbout hlast
      simp [Operation.expiry, max_one_le_iff]
    | revoke owner signer permissions => simp [Operation.expiry]

end SessionKeys

theorem SigningContext.verify_run_eq_ok_iff {ctx : SigningContext} {m : Message} {bs : List UInt8}
    {payer signer : Address} {history : List SessionKeys.Operation} {epoch : Epoch} :
    ctx.verify m bs payer (.run .empty history) epoch = .ok signer ↔
      recoverSigner (ctx.signingHash m) bs = .ok signer ∧ (signer = payer ∨
        SessionKeys.Delegated history ⟨payer, signer, m.kind.typeHash⟩ epoch) := by
  rw [verify_eq_ok_iff, SessionKeys.lasts_run_iff]

end WarmStorage

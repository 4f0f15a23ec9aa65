import Std.Data.ExtTreeMap
import WarmStorage.Authorization.Message
import WarmStorage.Authorization.Signature

/-!
Session keys: permissions to sign requests of one kind for somebody else, until an epoch. What
was granted or revoked last decides.
-/

namespace WarmStorage

structure Grant where
  owner : Address
  signer : Address
  permission : Digest
deriving DecidableEq, Repr

namespace Grant

instance : Ord Grant where
  compare := compareLex (compareOn (·.owner))
    (compareLex (compareOn (·.signer)) (compareOn (·.permission)))

instance : Std.TransOrd Grant :=
  inferInstanceAs (Std.TransCmp (compareLex (compareOn Grant.owner)
    (compareLex (compareOn Grant.signer) (compareOn Grant.permission))))

instance : Std.LawfulEqOrd Grant where
  eq_of_compare {a b} h := by
    have h := compareLex_eq_eq.1 h
    have rest := compareLex_eq_eq.1 h.2
    have owner : a.owner = b.owner := Std.LawfulEqOrd.eq_of_compare h.1
    have signer : a.signer = b.signer := Std.LawfulEqOrd.eq_of_compare rest.1
    have permission : a.permission = b.permission := Std.LawfulEqOrd.eq_of_compare rest.2
    cases a
    cases b
    exact congr (congr (congrArg Grant.mk owner) signer) permission

end Grant

structure SessionKeys where
  expiries : Std.ExtTreeMap Grant Epoch := ∅

namespace SessionKeys

def empty : SessionKeys := {}

def expiry (keys : SessionKeys) (grant : Grant) : Epoch :=
  keys.expiries.getD grant 0

def login (keys : SessionKeys) (owner signer : Address) (permissions : List Digest)
    (expiry : Epoch) : SessionKeys :=
  ⟨permissions.foldl (fun m permission => m.insert ⟨owner, signer, permission⟩ expiry)
    keys.expiries⟩

def revoke (keys : SessionKeys) (owner signer : Address) (permissions : List Digest) :
    SessionKeys :=
  ⟨permissions.foldl (fun m permission => m.erase ⟨owner, signer, permission⟩) keys.expiries⟩

inductive Operation where
  | login (owner signer : Address) (permissions : List Digest) (expiry : Epoch)
  | revoke (owner signer : Address) (permissions : List Digest)
deriving DecidableEq, Repr

def operate (keys : SessionKeys) : Operation → SessionKeys
  | .login owner signer permissions expiry => keys.login owner signer permissions expiry
  | .revoke owner signer permissions => keys.revoke owner signer permissions

def run (keys : SessionKeys) (history : List Operation) : SessionKeys :=
  history.foldl operate keys

end SessionKeys

def SigningContext.verify (ctx : SigningContext) (m : Message) (signature : List UInt8)
    (payer : Address) (keys : SessionKeys) (epoch : Epoch) : Except AuthError Address := do
  let signer ← recoverSigner (ctx.signingHash m) signature
  if signer = payer then
    return signer
  let expiry := keys.expiry ⟨payer, signer, m.kind.typeHash⟩
  if expiry = 0 then
    throw (.invalidSigner payer signer)
  if expiry < epoch then
    throw (.sessionKeyExpired payer signer expiry)
  return signer

end WarmStorage

import WarmStorage.Secp256k1.Ecdsa

/-!
Signatures as payers send them: 32 bytes of `r`, 32 bytes of `s`, and a byte for the parity, which
is 0 or 1 or, in an older form, 27 or 28. Of the two signatures that differ in the sign of `s`
only the one with the smaller `s` is accepted, so a signature cannot be altered and stay valid.
-/

namespace WarmStorage

inductive AuthError where
  | signatureLength (length : Nat)
  | recoveryByte (byte : UInt8)
  | nonCanonical
  | recoveryFailed
  | invalidSigner (payer signer : Address)
  | sessionKeyExpired (payer signer : Address) (expiry : Epoch)
deriving DecidableEq, Repr

def signatureLength : Nat := 65

namespace AuthError

def message : AuthError → String
  | signatureLength length =>
    s!"Invalid signature length {length}, expected {WarmStorage.signatureLength}"
  | recoveryByte byte => s!"Unsupported signature recovery id {byte}"
  | nonCanonical => "Non-canonical signature: s exceeds half the curve order"
  | recoveryFailed => "Signature recovery failed: signature error"
  | invalidSigner payer signer =>
    s!"Invalid signer {signer.checksummed} for payer {payer.checksummed}"
  | sessionKeyExpired payer signer expiry =>
    s!"Session key {signer.checksummed} for payer {payer.checksummed} expired at epoch {expiry}"

end AuthError

open Secp256k1 (Signature)

def parity? (byte : UInt8) : Option Bool :=
  if byte = 0 ∨ byte = 27 then some false
  else if byte = 1 ∨ byte = 28 then some true
  else none

def wordOfBytes (bs : List UInt8) : UInt256 :=
  BitVec.ofNat 256 (Bytes.toNat bs)

/-- Splits a signature into its parts, and checks that it is canonical. -/
def parseSignature (bs : List UInt8) : Except AuthError Signature :=
  if bs.length = signatureLength then
    let mark := bs.getD 64 0
    match parity? mark with
    | none => .error (.recoveryByte mark)
    | some odd =>
      let s := wordOfBytes ((bs.drop 32).take 32)
      if Secp256k1.halfOrder < s then .error .nonCanonical
      else .ok ⟨wordOfBytes (bs.take 32), s, odd⟩
  else
    .error (.signatureLength bs.length)

def recoverSigner (hash : Digest) (bs : List UInt8) : Except AuthError Address := do
  let sig ← parseSignature bs
  match Secp256k1.recover? hash sig with
  | some signer => .ok signer
  | none => .error .recoveryFailed

end WarmStorage

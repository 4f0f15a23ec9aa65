import WarmStorage.Address
import WarmStorage.Hash.Sha256
import WarmStorage.Secp256k1.Curve

/-!
Signatures from which the signer can be recovered. A signature of a digest `z` under the key `d`
is `r`, the first coordinate of a multiple `k` of the generator, and `s = (z + r * d) / k`; with
the parity of the second coordinate they determine the public key `(s * R - z * G) / r`. The
number `k` is drawn from the key and the digest alone, so signing is deterministic.
-/

namespace WarmStorage.Secp256k1

structure Signature where
  r : UInt256
  s : UInt256
  odd : Bool
deriving DecidableEq, Repr

/-- The largest `s` that is canonical: of `s` and `order - s` only the smaller one is. -/
def halfOrder : UInt256 := BitVec.ofNat 256 (order / 2)

def scalarOf (z : Digest) : Scalar :=
  Fin.ofNat order z.toNat

def properScalar? (n : UInt256) : Option Scalar :=
  if 0 < n.toNat ∧ n.toNat < order then some (Fin.ofNat order n.toNat) else none

def addressOf (x y : Field) : Address :=
  (Hash.Keccak.hash (Bytes.ofNat 32 x.val ++ Bytes.ofNat 32 y.val)).setWidth 160

def recoverKey? (z : Digest) (sig : Signature) : Option (Field × Field) := do
  let r ← properScalar? sig.r
  let s ← properScalar? sig.s
  let point ← Point.lift? (Fin.ofNat prime sig.r.toNat) sig.odd
  let inv := inverse 1 r
  let key := (Point.mul (0 - inv * scalarOf z) .generator).add (point.mul (inv * s))
  key.affine?

def recover? (z : Digest) (sig : Signature) : Option Address :=
  (recoverKey? z sig).map fun (x, y) => addressOf x y

namespace Nonce

structure State where
  key : List UInt8
  value : List UInt8

def State.mix (st : State) (extra : List UInt8) : State :=
  let key := Hash.Sha256.hmac st.key (st.value ++ extra)
  ⟨key, Hash.Sha256.hmac key st.value⟩

def start (d : Scalar) (z : Digest) : State :=
  let seed := Bytes.ofNat 32 d.val ++ z.toBytes
  let st : State := ⟨List.replicate 32 0, List.replicate 32 1⟩
  (st.mix (0 :: seed)).mix (1 :: seed)

def draw? : Nat → State → Option Scalar
  | 0, _ => none
  | tries + 1, st =>
    let value := Hash.Sha256.hmac st.key st.value
    match properScalar? (BitVec.ofNat 256 (Bytes.toNat value)) with
    | some k => some k
    | none => draw? tries (State.mix ⟨st.key, value⟩ [0])

end Nonce

def signerAddress? (d : Scalar) : Option Address :=
  (Point.mul d .generator).affine?.map fun (x, y) => addressOf x y

/-- A signature and, as its last byte, 27 and the number that tells the points of `r` apart. -/
def sign? (d : Scalar) (z : Digest) : Option (List UInt8) := do
  let k ← Nonce.draw? 128 (Nonce.start d z)
  let (x, y) ← (Point.mul k .generator).affine?
  let r := Fin.ofNat order x.val
  let s := inverse 1 k * (scalarOf z + r * d)
  let high := halfOrder.toNat < s.val
  let odd := (y.val % 2 == 1) != high
  let wrapped := order ≤ x.val
  let mark := 27 + (if wrapped then 2 else 0) + (if odd then 1 else 0)
  return Bytes.ofNat 32 r.val ++ Bytes.ofNat 32 (if high then (0 - s).val else s.val) ++ [mark]

end WarmStorage.Secp256k1

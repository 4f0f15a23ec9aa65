import WarmStorage.Bytes
import WarmStorage.Identifier

/-!
Keccak with a rate of 136 bytes and the padding that starts with a one bit, as the host chain
uses it: `hash` takes any number of bytes to a digest of 32 bytes. The state is 25 lanes of 64
bits; each step of a round gives every new lane as a function of the old ones.
-/

namespace WarmStorage.Hash.Keccak

abbrev State := Vector UInt64 25

namespace State

def zero : State := Vector.replicate 25 0

def lane (s : State) (x y : Nat) : UInt64 :=
  s.get ⟨x % 5 + 5 * (y % 5), by omega⟩

def tabulate (f : Nat → Nat → UInt64) : State :=
  Vector.ofFn fun i => f (i.val % 5) (i.val / 5)

end State

def rotateLeft (w : UInt64) (n : UInt64) : UInt64 :=
  (w <<< n) ||| (w >>> (64 - n))

def rotations : Vector UInt64 25 := #v[
  0, 1, 62, 28, 27,
  36, 44, 6, 55, 20,
  3, 10, 43, 25, 39,
  41, 45, 15, 21, 8,
  18, 2, 61, 56, 14]

def roundConstants : List UInt64 := [
  0x0000000000000001, 0x0000000000008082, 0x800000000000808a, 0x8000000080008000,
  0x000000000000808b, 0x0000000080000001, 0x8000000080008081, 0x8000000000008009,
  0x000000000000008a, 0x0000000000000088, 0x0000000080008009, 0x000000008000000a,
  0x000000008000808b, 0x800000000000008b, 0x8000000000008089, 0x8000000000008003,
  0x8000000000008002, 0x8000000000000080, 0x000000000000800a, 0x800000008000000a,
  0x8000000080008081, 0x8000000000008080, 0x0000000080000001, 0x8000000080008008]

def parity (s : State) (x : Nat) : UInt64 :=
  s.lane x 0 ^^^ s.lane x 1 ^^^ s.lane x 2 ^^^ s.lane x 3 ^^^ s.lane x 4

def theta (s : State) : State :=
  let columns : Vector UInt64 5 := Vector.ofFn fun x => parity s x.val
  let column (x : Nat) := columns.get ⟨x % 5, Nat.mod_lt _ (by decide)⟩
  let effect : Vector UInt64 5 :=
    Vector.ofFn fun x => column (x.val + 4) ^^^ rotateLeft (column (x.val + 1)) 1
  .tabulate fun x y => s.lane x y ^^^ effect.get ⟨x % 5, Nat.mod_lt _ (by decide)⟩

def rhoPi (s : State) : State :=
  .tabulate fun x y => rotateLeft (s.lane (x + 3 * y) x) (State.lane rotations (x + 3 * y) x)

def chi (s : State) : State :=
  .tabulate fun x y => s.lane x y ^^^ (~~~ s.lane (x + 1) y &&& s.lane (x + 2) y)

def iota (constant : UInt64) (s : State) : State :=
  s.set 0 (s.get 0 ^^^ constant)

def permute (s : State) : State :=
  roundConstants.foldl (fun s constant => iota constant (chi (rhoPi (theta s)))) s

def rate : Nat := 136

def pad (message : List UInt8) : List UInt8 :=
  let free := rate - message.length % rate
  if free = 1 then message ++ [0x81]
  else message ++ 0x01 :: List.replicate (free - 2) 0 ++ [0x80]

def lanes : List UInt8 → List UInt64
  | b₀ :: b₁ :: b₂ :: b₃ :: b₄ :: b₅ :: b₆ :: b₇ :: bs =>
    UInt64.ofNat (Bytes.toNat [b₇, b₆, b₅, b₄, b₃, b₂, b₁, b₀]) :: lanes bs
  | _ => []

def addBlock (s : State) (block : List UInt8) : State :=
  let added := (lanes block).toArray
  Vector.ofFn fun i => s.get i ^^^ added.getD i.val 0

def absorb : Nat → State → List UInt8 → State
  | 0, s, _ => s
  | count + 1, s, bytes =>
    absorb count (permute (addBlock s (bytes.take rate))) (bytes.drop rate)

def squeeze (s : State) : List UInt8 :=
  (s.toList.take 4).flatMap fun w => (Bytes.ofNat 8 w.toNat).reverse

def hashBytes (message : List UInt8) : List UInt8 :=
  let padded := pad message
  squeeze (absorb (padded.length / rate) .zero padded)

def hash (message : List UInt8) : Digest :=
  BitVec.ofNat 256 (Bytes.toNat (hashBytes message))

end WarmStorage.Hash.Keccak

/-!
Bytes written as pairs of hexadecimal digits, most significant digit first. Writing uses lower
case; reading takes either case. The module's main statement is that reading what was written
gives the bytes back.
-/

namespace WarmStorage.Text.Hex

def digit (n : Nat) : Char :=
  Nat.digitChar n

def value? (c : Char) : Option Nat :=
  if '0' ≤ c ∧ c ≤ '9' then some (c.toNat - '0'.toNat)
  else if 'a' ≤ c ∧ c ≤ 'f' then some (c.toNat - 'a'.toNat + 10)
  else if 'A' ≤ c ∧ c ≤ 'F' then some (c.toNat - 'A'.toNat + 10)
  else none

def encode : List UInt8 → List Char
  | [] => []
  | b :: bs => digit (b.toNat / 16) :: digit (b.toNat % 16) :: encode bs

def decode? : List Char → Option (List UInt8)
  | [] => some []
  | [_] => none
  | hi :: lo :: cs => do
    let h ← value? hi
    let l ← value? lo
    let bs ← decode? cs
    return UInt8.ofNat (16 * h + l) :: bs

def dropMark : List Char → List Char
  | '0' :: 'x' :: cs => cs
  | '0' :: 'X' :: cs => cs
  | cs => cs

def marked (bs : List UInt8) : String :=
  String.ofList ('0' :: 'x' :: encode bs)

def read? (s : String) : Option (List UInt8) :=
  decode? (dropMark s.toList)

theorem value?_digit {n : Nat} (h : n < 16) : value? (digit n) = some n := by
  revert h
  revert n
  decide

@[simp]
theorem decode?_encode (bs : List UInt8) : decode? (encode bs) = some bs := by
  induction bs with
  | nil => rfl
  | cons b bs ih =>
    have hb : b.toNat < 256 := b.toNat_lt
    have hi : b.toNat / 16 < 16 := by omega
    have lo : b.toNat % 16 < 16 := by omega
    have split : 16 * (b.toNat / 16) + b.toNat % 16 = b.toNat := by omega
    have byte : UInt8.ofNat (16 * (b.toNat / 16) + b.toNat % 16) = b := by
      rw [split, UInt8.ofNat_toNat]
    rw [encode, decode?, value?_digit hi, value?_digit lo, ih]
    simp only [Option.bind_eq_bind, Option.bind_some, Option.pure_def, byte]

@[simp]
theorem read?_marked (bs : List UInt8) : read? (marked bs) = some bs := by
  simp [read?, marked, dropMark]

end WarmStorage.Text.Hex

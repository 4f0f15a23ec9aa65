import WarmStorage.Text.Hex
import WarmStorage.Word

/-!
Texts of numbers of 256 bits. They are written in hexadecimal behind the mark `0x`, without
leading zeros. A text is read in the base that its mark names (`0x`, `0o` or `0b`, decimal
without a mark); underscores are skipped, and no digits at all stand for zero.
-/

namespace WarmStorage.Text.Amount

def digit? (base : Nat) (c : Char) : Option Nat :=
  (Hex.value? c).filter (· < base)

def digits? (base : Nat) : Nat → List Char → Option Nat
  | acc, [] => some acc
  | acc, '_' :: cs => digits? base acc cs
  | acc, c :: cs =>
    match digit? base c with
    | some d => digits? base (base * acc + d) cs
    | none => none

def splitMark : List Char → Nat × List Char
  | '0' :: 'x' :: cs => (16, cs)
  | '0' :: 'X' :: cs => (16, cs)
  | '0' :: 'o' :: cs => (8, cs)
  | '0' :: 'O' :: cs => (8, cs)
  | '0' :: 'b' :: cs => (2, cs)
  | '0' :: 'B' :: cs => (2, cs)
  | cs => (10, cs)

def read? (s : String) : Option UInt256 :=
  let (base, cs) := splitMark s.toList
  (digits? base 0 cs).bind UInt256.fit?

def hex (n : UInt256) : String :=
  String.ofList ('0' :: 'x' :: Nat.toDigits 16 n.toNat)

def decimal (n : UInt256) : String :=
  String.ofList (Nat.toDigits 10 n.toNat)

end WarmStorage.Text.Amount

import Std.Data.ExtTreeMap
import Std.Data.ExtTreeSet
import WarmStorage.Address
import WarmStorage.Json.Parser
import WarmStorage.Text.Amount

/-!
Values as JSON trees. Each type is written in one way. It is read a little more liberally, and
where a tree comes from decides some of what is accepted: the members of an object are seen one by
one while a text is read, but a part that was set aside first has lost how its numbers were
written, and a configuration language has its own numbers.
-/

namespace WarmStorage

inductive Source where
  | text
  /-- A part of a JSON text that was set aside before its type was known. -/
  | buffered
  | tree
  | toml
deriving DecidableEq, Repr

class Codec (α : Type) where
  encode : α → Json
  decode? : Source → Json → Option α

class KeyCodec (κ : Type) where
  encodeKey : κ → String
  decodeKey? : Source → Literal → Option κ

namespace Codec

instance : Codec Bool where
  encode := .bool
  decode?
    | _, .bool b => some b
    | _, _ => none

instance : Codec UInt64 where
  encode := .natural
  decode?
    | _, .natural n => some n
    | _, _ => none

instance : Codec UInt16 where
  encode n := .natural n.toUInt64
  decode?
    | _, .natural n => if n.toNat < UInt16.size then some n.toUInt16 else none
    | _, _ => none

instance : Codec UInt8 where
  encode n := .natural n.toUInt64
  decode?
    | _, .natural n => if n.toNat < UInt8.size then some n.toUInt8 else none
    | _, _ => none

instance : Codec String where
  encode := .ofString
  decode?
    | _, .string s => s.text?
    | _, _ => none

/-- Numbers of 256 bits are written as texts; numbers of 64 bits are read as they stand. -/
instance : Codec UInt256 where
  encode n := .ofString (Text.Amount.hex n)
  decode?
    | _, .string s => s.text?.bind Text.Amount.read?
    | .toml, _ => none
    | _, .natural n => some (.ofWord n)
    | _, _ => none

instance {α : Type} [Codec α] : Codec (List α) where
  encode xs := .array (xs.map encode)
  decode?
    | src, .array vs => vs.mapM (decode? src)
    | _, _ => none

def isByte (v : Json) : Bool :=
  (decode? .tree v : Option UInt8).isSome

def isPassedOver : Json → Bool
  | .null => true
  | .bool _ => true
  | .natural n => 256 ≤ n
  | .numeral text => (Json.afterNoByte? text.toList).any List.isEmpty
  | .string (.unpaired atEnd) => atEnd
  | .string _ => true
  | .array _ => false
  | .object _ => false
  | .interruption => true

/--
What may stand behind the last byte of a list with a fixed number of them. One more byte may not,
but something else is passed over when it is tried as a byte.
-/
def mayFollowBytes : Source → List Json → Bool
  | _, [] => true
  | .toml, v :: _ => !isByte v
  | .text, [v] => isPassedOver v
  | .buffered, [v] => !isByte v
  | .tree, [v] => !isByte v
  | _, _ => false

def fixedBytes? (count : Nat) (src : Source) : Json → Option (List UInt8)
  | .array vs =>
    if count ≤ vs.length && mayFollowBytes src (vs.drop count) then
      (vs.take count).mapM (decode? src)
    else
      none
  | _ => none

instance : Codec Address where
  encode a := .ofString a.hex
  decode?
    | _, .string s => s.text?.bind Address.read?
    | src, v => (fixedBytes? 20 src v).bind Address.ofBytes?

instance {α : Type} [Codec α] : Codec (Option α) where
  encode
    | some a => encode a
    | none => .null
  decode?
    | _, .null => some none
    | src, v => (decode? src v).map some

end Codec

namespace KeyCodec

def ofDigits? (s : String) : Option UInt64 :=
  match Json.wholePart? s.toList with
  | some (ds, []) => Word.fit? (Nat.ofDigitChars 10 ds 0)
  | _ => none

instance : KeyCodec UInt64 where
  encodeKey n := String.ofList (Nat.toDigits 10 n.toNat)
  decodeKey?
    | .text, .plain s => ofDigits? s
    | .tree, s => s.text?.bind ofDigits?
    | _, _ => none

instance : KeyCodec Address where
  encodeKey := Address.hex
  decodeKey? _ s := s.text?.bind Address.read?

instance : KeyCodec UInt256 where
  encodeKey := Text.Amount.hex
  decodeKey? _ s := s.text?.bind Text.Amount.read?

end KeyCodec

namespace Codec

open KeyCodec

section Map

variable {κ α : Type} [Ord κ] [Std.TransOrd κ] [KeyCodec κ]

def decodeMembers? [Codec α] (src : Source) :
    List (Literal × Json) → Std.ExtTreeMap κ α → Option (Std.ExtTreeMap κ α)
  | [], m => some m
  | (k, v) :: ms, m => do
    let k ← decodeKey? src k
    let v ← decode? src v
    decodeMembers? src ms (m.insert k v)

instance [Codec α] : Codec (Std.ExtTreeMap κ α) where
  encode m := .ofMembers (m.toList.map fun (k, v) => (encodeKey k, encode v))
  decode?
    | src, .object ms => decodeMembers? src ms ∅
    | _, _ => none

end Map

instance {κ : Type} [Ord κ] [Std.TransOrd κ] [Codec κ] : Codec (Std.ExtTreeSet κ) where
  encode s := encode s.toList
  decode? src v := (decode? src v).map fun (xs : List κ) => xs.foldl (·.insert ·) ∅

end Codec

end WarmStorage

import WarmStorage.Json.Numeral

/-!
JSON values as they stand in a text. Two things are kept that a plain tree of values would lose:
whether a string was written with escapes, which decides whether an object key can stand for a
number, and whether a string names a text at all, since escapes can name half of a character. And
where a list of bytes breaks off, that place is kept.
-/

namespace WarmStorage

inductive Literal where
  | plain (text : String)
  | escaped (text : String)
  /--
  An escape names half of a surrogate pair, so the string has no text; `atEnd` if the first such
  half is a leading one at the end.
  -/
  | unpaired (atEnd : Bool)
deriving DecidableEq, Repr

/-- A JSON value; the members of an object stay in the order of the text. -/
inductive Json where
  | null
  | bool (b : Bool)
  /-- A number written as digits only that fits in 64 bits. -/
  | natural (n : UInt64)
  /-- Any other number, as it was written. -/
  | numeral (text : String)
  | string (s : Literal)
  | array (elements : List Json)
  | object (members : List (Literal × Json))
  /-- The place of an element at which a list of bytes breaks off. -/
  | interruption

namespace Literal

def isPlain (c : Char) : Bool :=
  ' ' ≤ c && c != '"' && c != '\\'

def ofString (s : String) : Literal :=
  if s.toList.all isPlain then plain s else escaped s

def text? : Literal → Option String
  | plain s => some s
  | escaped s => some s
  | unpaired _ => none

@[simp]
theorem text?_ofString (s : String) : (ofString s).text? = some s := by
  unfold ofString
  split <;> rfl

end Literal

namespace Json

def ofString (s : String) : Json :=
  .string (.ofString s)

def ofMembers (members : List (String × Json)) : Json :=
  .object (members.map fun (name, value) => (.ofString name, value))

mutual

/-- The value with one member for every name: the last one, at the place of the first. -/
def lastWins : Json → Json
  | .array xs => .array (lastWinsElements xs)
  | .object ms => .object (lastWinsMembers ms)
  | v => v

def lastWinsElements : List Json → List Json
  | [] => []
  | x :: xs => lastWins x :: lastWinsElements xs

def lastWinsMembers : List (Literal × Json) → List (Literal × Json)
  | [] => []
  | (k, v) :: ms =>
    let rest := lastWinsMembers ms
    match rest.find? (·.1.text? == k.text?) with
    | some (_, w) => (k, w) :: rest.filter (·.1.text? != k.text?)
    | none => (k, lastWins v) :: rest

end

mutual

def isComplete : Json → Bool
  | .interruption => false
  | .array xs => areComplete xs
  | .object ms => areCompleteMembers ms
  | _ => true

def areComplete : List Json → Bool
  | [] => true
  | x :: xs => isComplete x && areComplete xs

def areCompleteMembers : List (Literal × Json) → Bool
  | [] => true
  | (_, v) :: ms => isComplete v && areCompleteMembers ms

end

mutual

def isHoldable : Nat → Json → Bool
  | _, .interruption => false
  | _, .numeral text => Numeral.isFinite text
  | _, .string s => s.text?.isSome
  | 0, .array _ => false
  | depth + 1, .array xs => areHoldable depth xs
  | 0, .object _ => false
  | depth + 1, .object ms => areHoldableMembers depth ms
  | _, _ => true

def areHoldable (depth : Nat) : List Json → Bool
  | [] => true
  | x :: xs => isHoldable depth x && areHoldable depth xs

def areHoldableMembers (depth : Nat) : List (Literal × Json) → Bool
  | [] => true
  | (k, v) :: ms => k.text?.isSome && isHoldable depth v && areHoldableMembers depth ms

end

def member? (name : String) : Json → Option Json
  | .object ms => (ms.find? (·.1.text? == some name)).map (·.2)
  | _ => none

end Json

end WarmStorage

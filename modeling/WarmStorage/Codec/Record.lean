import WarmStorage.Codec.Basic

/-!
Records: objects with known names, and choices between named alternatives. A record is written as
an object with its names in order. It is read from an object with the names in any order, among
others that are ignored, or from an array of the values in order.
-/

namespace WarmStorage

inductive Field where
  | given (v : Json)
  | missing
  | beyond

namespace Record

def occurrences (name : String) (ms : List (Literal × Json)) : Nat :=
  ms.countP (·.1.text? == some name)

def fieldOf (ms : List (Literal × Json)) (name : String) : Field :=
  match ms.find? (·.1.text? == some name) with
  | some (_, v) => .given v
  | none => .missing

def places : Nat → List Json → List Field
  | 0, _ => []
  | count + 1, [] => .beyond :: places count []
  | count + 1, v :: vs => .given v :: places count vs

def isNamed (names : List String) (m : Literal × Json) : Bool :=
  match m.1.text? with
  | none => false
  | some name => names.contains name || m.2.isComplete

def fields? (src : Source) (names : List String) : Json → Option (List Field)
  | .object ms =>
    if ms.all (isNamed names) && names.all (occurrences · ms ≤ 1) then
      some (names.map (fieldOf ms))
    else
      none
  | .array vs =>
    if vs.length ≤ names.length || src == .toml then some (places names.length vs) else none
  | _ => none

def ofFields (names : List String) (values : List Json) : Json :=
  .ofMembers (names.zip values)

end Record

namespace Field

variable {α : Type} [Codec α]

def required? (src : Source) : Field → Option α
  | given v => Codec.decode? src v
  | _ => none

def optional? (src : Source) : Field → Option (Option α)
  | given v => Codec.decode? src v
  | missing => some none
  | beyond => none

def orElse? (src : Source) (default : α) : Field → Option α
  | given v => Codec.decode? src v
  | _ => some default

end Field

namespace Choice

def isUnit : Source → Json → Bool
  | _, .null => true
  | .buffered, .object [] => true
  | .toml, .object [] => true
  | .toml, .array [] => true
  | _, _ => false

def name? (src : Source) : Json → Option String
  | .string s => s.text?
  | .object [(k, v)] => if isUnit src v then k.text? else none
  | _ => none

def decode? {α : Type} (named : List (String × α)) (src : Source) (v : Json) : Option α := do
  let name ← name? src v
  (named.find? (·.1 == name)).map (·.2)

end Choice

end WarmStorage

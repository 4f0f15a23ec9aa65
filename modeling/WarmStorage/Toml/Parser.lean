import WarmStorage.Toml.Date
import WarmStorage.Toml.Number
import WarmStorage.Toml.Text

/-!
Reading configuration files in TOML. A text is a list of lines, each of which is empty, a pair of
a key and a value, or the header of a table; what the lines say together is in
`WarmStorage.Toml.Document`. The result is a JSON tree, in which a date is a record of its own.
-/

namespace WarmStorage.Toml

def dateValue (text : List Char) : Json :=
  .ofMembers [("$date", .ofString (String.ofList text))]

def dateOrNumber? (cs : List Char) : Option (Json × List Char) :=
  match dateTime? cs with
  | some rest => some (dateValue (cs.take (cs.length - rest.length)), rest)
  | none => number? cs

def scalar? (bound : Nat) : List Char → Option (Json × List Char)
  | 't' :: 'r' :: 'u' :: 'e' :: cs => some (.bool true, cs)
  | 'f' :: 'a' :: 'l' :: 's' :: 'e' :: cs => some (.bool false, cs)
  | c :: cs =>
    if c = '"' || c = '\'' then
      (string? bound (c :: cs)).map fun (s, cs) => (.ofString (String.ofList s), cs)
    else
      dateOrNumber? (c :: cs)
  | [] => none

section Nested

variable (element? : List Char → Option (Json × List Char))

def elements? : Nat → List Char → Option (List Json × List Char)
  | 0, _ => none
  | bound + 1, cs =>
    match skipFiller false cs with
    | ']' :: cs => some ([], cs)
    | cs => do
      let (x, cs) ← element? cs
      match skipFiller false cs with
      | ',' :: cs =>
        let (xs, cs) ← elements? bound cs
        return (x :: xs, cs)
      | ']' :: cs => return ([x], cs)
      | _ => none

def pair? (bound : Nat) (cs : List Char) : Option ((Key × Json) × List Char) := do
  let (k, cs) ← key? bound cs
  match cs with
  | '=' :: cs =>
    let (v, cs) ← element? (skipBlank cs)
    return ((k, v), cs)
  | _ => none

def pairs? : Nat → List Char → Option (List (Key × Json) × List Char)
  | 0, _ => none
  | bound + 1, cs => do
    let (p, cs) ← pair? element? bound cs
    match skipBlank cs with
    | ',' :: cs =>
      let (ps, cs) ← pairs? bound cs
      return (p :: ps, cs)
    | '}' :: cs => return ([p], cs)
    | _ => none

end Nested

def inlineTable? (ps : List (Key × Json)) : Option Json :=
  Document.ofLines? (ps.map fun (k, v) => .pair k v)

def value? (bound : Nat) : Nat → List Char → Option (Json × List Char)
  | 0, cs => scalar? bound cs
  | depth + 1, '[' :: cs =>
    (elements? (value? bound depth) bound cs).map fun (xs, cs) => (.array xs, cs)
  | depth + 1, '{' :: cs =>
    match skipBlank cs with
    | '}' :: cs => some (.object [], cs)
    | cs => do
      let (ps, cs) ← pairs? (value? bound depth) bound cs
      return (← inlineTable? ps, cs)
  | _ + 1, cs => scalar? bound cs

def header? (bound : Nat) : List Char → Option (Line × List Char)
  | '[' :: cs => do
    let (k, cs) ← key? bound cs
    match cs with
    | ']' :: ']' :: cs => return (.repeatedHeader k, cs)
    | _ => none
  | cs => do
    let (k, cs) ← key? bound cs
    match cs with
    | ']' :: cs => return (.header k, cs)
    | _ => none

def line? (bound : Nat) : List Char → Option (Line × List Char)
  | '[' :: cs => header? bound cs
  | cs => (pair? (value? bound (depthLimit - 1)) bound cs).map fun ((k, v), cs) => (.pair k v, cs)

def lines? : Nat → List Char → Option (List Line)
  | 0, _ => none
  | bound + 1, cs =>
    match skipFiller false cs with
    | [] => some []
    | cs => do
      let (l, cs) ← line? bound cs
      let ls ← lines? bound (← lineEnd? cs)
      return l :: ls

def skipEncodingMark : List Char → List Char
  | '\ufeff' :: cs => cs
  | cs => cs

def parse? (text : String) : Option Json := do
  let cs := skipEncodingMark text.toList
  Document.ofLines? (← lines? (cs.length + 1) cs)

end WarmStorage.Toml

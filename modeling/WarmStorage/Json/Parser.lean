import WarmStorage.Json.Interruption

/-!
Reading JSON texts by the grammar of the standard, without extensions: no comments, no leading
zeros, no control characters in strings, one value per text. Only lists of bytes may break off
before their closing bracket, as in `WarmStorage.Json.Interruption`, for instance behind a comma.
Functions that recurse take a bound on the length of the text that is left, and `parse?` supplies
it.
-/

namespace WarmStorage.Json

def byte? (cs : List Char) : Option (Json × List Char) :=
  match number? cs with
  | some (.natural n, cs) => if n < 256 then some (.natural n, cs) else none
  | _ => none

def interruption? (cs : List Char) : Option (List Json × List Char) := do
  match skipBlank (← afterNoByte? cs) with
  | ']' :: cs => return ([.interruption], cs)
  | _ => none

def interruptedBytes? : Nat → List Char → Option (List Json × List Char)
  | 0, _ => none
  | bound + 1, cs =>
    match byte? cs with
    | none => interruption? cs
    | some (b, cs) =>
      match skipBlank cs with
      | ',' :: cs =>
        match skipBlank cs with
        | ']' :: cs => some ([b, .interruption], cs)
        | cs => (interruptedBytes? bound cs).map fun (bs, cs) => (b :: bs, cs)
      | _ => none

mutual

def value? : Nat → List Char → Option (Json × List Char)
  | 0, _ => none
  | bound + 1, cs =>
    match skipBlank cs with
    | '"' :: cs => (string? bound cs).map fun (s, cs) => (.string s, cs)
    | '[' :: cs =>
      match skipBlank cs with
      | ']' :: cs => some (.array [], cs)
      | cs =>
        match elements? bound cs with
        | some (xs, cs) => some (.array xs, cs)
        | none => (interruptedBytes? bound cs).map fun (xs, cs) => (.array xs, cs)
    | '{' :: cs =>
      match skipBlank cs with
      | '}' :: cs => some (.object [], cs)
      | cs => (members? bound cs).map fun (ms, cs) => (.object ms, cs)
    | cs => scalar? cs

def elements? : Nat → List Char → Option (List Json × List Char)
  | 0, _ => none
  | bound + 1, cs => do
    let (x, cs) ← value? bound cs
    match skipBlank cs with
    | ',' :: cs =>
      let (xs, cs) ← elements? bound cs
      return (x :: xs, cs)
    | ']' :: cs => return ([x], cs)
    | _ => none

def members? : Nat → List Char → Option (List (Literal × Json) × List Char)
  | 0, _ => none
  | bound + 1, cs =>
    match skipBlank cs with
    | '"' :: cs => do
      let (k, cs) ← string? bound cs
      match skipBlank cs with
      | ':' :: cs =>
        let (v, cs) ← value? bound cs
        match skipBlank cs with
        | ',' :: cs =>
          let (ms, cs) ← members? bound cs
          return ((k, v) :: ms, cs)
        | '}' :: cs => return ([(k, v)], cs)
        | _ => none
      | _ => none
    | _ => none

end

def parse? (text : String) : Option Json := do
  let cs := text.toList
  let (v, rest) ← value? (cs.length + 1) cs
  if (skipBlank rest).isEmpty then some v else none

end WarmStorage.Json

import WarmStorage.Json.Basic
import WarmStorage.Text.Hex
import WarmStorage.Word

/-!
The parts of JSON texts that hold no others: blanks, strings, numbers and words. Every function
returns what it read together with the characters behind it. Those that recurse take a bound on
the length of the text that is left.
-/

namespace WarmStorage.Json

def isBlank (c : Char) : Bool :=
  c == ' ' || c == '\n' || c == '\t' || c == '\r'

def skipBlank (cs : List Char) : List Char :=
  cs.dropWhile isBlank

inductive Item where
  | char (c : Char)
  | escape (c : Char)
  | unit (n : Nat)

def shortEscape? (c : Char) : Option Char :=
  if c = '"' then some '"'
  else if c = '\\' then some '\\'
  else if c = '/' then some '/'
  else if c = 'b' then some '\x08'
  else if c = 'f' then some '\x0c'
  else if c = 'n' then some '\n'
  else if c = 'r' then some '\r'
  else if c = 't' then some '\t'
  else none

def hexUnit? : List Char → Option (Nat × List Char)
  | a :: b :: c :: d :: cs => do
    let a ← Text.Hex.value? a
    let b ← Text.Hex.value? b
    let c ← Text.Hex.value? c
    let d ← Text.Hex.value? d
    return (((a * 16 + b) * 16 + c) * 16 + d, cs)
  | _ => none

def item? : List Char → Option (Item × List Char)
  | [] => none
  | c :: cs =>
    if c = '\\' then
      match cs with
      | [] => none
      | e :: cs =>
        if e = 'u' then (hexUnit? cs).map fun (n, cs) => (.unit n, cs)
        else (shortEscape? e).map fun e => (.escape e, cs)
    else if Literal.isPlain c then some (.char c, cs)
    else none

def items? : Nat → List Char → Option (List Item × List Char)
  | 0, _ => none
  | bound + 1, cs =>
    match cs with
    | '"' :: cs => some ([], cs)
    | cs => do
      let (i, cs) ← item? cs
      let (is, cs) ← items? bound cs
      return (i :: is, cs)

def isLeading (n : Nat) : Bool :=
  0xd800 ≤ n && n < 0xdc00

def isTrailing (n : Nat) : Bool :=
  0xdc00 ≤ n && n < 0xe000

def joinUnits? : List Item → Option (List Char)
  | [] => some []
  | .char c :: is => (joinUnits? is).map (c :: ·)
  | .escape c :: is => (joinUnits? is).map (c :: ·)
  | .unit hi :: is =>
    if isLeading hi then
      match is with
      | .unit lo :: is =>
        if isTrailing lo then
          (joinUnits? is).map
            (Char.ofNat (0x10000 + (hi - 0xd800) * 0x400 + (lo - 0xdc00)) :: ·)
        else none
      | _ => none
    else if isTrailing hi then none
    else (joinUnits? is).map (Char.ofNat hi :: ·)

def Item.isChar : Item → Bool
  | .char _ => true
  | _ => false

def endsUnpaired (is : List Item) : Bool :=
  match is.getLast? with
  | some (.unit n) => isLeading n && (joinUnits? is.dropLast).isSome
  | _ => false

def literal (is : List Item) : Literal :=
  match joinUnits? is with
  | none => .unpaired (endsUnpaired is)
  | some cs => if is.all Item.isChar then .plain (String.ofList cs) else .escaped (String.ofList cs)

def string? (bound : Nat) (cs : List Char) : Option (Literal × List Char) := do
  let (is, cs) ← items? bound cs
  return (literal is, cs)

def spanDigits (cs : List Char) : List Char × List Char :=
  cs.span Char.isDigit

def wholePart? (cs : List Char) : Option (List Char × List Char) :=
  match spanDigits cs with
  | ([], _) => none
  | ('0' :: _ :: _, _) => none
  | (ds, cs) => some (ds, cs)

def fraction? : List Char → Option (List Char × List Char)
  | '.' :: cs =>
    match spanDigits cs with
    | ([], _) => none
    | (ds, cs) => some ('.' :: ds, cs)
  | cs => some ([], cs)

def exponentDigits? (mark : Char) : List Char → Option (List Char × List Char)
  | c :: cs =>
    if c = '+' || c = '-' then
      match spanDigits cs with
      | ([], _) => none
      | (ds, cs) => some (mark :: c :: ds, cs)
    else
      match spanDigits (c :: cs) with
      | ([], _) => none
      | (ds, cs) => some (mark :: ds, cs)
  | [] => none

def exponent? : List Char → Option (List Char × List Char)
  | c :: cs => if c = 'e' || c = 'E' then exponentDigits? c cs else some ([], c :: cs)
  | [] => some ([], [])

def unsigned? (cs : List Char) : Option ((List Char × Bool) × List Char) := do
  let (whole, cs) ← wholePart? cs
  let (frac, cs) ← fraction? cs
  let (exp, cs) ← exponent? cs
  return ((whole ++ frac ++ exp, frac.isEmpty && exp.isEmpty), cs)

def ofDigits (text : List Char) : Json :=
  match Word.fit? (Nat.ofDigitChars 10 text 0) with
  | some n => .natural n
  | none => .numeral (String.ofList text)

def number? : List Char → Option (Json × List Char)
  | '-' :: cs => (unsigned? cs).map fun ((text, _), cs) =>
    (.numeral (String.ofList ('-' :: text)), cs)
  | cs => (unsigned? cs).map fun ((text, digitsOnly), cs) =>
    (if digitsOnly then ofDigits text else .numeral (String.ofList text), cs)

def scalar? : List Char → Option (Json × List Char)
  | 'n' :: 'u' :: 'l' :: 'l' :: cs => some (.null, cs)
  | 't' :: 'r' :: 'u' :: 'e' :: cs => some (.bool true, cs)
  | 'f' :: 'a' :: 'l' :: 's' :: 'e' :: cs => some (.bool false, cs)
  | cs => number? cs

end WarmStorage.Json

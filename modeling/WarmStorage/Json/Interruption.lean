import WarmStorage.Json.Scanner
import WarmStorage.Text.Slice

/-!
Where reading a byte stops if there is none. A list of bytes may break off: when something else
stands in the place of its last element, it ends there, provided that its closing bracket stands
where reading stopped. What is behind the brackets of another list or of an object is not read at
all; a number, a string or a word is read to its end, or up to the first byte that is wrong in it.
-/

namespace WarmStorage.Json

def dropByte? (cs : List Char) : Option (List Char) :=
  Text.dropBytes? 1 cs

def afterWord? : List Char → List Char → Option (List Char)
  | [], cs => some cs
  | _ :: _, [] => none
  | w :: ws, c :: cs => if c = w then afterWord? ws cs else dropByte? (c :: cs)

def dropExponent (n : Nat) : List Char → List Char
  | [] => []
  | c :: cs =>
    if c.isDigit then
      let n := 10 * n + (c.toNat - '0'.toNat)
      if 0x7fffffff < n then cs else dropExponent n cs
    else c :: cs

def afterExponent? (isZero : Bool) (cs : List Char) : Option (List Char) :=
  let (isNegative, cs) := match cs with
    | '+' :: cs => (false, cs)
    | '-' :: cs => (true, cs)
    | cs => (false, cs)
  match cs with
  | [] => none
  | c :: cs =>
    if c.isDigit then
      some (if isZero || isNegative then cs.dropWhile Char.isDigit else dropExponent 0 (c :: cs))
    else dropByte? (c :: cs)

def afterMantissa? (digits : List Char) : List Char → Option (List Char)
  | [] => some []
  | c :: cs =>
    if c = 'e' || c = 'E' then afterExponent? (digits.all (· == '0')) cs else some (c :: cs)

def afterWhole? (whole : List Char) : List Char → Option (List Char)
  | '.' :: cs =>
    match spanDigits cs with
    | ([], cs) => some cs
    | (frac, cs) => afterMantissa? (whole ++ frac) cs
  | cs => afterMantissa? whole cs

def afterNumber? : List Char → Option (List Char)
  | [] => none
  | c :: cs =>
    if c = '0' then
      if (cs.head?.any Char.isDigit) then some cs else afterWhole? ['0'] cs
    else
      match spanDigits (c :: cs) with
      | ([], cs) => dropByte? cs
      | (whole, cs) => afterWhole? whole cs

def unit? (cs : List Char) : Option (Option Nat × List Char) :=
  match hexUnit? cs with
  | some (n, cs) => some (some n, cs)
  | none => (Text.dropBytes? 4 cs).map (none, ·)

abbrev Continuation := Option (Bool × List Char)

def stopBehind (cs : List Char) : Continuation :=
  (dropByte? cs).map (false, ·)

def afterLeading? : List Char → Continuation
  | '\\' :: 'u' :: cs => (unit? cs).map fun (n, cs) => (n.any isTrailing, cs)
  | '\\' :: cs => stopBehind cs
  | cs => stopBehind cs

def afterUnit? (cs : List Char) : Continuation :=
  match unit? cs with
  | none => none
  | some (none, cs) => some (false, cs)
  | some (some n, cs) =>
    if isTrailing n then some (false, cs)
    else if isLeading n then afterLeading? cs
    else some (true, cs)

def afterEscape? : List Char → Continuation
  | [] => none
  | c :: cs =>
    if c = 'u' then afterUnit? cs
    else if (shortEscape? c).isSome then some (true, cs)
    else stopBehind (c :: cs)

def afterString? : Nat → List Char → Option (List Char)
  | 0, _ => none
  | _ + 1, [] => none
  | bound + 1, c :: cs =>
    if c = '"' then some cs
    else if c = '\\' then
      match afterEscape? cs with
      | none => none
      | some (true, cs) => afterString? bound cs
      | some (false, cs) => some cs
    else if c < ' ' then some cs
    else afterString? bound cs

def afterNoByte? : List Char → Option (List Char)
  | [] => none
  | c :: cs =>
    if c = '"' then afterString? (cs.length + 1) cs
    else if c = '-' then afterNumber? cs
    else if c.isDigit then afterNumber? (c :: cs)
    else if c = 'n' then afterWord? ['u', 'l', 'l'] cs
    else if c = 't' then afterWord? ['r', 'u', 'e'] cs
    else if c = 'f' then afterWord? ['a', 'l', 's', 'e'] cs
    else none

end WarmStorage.Json

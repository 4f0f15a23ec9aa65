import WarmStorage.Json.Basic
import WarmStorage.Text.Hex

/-!
Numbers of configuration files. Integers are written in base ten, or behind a mark in base
sixteen, eight or two, and have 64 bits with a sign. Other numbers are read for their form alone,
except that none may be too large for double precision: nothing in a configuration is a fraction.
Single underscores may stand between digits.
-/

namespace WarmStorage.Toml

def isDigitIn (base : Nat) (c : Char) : Bool :=
  (Text.Hex.value? c).any (· < base)

def moreDigits (base : Nat) : List Char → List Char × List Char
  | '_' :: c :: cs =>
    if isDigitIn base c then
      let (ds, cs) := moreDigits base cs
      (c :: ds, cs)
    else
      ([], '_' :: c :: cs)
  | c :: cs =>
    if isDigitIn base c then
      let (ds, cs) := moreDigits base cs
      (c :: ds, cs)
    else
      ([], c :: cs)
  | [] => ([], [])

def digits? (base : Nat) : List Char → Option (List Char × List Char)
  | c :: cs =>
    if isDigitIn base c then
      let (ds, cs) := moreDigits base cs
      some (c :: ds, cs)
    else
      none
  | [] => none

def valueOf (base : Nat) (ds : List Char) : Nat :=
  ds.foldl (fun n d => base * n + (Text.Hex.value? d).getD 0) 0

def integer? (n : Int) : Option Json :=
  if n < Int64.minValue.toInt || Int64.maxValue.toInt < n then none
  else if n < 0 then some (.numeral (toString n))
  else some (.natural (UInt64.ofNat n.toNat))

def doubleLimit : Nat :=
  (1 <<< 1024) - (1 <<< 970)

def exceedsDouble (m : Nat) (e : Int) : Bool :=
  if m = 0 then false
  else if 400 < e then true
  else if 0 ≤ e then doubleLimit ≤ m * Nat.pow 10 e.toNat
  else if (Nat.toDigits 10 m).length ≤ -e then false
  else doubleLimit * Nat.pow 10 (-e).toNat ≤ m

def splitSign : List Char → Bool × List Char
  | '+' :: cs => (false, cs)
  | '-' :: cs => (true, cs)
  | cs => (false, cs)

def wholePart? : List Char → Option (List Char × List Char)
  | '0' :: cs => some (['0'], cs)
  | cs => digits? 10 cs

def fraction? : List Char → Option (List Char × List Char)
  | '.' :: cs => digits? 10 cs
  | cs => some ([], cs)

def exponent? : List Char → Option (Option Int × List Char)
  | c :: cs =>
    if c = 'e' || c = 'E' then do
      let (negative, cs) := splitSign cs
      let (ds, cs) ← digits? 10 cs
      let n := valueOf 10 ds
      return (some (if negative then -(n : Int) else n), cs)
    else
      some (none, c :: cs)
  | [] => some (none, [])

def fractional? (negative : Bool) (whole frac : List Char) (exp : Int) : Option Json :=
  let digits := whole ++ frac
  if !negative && exceedsDouble (valueOf 10 digits) (exp - frac.length) then none
  else
    let sign := if negative then "-" else ""
    some (.numeral s!"{sign}{String.ofList digits}e{exp - frac.length}")

def decimal? (negative : Bool) (cs : List Char) : Option (Json × List Char) := do
  let (whole, cs) ← wholePart? cs
  let (frac, cs) ← fraction? cs
  let (exp, cs) ← exponent? cs
  if frac.isEmpty && exp.isNone then
    let n := valueOf 10 whole
    return (← integer? (if negative then -(n : Int) else n), cs)
  else
    return (← fractional? negative whole frac (exp.getD 0), cs)

def marked? (base : Nat) (cs : List Char) : Option (Json × List Char) := do
  let (ds, cs) ← digits? base cs
  return (← integer? (valueOf base ds), cs)

def unsigned? (negative : Bool) : List Char → Option (Json × List Char)
  | 'i' :: 'n' :: 'f' :: cs => some (.numeral "inf", cs)
  | 'n' :: 'a' :: 'n' :: cs => some (.numeral "nan", cs)
  | cs => decimal? negative cs

def number? : List Char → Option (Json × List Char)
  | '0' :: 'x' :: cs => marked? 16 cs
  | '0' :: 'o' :: cs => marked? 8 cs
  | '0' :: 'b' :: cs => marked? 2 cs
  | cs =>
    let (negative, cs) := splitSign cs
    unsigned? negative cs

end WarmStorage.Toml

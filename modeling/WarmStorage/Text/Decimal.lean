import WarmStorage.Word

/-!
Numbers in base ten as people write them: with or without a sign, a point and an exponent. Infinity
and what is no number have names. Numbers of 64 bits are written by their digits alone, in front of
which a plus sign and zeros may stand.
-/

namespace WarmStorage.Text.Decimal

def dropSign : List Char → List Char
  | '+' :: cs => cs
  | '-' :: cs => cs
  | cs => cs

def fraction : List Char → List Char × List Char
  | '.' :: cs => cs.span Char.isDigit
  | cs => ([], cs)

def isExponent : List Char → Bool
  | [] => true
  | c :: cs =>
    let digits := dropSign cs
    (c == 'e' || c == 'E') && !digits.isEmpty && digits.all Char.isDigit

def isFinite (cs : List Char) : Bool :=
  let (whole, cs) := cs.span Char.isDigit
  let (frac, cs) := fraction cs
  !(whole.isEmpty && frac.isEmpty) && isExponent cs

def isNamed (cs : List Char) : Bool :=
  ["inf", "infinity", "nan"].contains (String.ofList (cs.map Char.toLower))

def isNumber (cs : List Char) : Bool :=
  let cs := dropSign cs
  isNamed cs || isFinite cs

end WarmStorage.Text.Decimal

namespace WarmStorage.Text.Natural

def ofDigits? (cs : List Char) : Option UInt64 :=
  if !cs.isEmpty && cs.all Char.isDigit then Word.fit? (Nat.ofDigitChars 10 cs 0) else none

def read? (s : String) : Option UInt64 :=
  match s.toList with
  | '+' :: cs => ofDigits? cs
  | cs => ofDigits? cs

end WarmStorage.Text.Natural

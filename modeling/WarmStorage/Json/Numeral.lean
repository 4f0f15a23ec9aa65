/-!
Whether numerals are in the range of double precision. The significant digits of a numeral are
taken as long as they fit in 64 bits, and multiplied by a power of ten; both are rounded before, so
that the range ends a little earlier or later than that of the number that is written.
-/

namespace WarmStorage.Json.Numeral

structure Parts where
  whole : List Char
  fraction : List Char
  exponent : Int

def exponentOf : List Char → Int
  | '-' :: ds => -(Nat.ofDigitChars 10 ds 0 : Int)
  | '+' :: ds => (Nat.ofDigitChars 10 ds 0 : Int)
  | ds => (Nat.ofDigitChars 10 ds 0 : Int)

def isExponentMark (c : Char) : Bool :=
  c == 'e' || c == 'E'

def parts (cs : List Char) : Parts :=
  let (mantissa, exponent) := cs.span (!isExponentMark ·)
  let (whole, fraction) := mantissa.span (· != '.')
  ⟨whole, fraction.drop 1, exponentOf (exponent.drop 1)⟩

def append (n : Nat) : List Char → Nat × List Char
  | [] => (n, [])
  | d :: ds =>
    let m := 10 * n + (d.toNat - '0'.toNat)
    if m < UInt64.size then append m ds else (n, d :: ds)

/-- The number with 53 significant bits that is nearest to `n`; of two the even one. -/
def round (n : Nat) : Nat :=
  let spare := n.log2 - 52
  let half := (1 <<< spare) / 2
  let high := n >>> spare
  let low := n - (high <<< spare)
  let up := half < low || (low = half && 0 < half && high % 2 = 1)
  (if up then high + 1 else high) <<< spare

def limit : Nat :=
  (1 <<< 1024) - (1 <<< 970)

def isInRange (n : Nat) (exponent : Int) : Bool :=
  n == 0 || exponent < 0 ||
    (exponent ≤ 308 && round n * round (Nat.pow 10 exponent.toNat) < limit)

def isFinite (text : String) : Bool :=
  let p := parts (text.toList.dropWhile (· == '-'))
  let (n, beyond) := append 0 p.whole
  let (n, rest) := append n p.fraction
  isInRange n (p.exponent + beyond.length - (p.fraction.length - rest.length))

end WarmStorage.Json.Numeral

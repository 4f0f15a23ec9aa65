/-!
Dates and times of configuration files: a date, a time of day, or a date and a time with or
without the distance to universal time. Nothing in a configuration is a date, so that what is read
is only whether one stands there, and what stands behind it.
-/

namespace WarmStorage.Toml

def fixedDigits? (count : Nat) (cs : List Char) : Option (Nat × List Char) :=
  let ds := cs.take count
  if ds.length = count && ds.all Char.isDigit then
    some (Nat.ofDigitChars 10 ds 0, cs.drop count)
  else
    none

def twoDigits? (least most : Nat) (cs : List Char) : Option (Nat × List Char) :=
  (fixedDigits? 2 cs).filter fun (n, _) => least ≤ n && n ≤ most

def mark? (mark : Char) : List Char → Option (List Char)
  | c :: cs => if c = mark then some cs else none
  | [] => none

def isLeapYear (year : Nat) : Bool :=
  year % 4 == 0 && (year % 100 != 0 || year % 400 == 0)

def daysInMonth (year month : Nat) : Nat :=
  if month = 2 then
    if isLeapYear year then 29 else 28
  else if [4, 6, 9, 11].contains month then 30
  else 31

def date? (cs : List Char) : Option (List Char) := do
  let (year, cs) ← fixedDigits? 4 cs
  let cs ← mark? '-' cs
  let (month, cs) ← twoDigits? 1 12 cs
  let cs ← mark? '-' cs
  let (_, cs) ← twoDigits? 1 (daysInMonth year month) cs
  return cs

def secondFraction? : List Char → Option (List Char)
  | '.' :: c :: cs => if c.isDigit then some (cs.dropWhile Char.isDigit) else none
  | '.' :: [] => none
  | cs => some cs

def time? (cs : List Char) : Option (List Char) := do
  let (_, cs) ← twoDigits? 0 23 cs
  let cs ← mark? ':' cs
  let (_, cs) ← twoDigits? 0 59 cs
  let cs ← mark? ':' cs
  let (_, cs) ← twoDigits? 0 60 cs
  secondFraction? cs

def offset? : List Char → Option (List Char)
  | c :: cs =>
    if c = 'Z' || c = 'z' then some cs
    else if c = '+' || c = '-' then do
      let (_, cs) ← twoDigits? 0 23 cs
      let cs ← mark? ':' cs
      let (_, cs) ← twoDigits? 0 59 cs
      return cs
    else some (c :: cs)
  | [] => some []

def isTimeMark (c : Char) : Bool :=
  c == 'T' || c == 't' || c == ' '

def timeOfDate? : List Char → Option (List Char)
  | c :: cs =>
    if isTimeMark c then
      match time? cs with
      | some cs => offset? cs
      | none => some (c :: cs)
    else
      some (c :: cs)
  | [] => some []

def dateTime? (cs : List Char) : Option (List Char) :=
  match date? cs with
  | some cs => timeOfDate? cs
  | none => time? cs

end WarmStorage.Toml

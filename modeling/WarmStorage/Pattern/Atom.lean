import WarmStorage.Pattern.Basic
import WarmStorage.Text.Hex

/-!
Atoms of patterns. A backslash takes the meaning from a mark, and gives one to a letter.
-/

namespace WarmStorage.Pattern

def hexDigits? (m : Modes) : Nat → Nat → List Char → Option (Nat × List Char)
  | 0, n, cs => some (n, cs)
  | count + 1, n, cs =>
    match m.skip cs with
    | [] => none
    | c :: cs => do hexDigits? m count (16 * n + (← Text.Hex.value? c)) cs

def codePoint? (m : Modes) (count : Nat) (cs : List Char) : Option (Atom × List Char) := do
  let (n, cs) ← hexDigits? m count 0 cs
  if n.isValidChar then some (.literal (Char.ofNat n) (count == 2), cs) else none

def control? (c : Char) : Option Char :=
  if c = 'a' then some '\x07'
  else if c = 't' then some '\t'
  else if c = 'n' then some '\n'
  else if c = 'v' then some '\x0b'
  else if c = 'f' then some '\x0c'
  else if c = 'r' then some '\r'
  else none

def named? (c : Char) : Option Atom :=
  if ['d', 's', 'w'].contains c then some (.category false)
  else if ['D', 'S', 'W'].contains c then some (.category true)
  else if ['A', 'z'].contains c then some .boundary
  else if ['b', 'B', '<', '>'].contains c then some .wordBoundary
  else if c.toNat < 0x80 && !c.isAlphanum then some (.literal c false)
  else (control? c).map (.literal · false)

def escape? (m : Modes) (c : Char) (cs : List Char) : Option (Atom × List Char) :=
  if c = 'x' then codePoint? m 2 cs
  else if c = 'u' then codePoint? m 4 cs
  else if c = 'U' then codePoint? m 8 cs
  else if c = 'b' && cs.head? == some '\x7b' then none
  else (named? c).map (·, cs)

def atom? (m : Modes) (c : Char) (cs : List Char) : Option (Atom × List Char) :=
  if c = '\\' then
    match cs with
    | [] => none
    | c :: cs => escape? m c cs
  else if c = '.' then some (.any, cs)
  else if c = '^' || c = '$' then some (.boundary, cs)
  else if c = '\x7b' then none
  else some (.literal c false, cs)

end WarmStorage.Pattern

import WarmStorage.Pattern.Basic
import WarmStorage.Text.Alphanumeric

/-!
What may stand behind the opening parenthesis of a pattern: nothing, a name, or changes of the
modes, which hold for the group, or for what follows if there is no group.
-/

namespace WarmStorage.Pattern

def isNameChar (isFirst : Bool) (c : Char) : Bool :=
  if isFirst then c == '_' || Text.isAlphabetic c
  else ['_', '.', '[', ']'].contains c || Text.isAlphanumeric c

def isName : List Char → Bool
  | [] => false
  | c :: cs => isNameChar true c && cs.all (isNameChar false)

def name? (cs : List Char) : Option (List Char × List Char) :=
  match cs.span (· != '>') with
  | (name, '>' :: cs) => if isName name then some (name, cs) else none
  | _ => none

def Modes.change (m : Modes) (letter : Char) (value : Bool) : Modes :=
  if letter = 'i' then { m with caseless := value }
  else if letter = 'u' then { m with unicode := value }
  else if letter = 'x' then { m with spaced := value }
  else m

def modeLetters : List Char :=
  ['i', 'm', 's', 'U', 'u', 'R', 'x']

/--
Changes of modes up to the mark that ends them. A hyphen stands in front of the modes that are
cleared; it and every letter may stand there once, and behind the hyphen there is a letter.
-/
def changes? (m : Modes) (seen : List Char) : List Char → Option (Modes × List Char × List Char)
  | [] => none
  | c :: cs =>
    if c = ':' || c = ')' then
      if seen.head? = some '-' then none else some (m, seen, c :: cs)
    else if seen.contains c then none
    else if c = '-' then changes? m (c :: seen) cs
    else if modeLetters.contains c then
      changes? (m.change c (!seen.contains '-')) (c :: seen) cs
    else none

inductive Opening where
  | group (modes : Modes) (name : Option (List Char))
  | change (modes : Modes)
deriving DecidableEq, Repr

def opening? (m : Modes) : List Char → Option (Opening × List Char)
  | '?' :: 'P' :: '<' :: cs => (name? cs).map fun (name, cs) => (.group m (some name), cs)
  | '?' :: '<' :: cs => (name? cs).map fun (name, cs) => (.group m (some name), cs)
  | '?' :: cs =>
    match changes? m [] cs with
    | some (m, _, ':' :: cs) => some (.group m none, cs)
    | some (m, _ :: _, ')' :: cs) => some (.change m, cs)
    | _ => none
  | cs => some (.group m none, cs)

end WarmStorage.Pattern

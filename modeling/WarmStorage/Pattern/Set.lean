import WarmStorage.Pattern.Atom

/-!
Sets of characters in patterns. A set is in brackets and holds characters, ranges of characters,
named classes of ASCII and other sets; between operands there may be the marks of intersection and
difference. A set whose first mark is a circumflex holds all other characters, which is more than
ASCII and so cannot be had among bytes. The functions give the depth of what they read.
-/

namespace WarmStorage.Pattern

def member? (m : Modes) : List Char → Option (Atom × List Char)
  | [] => none
  | c :: cs =>
    if c = '\\' then
      match cs with
      | [] => none
      | c :: cs => escape? m c cs
    else some (.literal c false, cs)

def isRange : Atom → Atom → Bool
  | .literal a _, .literal b _ => a ≤ b
  | _, _ => false

/-- What stands behind a member or a range. A hyphen in front of a bracket is a member. -/
def afterMember? (m : Modes) (cs : List Char) : Option (List Char) := do
  let (first, cs) ← member? m cs
  guard (first.isMember m)
  match m.skip cs with
  | [] => none
  | '-' :: rest =>
    if [some ']', some '-'].contains (m.peek rest) then
      some ('-' :: rest)
    else
      let (last, rest) ← member? m (m.skip rest)
      guard (last.isMember m && isRange first last)
      some rest
  | cs => some cs

def classNames : List String :=
  ["alnum", "alpha", "ascii", "blank", "cntrl", "digit", "graph", "lower", "print", "punct",
   "space", "upper", "word", "xdigit"]

def namedClass? : List Char → Option (Bool × List Char)
  | ':' :: cs =>
    let (negated, cs) := match cs with
      | '^' :: cs => (true, cs)
      | cs => (false, cs)
    match cs.span (· != ':') with
    | (name, ':' :: ']' :: cs) =>
      if classNames.contains (String.ofList name) then some (negated, cs) else none
    | _ => none
  | _ => none

def isClassUsable (m : Modes) (negated : Bool) : Bool :=
  if m.unicode then !m.caseless else !negated

def spanHyphens (m : Modes) : Nat → List Char → Nat × List Char
  | 0, cs => (0, cs)
  | bound + 1, cs =>
    match cs with
    | '-' :: rest =>
      let (count, rest) := spanHyphens m bound (m.skip rest)
      (count + 1, rest)
    | cs => (0, cs)

/--
The beginning of a set behind its bracket: whether it is negated, how many members stand in front,
and what stands behind them. Hyphens in front are members, and so is a closing bracket in front.
-/
def setOpening (m : Modes) (cs : List Char) : Bool × Nat × List Char :=
  let (negated, cs) := match m.skip cs with
    | '^' :: cs => (true, m.skip cs)
    | cs => (false, cs)
  match spanHyphens m cs.length cs with
  | (0, ']' :: cs) => (negated, 1, cs)
  | (count, cs) => (negated, count, cs)

def isOpeningUsable (m : Modes) (negated : Bool) (count : Nat) : Bool :=
  (m.unicode || !negated) && (count == 0 || (Atom.literal '-' false).isMember m)

def operationDepth (left : Option Nat) (right : Nat) : Nat :=
  match left with
  | none => right
  | some left => max left right + 1

def set? (m : Modes) : Nat → Option Nat → List Nat → List Char → Option (Nat × List Char)
  | 0, _, _, _ => none
  | bound + 1, left, items, cs =>
    let depth := operationDepth left (depthOf items)
    match m.skip cs with
    | [] => none
    | ']' :: cs => some (depth, cs)
    | '&' :: '&' :: cs => set? m bound (some depth) [] cs
    | '-' :: '-' :: cs => set? m bound (some depth) [] cs
    | '~' :: '~' :: cs => set? m bound (some depth) [] cs
    | '[' :: cs =>
      match namedClass? cs with
      | some (negated, cs) =>
        if isClassUsable m negated then set? m bound left (0 :: items) cs else none
      | none => do
        let (negated, count, cs) := setOpening m cs
        guard (isOpeningUsable m negated count && !(negated && m.caseless))
        let (inner, cs) ← set? m bound none (List.replicate count 0) cs
        set? m bound left ((inner + 1) :: items) cs
    | cs => do set? m bound left (0 :: items) (← afterMember? m cs)

def bracketed? (m : Modes) (cs : List Char) : Option (Nat × List Char) := do
  let (negated, count, cs) := setOpening m cs
  guard (isOpeningUsable m negated count)
  let (depth, cs) ← set? m (cs.length + 1) none (List.replicate count 0) cs
  return (depth + 1, cs)

end WarmStorage.Pattern

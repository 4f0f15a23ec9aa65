import WarmStorage.Pattern.Group
import WarmStorage.Pattern.Set

/-!
Whether a pattern can be used. A pattern is a choice of sequences of parts; a part is an atom, a set
or a group, and may be repeated.
-/

namespace WarmStorage.Pattern

structure Progress where
  modes : Modes := {}
  names : List (List Char) := []
  seesWords : Bool := false
deriving DecidableEq, Repr

namespace Progress

def enter? (p : Progress) (modes : Modes) : Option (List Char) → Option Progress
  | none => some { p with modes := modes }
  | some name =>
    if p.names.contains name then none
    else some { p with modes := modes, names := name :: p.names }

def see (p : Progress) (a : Atom) : Progress :=
  { p with seesWords := p.seesWords || (p.modes.unicode && a == .wordBoundary) }

end Progress

def dropLazy : List Char → List Char
  | '?' :: cs => cs
  | cs => cs

def sequenceDepth (parts : List (Option Nat)) : Nat :=
  depthOf (parts.map (·.getD 0))

/--
The rest of a choice up to a closing parenthesis or the end, with its depth: `branches` are the
depths of the sequences that were read, `parts` those of the parts of the current sequence, the
last one first.
-/
def choice? : Nat → Progress → List Nat → List (Option Nat) → List Char →
    Option (Nat × Progress × List Char)
  | 0, _, _, _, _ => none
  | bound + 1, p, branches, parts, cs =>
    let branches' := sequenceDepth parts :: branches
    match p.modes.skip cs with
    | [] => some (depthOf branches', p, [])
    | c :: cs =>
      if c = ')' then some (depthOf branches', p, c :: cs)
      else if c = '|' then choice? bound p branches' [] cs
      else if c = '*' || c = '+' || c = '?' then
        match parts with
        | some d :: parts => choice? bound p branches (some (d + 1) :: parts) (dropLazy cs)
        | _ => none
      else if c = '(' then
        match opening? p.modes (p.modes.skip cs) with
        | none => none
        | some (.change modes, cs) => choice? bound { p with modes } branches (none :: parts) cs
        | some (.group modes name, cs) => do
          let q ← p.enter? modes name
          match ← choice? bound q [] [] cs with
          | (d, q, ')' :: cs) =>
            choice? bound { q with modes := p.modes } branches (some (d + 1) :: parts) cs
          | _ => none
      else if c = '[' then do
        let (d, cs) ← bracketed? p.modes cs
        choice? bound p branches (some d :: parts) cs
      else do
        let (a, cs) ← atom? p.modes c cs
        guard (a.isUsable p.modes)
        choice? bound (p.see a) branches (some 0 :: parts) cs

def check (cs : List Char) : Except PatternError Unit :=
  match choice? (cs.length + 1) {} [] [] cs with
  | some (depth, p, []) =>
    if maxDepth < depth then .error .malformed
    else if p.seesWords then .error .wordBoundary
    else .ok ()
  | _ => .error .malformed

end WarmStorage.Pattern

import WarmStorage.Text.Hex
import WarmStorage.Toml.Document

/-!
The text of configuration files below the level of values: blanks, comments, ends of lines,
strings and keys. Every function returns what it read together with the characters behind it.
Those that recurse over escapes take a bound on the length of the text that is left.
-/

namespace WarmStorage.Toml

def isBlank (c : Char) : Bool :=
  c == ' ' || c == '\t'

def skipBlank (cs : List Char) : List Char :=
  cs.dropWhile isBlank

def isAllowed (c : Char) : Bool :=
  c == '\t' || (' ' ≤ c && c != '\x7f')

def newline? : List Char → Option (List Char)
  | '\n' :: cs => some cs
  | '\r' :: '\n' :: cs => some cs
  | _ => none

def skipComment : List Char → List Char
  | '#' :: cs => cs.dropWhile isAllowed
  | cs => cs

def lineEnd? (cs : List Char) : Option (List Char) :=
  match skipComment (skipBlank cs) with
  | [] => some []
  | cs => newline? cs

def skipEmpty : List Char → List Char
  | '\r' :: '\n' :: cs => skipEmpty cs
  | c :: cs => if isBlank c || c == '\n' then skipEmpty cs else c :: cs
  | [] => []

def skipFiller (inside : Bool) : List Char → List Char
  | '\r' :: '\n' :: cs => skipFiller false cs
  | c :: cs =>
    if c = '\n' then skipFiller false cs
    else if inside then
      if isAllowed c then skipFiller true cs else c :: cs
    else if isBlank c then skipFiller false cs
    else if c = '#' then skipFiller true cs
    else c :: cs
  | [] => []

def shortEscape? (c : Char) : Option Char :=
  if c = '"' then some '"'
  else if c = '\\' then some '\\'
  else if c = 'b' then some '\x08'
  else if c = 'f' then some '\x0c'
  else if c = 'n' then some '\n'
  else if c = 'r' then some '\r'
  else if c = 't' then some '\t'
  else none

def codePoint? (count : Nat) (cs : List Char) : Option (Char × List Char) := do
  let ds ← (cs.take count).mapM Text.Hex.value?
  let n := ds.foldl (fun n d => 16 * n + d) 0
  if ds.length = count && n.isValidChar then some (.ofNat n, cs.drop count) else none

def escape? : List Char → Option (Char × List Char)
  | 'u' :: cs => codePoint? 4 cs
  | 'U' :: cs => codePoint? 8 cs
  | c :: cs => (shortEscape? c).map (·, cs)
  | [] => none

def basic? : Nat → List Char → Option (List Char × List Char)
  | 0, _ => none
  | bound + 1, cs =>
    match cs with
    | '"' :: cs => some ([], cs)
    | '\\' :: cs => do
      let (c, cs) ← escape? cs
      let (s, cs) ← basic? bound cs
      return (c :: s, cs)
    | c :: cs =>
      if isAllowed c then (basic? bound cs).map fun (s, cs) => (c :: s, cs) else none
    | [] => none

def literal? (cs : List Char) : Option (List Char × List Char) :=
  match cs.span fun c => isAllowed c && c != '\'' with
  | (s, '\'' :: cs) => some (s, cs)
  | _ => none

def lastQuotes (quote : Char) : List Char → List Char × List Char
  | a :: b :: cs =>
    if a = quote && b = quote then ([a, b], cs)
    else if a = quote then ([a], b :: cs)
    else ([], a :: b :: cs)
  | [a] => if a = quote then ([a], []) else ([], [a])
  | [] => ([], [])

def joined? (cs : List Char) : Option (List Char) :=
  (newline? (skipBlank cs)).map skipEmpty

def basicLines? : Nat → List Char → Option (List Char × List Char)
  | 0, _ => none
  | bound + 1, cs =>
    match cs with
    | '"' :: '"' :: '"' :: cs => some (lastQuotes '"' cs)
    | '\\' :: cs =>
      match joined? cs with
      | some cs => basicLines? bound cs
      | none => do
        let (c, cs) ← escape? cs
        let (s, cs) ← basicLines? bound cs
        return (c :: s, cs)
    | '\r' :: '\n' :: cs => (basicLines? bound cs).map fun (s, cs) => ('\n' :: s, cs)
    | c :: cs =>
      if isAllowed c || c == '\n' then (basicLines? bound cs).map fun (s, cs) => (c :: s, cs)
      else none
    | [] => none

def literalLines? : List Char → Option (List Char × List Char)
  | '\'' :: '\'' :: '\'' :: cs => some (lastQuotes '\'' cs)
  | '\r' :: '\n' :: cs => (literalLines? cs).map fun (s, cs) => ('\n' :: s, cs)
  | c :: cs =>
    if isAllowed c || c == '\n' then (literalLines? cs).map fun (s, cs) => (c :: s, cs) else none
  | [] => none

def skipFirstNewline (cs : List Char) : List Char :=
  (newline? cs).getD cs

def string? (bound : Nat) : List Char → Option (List Char × List Char)
  | '"' :: '"' :: '"' :: cs => basicLines? bound (skipFirstNewline cs)
  | '"' :: cs => basic? bound cs
  | '\'' :: '\'' :: '\'' :: cs => literalLines? (skipFirstNewline cs)
  | '\'' :: cs => literal? cs
  | _ => none

def isBare (c : Char) : Bool :=
  c.isAlphanum || c == '_' || c == '-'

def keyPart? (bound : Nat) : List Char → Option (List Char × List Char)
  | '"' :: cs => basic? bound cs
  | '\'' :: cs => literal? cs
  | cs =>
    match cs.span isBare with
    | ([], _) => none
    | (k, cs) => some (k, cs)

def keyParts? : Nat → List Char → Option (List String × List Char)
  | 0, _ => none
  | bound + 1, cs => do
    let (k, cs) ← keyPart? bound (skipBlank cs)
    match skipBlank cs with
    | '.' :: cs =>
      let (ks, cs) ← keyParts? bound cs
      return (String.ofList k :: ks, cs)
    | cs => return ([String.ofList k], cs)

def depthLimit : Nat := 80

def key? (bound : Nat) (cs : List Char) : Option (Key × List Char) := do
  let (ks, cs) ← keyParts? bound cs
  if ks.length < depthLimit then some (⟨ks.dropLast, ← ks.getLast?⟩, cs) else none

end WarmStorage.Toml

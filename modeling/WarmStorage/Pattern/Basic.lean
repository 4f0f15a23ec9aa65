import WarmStorage.Text.Slice

/-!
Patterns: regular expressions for the values of fields. A pattern is turned into an automaton
before it is used, and no tables of Unicode are at hand for it: neither of properties, so that
digits, spaces and words are known among bytes only, nor of cases, so that letters cannot stand for
each other unless they are bytes. Counts in braces do not occur, for a brace ends the field.

What is decided about a pattern is whether it can be used. Of its tree this needs only how deep it
is: every repetition, group and set is one deeper than what it is made of, and so is every sequence
or choice of several parts.
-/

namespace WarmStorage

inductive PatternError where
  | malformed
  | wordBoundary
deriving DecidableEq, Repr

def PatternError.message : PatternError → String
  | malformed => "error building NFA"
  | wordBoundary => "unsupported regex feature for DFAs: cannot build DFAs for regexes with " ++
      "Unicode word boundaries; switch to ASCII word boundaries, or heuristically enable " ++
      "Unicode word boundaries or use a different regex engine"

namespace Pattern

structure Modes where
  caseless : Bool := false
  unicode : Bool := true
  spaced : Bool := false
deriving DecidableEq, Repr

def skipSpaced (inComment : Bool) : List Char → List Char
  | [] => []
  | c :: cs =>
    if inComment then skipSpaced (c != '\n') cs
    else if Text.isSpace c then skipSpaced false cs
    else if c = '#' then skipSpaced true cs
    else c :: cs

def peekSpaced (marked : Bool) : List Char → Option Char
  | [] => none
  | c :: cs =>
    if Text.isSpace c then peekSpaced marked cs
    else if c = '#' && !marked then peekSpaced true cs
    else some c

namespace Modes

def skip (m : Modes) (cs : List Char) : List Char :=
  if m.spaced then skipSpaced false cs else cs

def peek (m : Modes) (cs : List Char) : Option Char :=
  if m.spaced then peekSpaced false cs else cs.head?

end Modes

inductive Atom where
  | literal (c : Char) (isByte : Bool)
  | any
  | boundary
  | wordBoundary
  | category (negated : Bool)
deriving DecidableEq, Repr

namespace Atom

def isUsable (m : Modes) : Atom → Bool
  | literal c isByte => if m.unicode then !m.caseless else !(isByte && 0x80 ≤ c.toNat)
  | any => m.unicode
  | boundary => true
  | wordBoundary => true
  | category negated => !m.unicode && !negated

def isMember (m : Modes) : Atom → Bool
  | literal c _ => if m.unicode then !m.caseless else c.toNat < 0x80
  | category negated => !m.unicode && !negated
  | _ => false

end Atom

def depthOf : List Nat → Nat
  | [] => 0
  | [d] => d
  | ds => ds.foldl max 0 + 1

def maxDepth : Nat := 250

end Pattern

end WarmStorage

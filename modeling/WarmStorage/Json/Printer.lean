import WarmStorage.Json.Basic

/-!
Writing JSON values. A layout says what stands between the parts of an array or object; the
strings are the same in every layout, with the shortest escapes, and only for the characters that
need one.
-/

namespace WarmStorage.Json

structure Layout where
  lineBreak : Nat → List Char
  colon : List Char

namespace Layout

def pretty : Layout where
  lineBreak depth := '\n' :: List.replicate (2 * depth) ' '
  colon := [':', ' ']

def compact : Layout where
  lineBreak _ := []
  colon := [':']

end Layout

def escapeChar (c : Char) : List Char :=
  if c = '"' then ['\\', '"']
  else if c = '\\' then ['\\', '\\']
  else if ' ' ≤ c then [c]
  else if c = '\x08' then ['\\', 'b']
  else if c = '\x0c' then ['\\', 'f']
  else if c = '\n' then ['\\', 'n']
  else if c = '\r' then ['\\', 'r']
  else if c = '\t' then ['\\', 't']
  else ['\\', 'u', '0', '0', Nat.digitChar (c.toNat / 16), Nat.digitChar (c.toNat % 16)]

def quote (s : String) : List Char :=
  '"' :: s.toList.flatMap escapeChar ++ ['"']

def renderLiteral (s : Literal) : List Char :=
  quote (s.text?.getD "\ufffd")

mutual

def render (layout : Layout) (depth : Nat) : Json → List Char
  | .null => ['n', 'u', 'l', 'l']
  | .bool true => ['t', 'r', 'u', 'e']
  | .bool false => ['f', 'a', 'l', 's', 'e']
  | .natural n => Nat.toDigits 10 n.toNat
  | .numeral text => text.toList
  | .string s => renderLiteral s
  | .interruption => []
  | .array [] => ['[', ']']
  | .array (x :: xs) =>
    '[' :: layout.lineBreak (depth + 1) ++ render layout (depth + 1) x ++
      renderElements layout (depth + 1) xs ++ layout.lineBreak depth ++ [']']
  | .object [] => ['\x7b', '\x7d']
  | .object ((k, v) :: ms) =>
    '\x7b' :: layout.lineBreak (depth + 1) ++ renderLiteral k ++ layout.colon ++
      render layout (depth + 1) v ++ renderMembers layout (depth + 1) ms ++
      layout.lineBreak depth ++ ['\x7d']

def renderElements (layout : Layout) (depth : Nat) : List Json → List Char
  | [] => []
  | x :: xs =>
    ',' :: layout.lineBreak depth ++ render layout depth x ++ renderElements layout depth xs

def renderMembers (layout : Layout) (depth : Nat) : List (Literal × Json) → List Char
  | [] => []
  | (k, v) :: ms =>
    ',' :: layout.lineBreak depth ++ renderLiteral k ++ layout.colon ++
      render layout depth v ++ renderMembers layout depth ms

end

def pretty (v : Json) : String :=
  String.ofList (render .pretty 0 v)

def compact (v : Json) : String :=
  String.ofList (render .compact 0 v)

end WarmStorage.Json

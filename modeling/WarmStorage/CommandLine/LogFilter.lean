import WarmStorage.Pattern.Check
import WarmStorage.Text.Alphanumeric
import WarmStorage.Text.Decimal
import WarmStorage.Text.Slice

/-!
Filters of log output. A filter is a list of directives with commas between them. A directive
names a level, or a target, or spans in brackets with their fields in braces, and may end in an
equals sign and a level. The program logs nothing that its answers depend on, so all that is
decided here is whether a filter can be read.

Places in a directive are counted in bytes from its first character that is no space, but the parts
between them are cut out of the whole directive. With spaces in front a part is another one than it
seems, and its ends may not even lie between characters.
-/

namespace WarmStorage.CommandLine

inductive LogFilterError where
  | directive
  | level
  | field (e : PatternError)
  | torn
deriving DecidableEq, Repr

def LogFilterError.message : LogFilterError → String
  | directive => "invalid filter directive"
  | level => "error parsing level filter: expected one of \"off\", \"error\", \"warn\", " ++
      "\"info\", \"debug\", \"trace\", or a number 0-5"
  | field e => "invalid field filter: " ++ e.message
  | torn => "a part of a filter does not lie between two characters"

namespace LogFilter

def isLevel (s : String) : Bool :=
  (Text.Natural.read? s).any (· ≤ 5) ||
    ["", "off", "error", "warn", "info", "debug", "trace"].contains (s.map Char.toLower)

inductive Place where
  | start
  | name
  | span (first : Nat)
  | field (first : Nat)
  | afterFields
  | afterSpan
  | level (first : Nat)
deriving DecidableEq, Repr

def isNameStart (c : Char) : Bool :=
  c == '-' || c == ':' || c == '_' || Text.isAlphanumeric c

def part (directive : List Char) (first last : Nat) : Except LogFilterError (List Char) :=
  match Text.slice? first last directive with
  | some cs => .ok cs
  | none => .error .torn

def rest (directive : List Char) (first : Nat) : Except LogFilterError (List Char) :=
  match Text.dropBytes? first directive with
  | some cs => .ok cs
  | none => .error .torn

def checkValue (cs : List Char) : Except LogFilterError Unit :=
  if Text.Decimal.isNumber cs then .ok () else (Pattern.check cs).mapError .field

def checkField (cs : List Char) : Except LogFilterError Unit :=
  if cs.isEmpty then .error .directive
  else
    match cs.splitOn '=' with
    | _ :: value :: _ => checkValue value
    | _ => .ok ()

def step (directive : List Char) (count : Nat) (c : Char) : Place → Except LogFilterError Place
  | .start =>
    if c = '[' then .ok (.span (count + 1))
    else if isNameStart c then .ok .name
    else .error .directive
  | .name =>
    if c = '=' then (part directive 0 count).map fun _ => .level (count + 1)
    else if c = '[' then (part directive 0 count).map fun _ => .span (count + 1)
    else .ok .name
  | .span first =>
    if c = ']' then (part directive first count).map fun _ => .afterSpan
    else if c = '\x7b' then (part directive first count).map fun _ => .field (count + 1)
    else .ok (.span first)
  | .field first =>
    if c = '\x7d' then do
      checkField (← part directive first count)
      return .afterFields
    else .ok (.field first)
  | .afterFields => if c = ']' then .ok .afterSpan else .error .directive
  | .afterSpan => if c = '=' then .ok (.level (count + 1)) else .error .directive
  | .level first => .ok (.level first)

def place (directive : List Char) : Nat → Place → List Char → Except LogFilterError Place
  | _, p, [] => .ok p
  | count, p, c :: cs => do
    place directive (count + c.utf8Size) (← step directive count c p) cs

def checkDirective (directive : List Char) : Except LogFilterError Unit := do
  match ← place directive 0 .start (Text.trim directive) with
  | .name => return ()
  | .afterSpan => return ()
  | .level first =>
    if !isLevel (String.ofList (← rest directive first)) then
      throw .level
  | _ => throw .directive

def directives (filter : String) : List (List Char) :=
  (filter.toList.splitOn ',').filter (!·.isEmpty)

def check (filter : String) : Except LogFilterError Unit :=
  (directives filter).forM checkDirective

end LogFilter

end WarmStorage.CommandLine

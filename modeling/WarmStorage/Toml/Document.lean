import WarmStorage.Json.Basic

/-!
The tree that the lines of a configuration file build. A table is written once: under a header of
its own, in braces, or piece by piece through keys with points. Headers may lead through tables
that have no header yet, and such a table may get one later; keys with points may not add to a
table that was written in another way. Every function that would write something twice returns
`none`.
-/

namespace WarmStorage.Toml

inductive Origin where
  | headed
  | implied
  | dotted
deriving DecidableEq, Repr

inductive Item where
  | value (v : Json)
  | table (origin : Origin) (entries : List (String × Item))
  | tables (elements : List (List (String × Item)))

abbrev Entries := List (String × Item)

namespace Item

mutual

def toJson : Item → Json
  | value v => v
  | table _ es => .object (entriesToJson es)
  | tables ts => .array (tablesToJson ts)

def entriesToJson : List (String × Item) → List (Literal × Json)
  | [] => []
  | (k, v) :: es => (.ofString k, toJson v) :: entriesToJson es

def tablesToJson : List (List (String × Item)) → List Json
  | [] => []
  | t :: ts => .object (entriesToJson t) :: tablesToJson ts

end

end Item

namespace Entries

def toJson (es : Entries) : Json :=
  .object (Item.entriesToJson es)

def alter (key : String) (f : Option Item → Option Item) : Entries → Option Entries
  | [] => (f none).map fun v => [(key, v)]
  | (k, v) :: es =>
    if k = key then (f (some v)).map fun v => (k, v) :: es
    else (alter key f es).map ((k, v) :: ·)

def add (key : String) (v : Item) : Entries → Option Entries :=
  alter key fun
    | none => some v
    | some _ => none

/--
Changes the table that a path leads to by `f`, which is told how the table came to be. Tables that
are missing on the way come to be as `fresh` says; of tables under one repeated header the last is
entered. A key with points does not enter a table with a header of its own.
-/
def changeAt (fresh : Origin) (f : Origin → Entries → Option Entries) :
    List String → Origin → Entries → Option Entries
  | [], origin, es => f origin es
  | key :: path, _, es => es.alter key fun
    | none => (changeAt fresh f path fresh []).map (.table fresh)
    | some (.table origin es) =>
      if fresh = .dotted && origin = .headed then none
      else (changeAt fresh f path origin es).map (.table origin)
    | some (.tables ts) => do
      let t ← changeAt fresh f path .headed (← ts.getLast?)
      return .tables (ts.dropLast ++ [t])
    | some (.value _) => none

def write (path : List String) (key : String) (v : Item) (es : Entries) : Option Entries :=
  changeAt .dotted (fun origin es =>
    if path.isEmpty || origin = .dotted then es.add key v else none) path .headed es

def openTable (path : List String) (key : String) (es : Entries) : Option Entries :=
  changeAt .implied (fun _ es => es.alter key fun
    | none => some (.table .headed [])
    | some (.table .implied es) => some (.table .headed es)
    | some _ => none) path .headed es

def appendTable (path : List String) (key : String) (es : Entries) : Option Entries :=
  changeAt .implied (fun _ es => es.alter key fun
    | none => some (.tables [[]])
    | some (.tables ts) => some (.tables (ts ++ [[]]))
    | some _ => none) path .headed es

end Entries

structure Key where
  path : List String
  last : String
deriving DecidableEq, Repr

def Key.parts (k : Key) : List String :=
  k.path ++ [k.last]

inductive Line where
  | pair (key : Key) (v : Json)
  | header (key : Key)
  | repeatedHeader (key : Key)

structure Document where
  entries : Entries := []
  current : List String := []

namespace Document

def apply (d : Document) : Line → Option Document
  | .pair k v => do
    let entries ← d.entries.changeAt .implied
      (fun _ es => es.write k.path k.last (.value v)) d.current .headed
    return { d with entries := entries }
  | .header k => do
    return ⟨← d.entries.openTable k.path k.last, k.parts⟩
  | .repeatedHeader k => do
    return ⟨← d.entries.appendTable k.path k.last, k.parts⟩

def ofLines? (lines : List Line) : Option Json :=
  (lines.foldlM apply {}).map (·.entries.toJson)

end Document

end WarmStorage.Toml

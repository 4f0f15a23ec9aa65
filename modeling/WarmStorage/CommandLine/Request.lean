import WarmStorage.CommandLine.Options
import WarmStorage.Identifier

/-!
What an operator can ask the program for.
-/

namespace WarmStorage.CommandLine

structure SnapshotFiles where
  snapshot : String
  registry : Option String
deriving DecidableEq, Repr

inductive Request where
  | checkConfig (file : String)
  | schedule (config : Option String) (activation : Epoch) (periods : UInt64) (json : Bool)
  | inspect (files : SnapshotFiles) (dataSet : Option DataSetId) (epoch : Epoch)
  | arbitrate (files : SnapshotFiles) (rail : RailId) (proposed : TokenAmount)
      (after upTo : Epoch) (epoch : Epoch)
deriving DecidableEq, Repr

namespace Request

def snapshotFiles? (s : Settings) : Option SnapshotFiles := do
  return ⟨← s.value? "snapshot", s.value? "registry"⟩

def ofSettings? (s : Settings) : Option Request :=
  match s.command with
  | .program => none
  | .config => none
  | .configCheck => (s.value? "config").map checkConfig
  | .schedule => do
    return schedule (s.value? "config") (← s.natural? "activation")
      ((s.natural? "periods").getD 4) (s.isSet "json")
  | .inspect => do
    return inspect (← snapshotFiles? s) (s.natural? "data-set") ((s.natural? "epoch").getD 0)
  | .arbitrate => do
    return arbitrate (← snapshotFiles? s) (← s.natural? "rail") (← s.amount? "amount")
      (← s.natural? "from") (← s.natural? "to") (← s.natural? "epoch")

def files : Request → List String
  | checkConfig file => [file]
  | schedule config _ _ _ => config.toList
  | inspect files _ _ => files.snapshot :: files.registry.toList
  | arbitrate files _ _ _ _ _ => files.snapshot :: files.registry.toList

end Request

structure Invocation where
  logFilter : String
  request : Request
deriving DecidableEq, Repr

def Invocation.ofArguments (args : List String) : Except Stop Invocation := do
  let s ← Settings.ofArguments args
  match Request.ofSettings? s with
  | some r => return ⟨(s.value? "log").getD "info", r⟩
  | none => throw .misuse

end WarmStorage.CommandLine

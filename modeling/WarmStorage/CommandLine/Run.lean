import WarmStorage.Codec.Views
import WarmStorage.CommandLine.LogFilter
import WarmStorage.CommandLine.Request
import WarmStorage.Snapshot
import WarmStorage.Toml.Parser
import WarmStorage.Views

/-!
Answering requests of operators. All files are read beforehand, so that an answer depends on the
command line and on what the files hold, and on nothing else.
-/

namespace WarmStorage.CommandLine

abbrev Files := String → Option String

inductive Failure where
  | logFilter (e : LogFilterError)
  | zeroActivation
  | unreadableConfig (file : String)
  | malformedConfig (file : String)
  | invalidConfig (e : ConfigError)
  | unreadableSnapshot (file : String)
  | unreadableRegistry (file : String)
  | malformedRegistry (file : String)
  | dataSetNotFound (id : DataSetId)
  /-- The rows of a schedule do not fit into memory. -/
  | tooManyRows
  | service (e : ServiceError)
deriving DecidableEq, Repr

def Failure.message : Failure → String
  | logFilter e => e.message
  | zeroActivation => "activation epoch must be non-zero"
  | unreadableConfig file => s!"failed to read config {file}"
  | malformedConfig file => s!"failed to parse config {file}"
  | invalidConfig _ => "invalid configuration"
  | unreadableSnapshot file => s!"failed to read snapshot {file}"
  | unreadableRegistry file => s!"failed to read registry {file}"
  | malformedRegistry file => s!"failed to parse registry {file}"
  | dataSetNotFound id => s!"data set {id} not found"
  | tooManyRows => "capacity overflow"
  | service e => e.message

structure RegistryEntry where
  serviceProvider : Address
  payee : Address
deriving DecidableEq, Repr

instance : Codec RegistryEntry :=
  let names := ["service_provider", "payee"]
  { encode := fun e => Record.ofFields names [Codec.encode e.serviceProvider, Codec.encode e.payee]
    decode? := fun src v => do
      let [serviceProvider, payee] ← Record.fields? src names v | none
      return ⟨← serviceProvider.required? src, ← payee.required? src⟩ }

namespace Files

def require (files : Files) (file : String) (e : Failure) : Except Failure String :=
  match files file with
  | some text => .ok text
  | none => .error e

def config (files : Files) (file : String) : Except Failure Config := do
  let text ← files.require file (.unreadableConfig file)
  match (Toml.parse? text).bind (Codec.decode? .toml) with
  | none => throw (.malformedConfig file)
  | some c =>
    (c.validate).mapError .invalidConfig
    return c

def configOrDefault (files : Files) : Option String → Except Failure Config
  | some file => files.config file
  | none => .ok {}

def registry (files : Files) : Option String → Except Failure ProviderRegistry
  | none => .ok .empty
  | some file => do
    let text ← files.require file (.unreadableRegistry file)
    match (Json.parse? text).bind (Codec.decode? .text) with
    | none => throw (.malformedRegistry file)
    | some (entries : List RegistryEntry) =>
      return entries.foldl (fun r e => (r.register e.serviceProvider e.payee).2) .empty

def state (files : Files) (names : SnapshotFiles) : Except Failure ServiceState := do
  let text ← files.require names.snapshot (.unreadableSnapshot names.snapshot)
  let snapshot ← (Snapshot.ofText text).mapError .service
  let providers ← files.registry names.registry
  (snapshot.intoState providers).mapError .service

end Files

def reportOn (s : ServiceState) (epoch : Epoch) (d : DataSet) : Json :=
  .ofMembers [("data_set", Codec.encode d),
    ("proving", ((s.provingStatus? d.id epoch).map (·.toJson)).getD .null)]

def dataSetsToReport (s : ServiceState) : Option DataSetId → Except Failure (List DataSet)
  | none => .ok s.dataSets.values
  | some id =>
    match s.dataSet? id with
    | some d => .ok [d]
    | none => .error (.dataSetNotFound id)

def printed (v : Json) : String :=
  v.pretty ++ "\n"

def Request.answer (files : Files) : Request → Except Failure String
  | checkConfig file => do
    let c ← files.config file
    return printed (c.pricing.sheet c.token).toJson
  | schedule config activation periods json => do
    if activation = 0 then
      throw .zeroActivation
    let c ← files.configOrDefault config
    let s : Schedule := ⟨activation, c.proving⟩
    if PeriodRow.limit < periods then
      throw .tooManyRows
    if json then
      return printed (.array ((s.rows periods).map (·.toJson)))
    else
      return s.table periods
  | inspect names dataSet epoch => do
    let s ← files.state names
    return printed (.array ((← dataSetsToReport s dataSet).map (reportOn s epoch)))
  | arbitrate names rail proposed after upTo epoch => do
    let s ← files.state names
    let outcome ← (s.arbitrate rail proposed after upTo epoch).mapError .service
    return printed outcome.toJson

def Invocation.answer (files : Files) (i : Invocation) : Except Failure String := do
  (LogFilter.check i.logFilter).mapError .logFilter
  i.request.answer files

inductive Outcome where
  | success (output : String)
  | failure (e : Failure)
  | misuse
  | breakdown
deriving DecidableEq, Repr

def versionLine : String :=
  "warm-storage 0.1.0\n"

def helpText : String :=
  "Warm storage service operator tooling\n\n" ++
  "Usage: warm-storage [OPTIONS] <COMMAND>\n\n" ++
  "Commands:\n" ++
  "  config     Configuration utilities\n" ++
  "  schedule   Print the proving schedule for an activation epoch\n" ++
  "  inspect    Show a data set from a state snapshot\n" ++
  "  arbitrate  Dry-run settlement arbitration against a state snapshot\n" ++
  "  help       Print this message or the help of the given subcommand(s)\n"

namespace Outcome

def ofStop : Stop → Outcome
  | .misuse => misuse
  | .help => success helpText
  | .version => success versionLine

def ofFailure : Failure → Outcome
  | .logFilter .torn => breakdown
  | .tooManyRows => breakdown
  | .service (.settlement (.breakdown _)) => breakdown
  | e => failure e

def code : Outcome → UInt32
  | success _ => 0
  | failure _ => 1
  | misuse => 2
  | breakdown => 101

def output : Outcome → String
  | success output => output
  | _ => ""

end Outcome

def run (files : Files) (args : List String) : Outcome :=
  match Invocation.ofArguments args with
  | .error stop => .ofStop stop
  | .ok i =>
    match i.answer files with
    | .ok output => .success output
    | .error e => .ofFailure e

end WarmStorage.CommandLine

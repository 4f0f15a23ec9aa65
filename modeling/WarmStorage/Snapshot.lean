import WarmStorage.Codec.State
import WarmStorage.Error
import WarmStorage.Json.Printer
import WarmStorage.ProviderRegistry

/-!
Snapshots: the state of a service as a text that names the schema it is written in. Schema 2 is
written; schema 1, which named providers by their addresses, is read and brought up to date with
the help of the provider registry.
-/

namespace WarmStorage

structure LegacyState extends Records where
  dataSets : Std.ExtTreeMap DataSetId Deal := ∅
  approvedProviders : Std.ExtTreeSet Address := ∅

instance : Codec LegacyState where
  encode s :=
    Codec.encodeState s.toRecords (Codec.encode s.dataSets) (Codec.encode s.approvedProviders)
  decode? src v := do
    let (records, dataSets, approvedProviders) ← Codec.decodeState? src v
    return {
      toRecords := records
      dataSets := ← dataSets.required? src
      approvedProviders := ← approvedProviders.required? src }

namespace LegacyState

def markCdn (flag : CdnFlag) (d : Deal) : Metadata :=
  if flag = .metadataKey && d.withCdn && !d.metadata.hasKey withCdnKey then
    d.metadata ++ [⟨withCdnKey, ""⟩]
  else
    d.metadata

def migrateDataSet (flag : CdnFlag) (providers : ProviderRegistry) (id : DataSetId) (d : Deal) :
    Except ServiceError DataSet :=
  match providers.id? d.serviceProvider with
  | none => .error (.migrationUnknownProvider id d.serviceProvider)
  | some provider => .ok { d with metadata := markCdn flag d, providerId := provider }

def migrateDataSets (flag : CdnFlag) (providers : ProviderRegistry) :
    List (DataSetId × Deal) → Except ServiceError (Std.ExtTreeMap DataSetId DataSet)
  | [] => .ok ∅
  | (id, d) :: rest => do
    let d ← migrateDataSet flag providers id d
    let m ← migrateDataSets flag providers rest
    return m.insert id d

/-- The state in the current schema; approved providers that are not registered are left out. -/
def migrate (s : LegacyState) (providers : ProviderRegistry) :
    Except ServiceError ServiceState := do
  let dataSets ← migrateDataSets s.config.versioning.cdnFlag providers s.dataSets.toList
  let approved := s.approvedProviders.toList.filterMap providers.id?
  return {
    toRecords := s.toRecords
    dataSets := dataSets
    approvedProviders := approved.foldl (·.insert ·) ∅ }

end LegacyState

inductive Snapshot where
  | legacy (s : LegacyState)
  | current (s : ServiceState)

namespace Snapshot

def version : Snapshot → UInt64
  | legacy _ => 1
  | current _ => 2

def encode (s : Snapshot) : Json :=
  let (version, state) := match s with
    | legacy s => ("1", Codec.encode s)
    | current s => ("2", Codec.encode s)
  .ofMembers [("version", .ofString version), ("state", state)]

def decodeState? (src : Source) (version : String) (state : Json) : Option Snapshot :=
  if version = "1" then (Codec.decode? src state).map legacy
  else if version = "2" then (Codec.decode? src state).map current
  else none

def versionFirst : Json → Bool
  | .object ms =>
    let names := ms.filterMap (·.1.text?)
    names.idxOf "version" < names.idxOf "state"
  | _ => true

def maxDepth : Nat := 126

def decode? (v : Json) : Option Snapshot := do
  let [version, state] ← Record.fields? .text ["version", "state"] v | none
  let .given version := version | none
  let .given state := state | none
  let version ← Choice.name? .text version
  if versionFirst v then decodeState? .text version state
  else if state.isHoldable maxDepth then decodeState? .buffered version state
  else none

def toText (s : Snapshot) : String :=
  s.encode.pretty

def ofText (text : String) : Except ServiceError Snapshot :=
  match (Json.parse? text).bind decode? with
  | some s => .ok s
  | none => .error .snapshot

def intoState (s : Snapshot) (providers : ProviderRegistry) : Except ServiceError ServiceState :=
  match s with
  | legacy s => s.migrate providers
  | current s => .ok s

end Snapshot

end WarmStorage

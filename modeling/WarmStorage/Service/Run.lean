import WarmStorage.Ledger.Operation
import WarmStorage.Service.Call
import WarmStorage.Snapshot

/-!
What happens to a service over time, as one type, so that a run is a list of moves. Besides the
calls of the service these are operations of the ledger by others, changes of the provider registry
and the session keys, and restarts, which write the state to a text and read it back. A snapshot
holds the state of a service and nothing else: pending events are not part of it, and the ledger,
the provider registry and the session keys are kept elsewhere.
-/

namespace WarmStorage

inductive Move where
  | call (ctx : CallContext) (c : Call)
  | operate (op : Ledger.Operation)
  | outside (providers : ProviderRegistry) (sessionKeys : SessionKeys)
  | takeEvents
  | restart (sessionKeys : SessionKeys)

namespace Service

def snapshot (s : Service) : Snapshot :=
  .current s.state

def ofSnapshot (snapshot : Snapshot) (ledger : Ledger) (providers : ProviderRegistry)
    (sessionKeys : SessionKeys) : Except ServiceError Service := do
  let state ← snapshot.intoState providers
  ofState state ledger providers sessionKeys

def restart (s : Service) (sessionKeys : SessionKeys) : Except ServiceError Service := do
  let snapshot ← Snapshot.ofText s.snapshot.toText
  ofSnapshot snapshot s.ledger s.providers sessionKeys

/-- The service after a move. A restart that fails leaves the service as it is. -/
def move (s : Service) : Move → Service
  | .call ctx c => (s.call ctx c).2
  | .operate op => { s with ledger := (s.ledger.operate op).2 }
  | .outside providers sessionKeys => { s with providers := providers, sessionKeys := sessionKeys }
  | .takeEvents => s.takeEvents.2
  | .restart sessionKeys =>
    match s.restart sessionKeys with
    | .ok s => s
    | .error _ => s

def run (s : Service) (moves : List Move) : Service :=
  moves.foldl move s

end Service

end WarmStorage

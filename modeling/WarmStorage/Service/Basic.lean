import WarmStorage.Arbitration
import WarmStorage.Authorization.SessionKeys
import WarmStorage.Event
import WarmStorage.Ledger.Basic
import WarmStorage.ProviderRegistry

/-!
The service and the parts it works with. A call either succeeds or is refused with an error; the
service after it is given in both cases, since a refused call may have changed the ledger before
it was refused.
-/

namespace WarmStorage

structure CallContext where
  caller : Address
  epoch : Epoch
deriving DecidableEq, Repr

structure Service where
  state : ServiceState
  ledger : Ledger
  providers : ProviderRegistry
  sessionKeys : SessionKeys
  events : List Event := []

abbrev ServiceM := EStateM ServiceError Service

namespace Service

def ofState (state : ServiceState) (ledger : Ledger) (providers : ProviderRegistry)
    (sessionKeys : SessionKeys) : Except ServiceError Service :=
  match state.config.validate with
  | .error e => .error (.config e)
  | .ok () => .ok ⟨state, ledger, providers, sessionKeys, []⟩

def new (config : Config) (ledger : Ledger) (providers : ProviderRegistry)
    (sessionKeys : SessionKeys) : Except ServiceError Service :=
  ofState (.ofConfig config) ledger providers sessionKeys

def signingContext (s : Service) : SigningContext :=
  ⟨s.state.config.domain, s.state.config.serviceAddress⟩

def takeEvents (s : Service) : List Event × Service :=
  (s.events, { s with events := [] })

end Service

namespace ServiceM

def ofExcept {ε α : Type} (wrap : ε → ServiceError) : Except ε α → ServiceM α
  | .ok a => pure a
  | .error e => throw (wrap e)

def state : ServiceM ServiceState := do
  return (← get).state

def config : ServiceM Config := do
  return (← state).config

def modifyState (f : ServiceState → ServiceState) : ServiceM Unit :=
  modify fun s => { s with state := f s.state }

def ledgerCall {α : Type} (f : Ledger → Except LedgerError (α × Ledger)) : ServiceM α := do
  let (a, ledger) ← ofExcept .ledger (f (← get).ledger)
  modify fun s => { s with ledger := ledger }
  return a

def ledgerChange (f : Ledger → Except LedgerError Ledger) : ServiceM Unit := do
  let ledger ← ofExcept .ledger (f (← get).ledger)
  modify fun s => { s with ledger := ledger }

def emit (e : Event) : ServiceM Unit :=
  modify fun s => { s with events := s.events ++ [e] }

def requireVerifier (ctx : CallContext) : ServiceM Unit := do
  if ctx.caller ≠ (← config).verifier then
    throw (.notVerifier ctx.caller)

def requirePayments (ctx : CallContext) : ServiceM Unit := do
  if ctx.caller ≠ (← config).payments then
    throw (.notPayments ctx.caller)

def requireOwner (ctx : CallContext) : ServiceM Unit := do
  if ctx.caller ≠ (← config).owner then
    throw (.notOwner ctx.caller)

def dataSet (id : DataSetId) : ServiceM DataSet := do
  match (← state).dataSet? id with
  | some d => return d
  | none => throw (.dataSetNotFound id)

def proving (id : DataSetId) : ServiceM ProvingState := do
  match (← state).proving? id with
  | some p => return p
  | none => throw (.dataSetNotFound id)

def setDataSet (id : DataSetId) (d : DataSet) : ServiceM Unit :=
  modifyState fun s => { s with dataSets := s.dataSets.insert id d }

def setProving (id : DataSetId) (p : ProvingState) : ServiceM Unit :=
  modifyState fun s => { s with proving := s.proving.insert id p }

def requireNotPastEnd (ctx : CallContext) (id : DataSetId) (d : DataSet) : ServiceM Unit := do
  if d.isPastEnd ctx.epoch then
    throw (.paymentEnded id d.endEpoch ctx.epoch)

def requireSigned (ctx : CallContext) (m : Message) (signature : List UInt8) (payer : Address) :
    ServiceM Unit := do
  let s ← get
  let _ ← ofExcept .auth (s.signingContext.verify m signature payer s.sessionKeys ctx.epoch)

def approvedProvider (serviceProvider : Address) : ServiceM ProviderId := do
  let s ← get
  match s.providers.id? serviceProvider with
  | none => throw (.unknownProvider serviceProvider)
  | some id =>
    if !s.providers.isActive id then
      throw (.inactiveProvider id)
    if !s.state.isApproved id then
      throw (.providerNotApproved id)
    return id

end ServiceM

end WarmStorage

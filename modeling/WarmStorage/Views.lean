import WarmStorage.State

/-!
Questions about the state of the service that change nothing.
-/

namespace WarmStorage

structure ProvingStatus where
  dataSet : DataSetId
  activation : Epoch
  deadline : Epoch
  provenThisPeriod : Bool
  currentPeriod : Option UInt64
  window : Option ChallengeWindow
  inWindow : Bool
  provenPeriods : UInt64
  paymentEndEpoch : Epoch
deriving DecidableEq, Repr

namespace ServiceState

def provingStatus? (s : ServiceState) (id : DataSetId) (epoch : Epoch) :
    Option ProvingStatus := do
  let d ← s.dataSet? id
  let p ← s.proving? id
  let period := p.schedule.periodContaining epoch
  return {
    dataSet := id
    activation := p.activation
    deadline := p.deadline
    provenThisPeriod := p.provenThisPeriod
    currentPeriod := if period = noPeriod then none else some period
    window := p.currentWindow?
    inWindow := p.currentWindow?.any (·.contains epoch)
    provenPeriods := p.proven.size
    paymentEndEpoch := d.endEpoch }

def isPeriodProven (s : ServiceState) (id : DataSetId) (period : UInt64) : Bool :=
  (s.proving? id).any (·.isPeriodProven period)

def dataSetsOf (s : ServiceState) (payer : Address) : List DataSetId :=
  s.payerDataSets.getD payer []

def metadata? (s : ServiceState) (id : DataSetId) : Option Metadata :=
  (s.dataSet? id).map (·.metadata)

def metadataValue? (s : ServiceState) (id : DataSetId) (key : String) : Option String := do
  let entries ← s.metadata? id
  entries.value? key

def pieceMetadata? (s : ServiceState) (id : DataSetId) (piece : PieceId) : Option Metadata := do
  let d ← s.dataSet? id
  d.pieceMetadata[piece]?

def pieceMetadataValue? (s : ServiceState) (id : DataSetId) (piece : PieceId) (key : String) :
    Option String := do
  let entries ← s.pieceMetadata? id piece
  entries.value? key

def priceSheet (s : ServiceState) : PriceSheet :=
  s.config.pricing.sheet s.config.token

end ServiceState

end WarmStorage

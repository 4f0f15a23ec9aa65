import Std.Data.ExtTreeMap
import WarmStorage.Identifier

/-!
Protection against replayed requests: the identifiers and nonces that each payer used up. An entry
is written once, and outlives the data set it points to.
-/

namespace WarmStorage

structure NonceUse where
  dataSet : DataSetId
  pieceCount : UInt64
deriving DecidableEq, Repr

structure ReplayRegistry where
  dataSets : Std.ExtTreeMap Address (Std.ExtTreeMap UInt256 DataSetId) := ∅
  nonces : Std.ExtTreeMap Address (Std.ExtTreeMap UInt256 NonceUse) := ∅

namespace ReplayRegistry

def dataSet? (r : ReplayRegistry) (payer : Address) (clientDataSetId : UInt256) :
    Option DataSetId := do
  let used ← r.dataSets[payer]?
  used[clientDataSetId]?

def nonce? (r : ReplayRegistry) (payer : Address) (nonce : UInt256) : Option NonceUse := do
  let used ← r.nonces[payer]?
  used[nonce]?

def recordDataSet (r : ReplayRegistry) (payer : Address) (clientDataSetId : UInt256)
    (dataSet : DataSetId) : ReplayRegistry :=
  let used := (r.dataSets.getD payer ∅).insert clientDataSetId dataSet
  { r with dataSets := r.dataSets.insert payer used }

def recordNonce (r : ReplayRegistry) (payer : Address) (nonce : UInt256) (use : NonceUse) :
    ReplayRegistry :=
  let used := (r.nonces.getD payer ∅).insert nonce use
  { r with nonces := r.nonces.insert payer used }

end ReplayRegistry

end WarmStorage

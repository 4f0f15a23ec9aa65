import WarmStorage.Error
import WarmStorage.State

/-!
Arbitration of settlements. The ledger proposes an amount for a range of epochs of a rail; of a
storage rail the share of the proven epochs is paid, and of an egress rail everything.
-/

namespace WarmStorage

structure SettlementOutcome where
  amount : TokenAmount
  settleUpTo : Epoch
  note : String
deriving DecidableEq, Repr

/-- The share of `proposed` that `count` epochs of `total` have, rounded down. -/
def provenShare (proposed : TokenAmount) (count total : UInt64) :
    Except ServiceError TokenAmount :=
  match UInt256.exactMul? proposed (.ofWord count) with
  | none => .error (.overflow "modified amount")
  | some product =>
    if total = 0 then .error (.divisionByZero "modified amount")
    else .ok (product / .ofWord total)

/-- Settles a storage rail over the epochs after `after` and up to `upTo`. -/
def ProvingState.arbitrate (s : ProvingState) (proposed : TokenAmount)
    (after upTo current : Epoch) : Except ServiceError SettlementOutcome :=
  if !s.isActive then .ok ⟨0, after, "proving period not yet initialized"⟩
  else
    match s.provenEpochs after upTo current with
    | .error e => .error (.settlement e)
    | .ok proven =>
      if proven.count = 0 then
        .ok ⟨0, proven.settleUpTo, "no proven epochs in the requested range"⟩
      else do
        let total := upTo - after
        let amount ← provenShare proposed proven.count total
        return ⟨amount, proven.settleUpTo, s!"proven epochs: {proven.count} of {total}"⟩

def ServiceState.arbitrate (s : ServiceState) (rail : RailId) (proposed : TokenAmount)
    (after upTo current : Epoch) : Except ServiceError SettlementOutcome :=
  match s.dataSetOfRail? rail with
  | none => .error (.railNotAssociated rail)
  | some id =>
    if upTo ≤ after then .error (.invalidEpochRange after upTo)
    else
      match s.dataSet? id with
      | none => .error (.dataSetNotFound id)
      | some d =>
        if rail ≠ d.storageRail then .ok ⟨proposed, upTo, ""⟩
        else
          match s.proving? id with
          | none => .error (.dataSetNotFound id)
          | some p => p.arbitrate proposed after upTo current

end WarmStorage

import WarmStorage.Ledger.Basic

/-!
All operations of the ledger as one type, so that a run of the ledger is a list of operations.
-/

namespace WarmStorage.Ledger

inductive Operation where
  | deposit (token owner : Address) (amount : TokenAmount)
  | approve (token client operator : Address) (rateAllowance lockupAllowance : TokenAmount)
      (maxLockupPeriod : UInt64)
  | createRail (terms : RailTerms)
  | modifyLockup (rail : RailId) (lockupPeriod : UInt64) (lockupFixed : TokenAmount)
  | modifyPayment (rail : RailId) (rate oneTime : TokenAmount)
  | terminate (rail : RailId) (epoch : Epoch)
deriving DecidableEq, Repr

inductive Answer where
  | done
  | opened (rail : RailId)
  | endEpoch (epoch : Epoch)
deriving DecidableEq, Repr

def perform (l : Ledger) : Operation → Except LedgerError (Answer × Ledger)
  | .deposit token owner amount => return (.done, l.deposit token owner amount)
  | .approve token client operator rateAllowance lockupAllowance maxLockupPeriod =>
    return (.done, l.approve token client operator rateAllowance lockupAllowance maxLockupPeriod)
  | .createRail terms => do
    let (rail, l) ← l.createRail terms
    return (.opened rail, l)
  | .modifyLockup rail lockupPeriod lockupFixed =>
    return (.done, ← l.modifyLockup rail lockupPeriod lockupFixed)
  | .modifyPayment rail rate oneTime => return (.done, ← l.modifyPayment rail rate oneTime)
  | .terminate rail epoch => do
    let (endEpoch, l) ← l.terminate rail epoch
    return (.endEpoch endEpoch, l)

def operate (l : Ledger) (op : Operation) : Except LedgerError Answer × Ledger :=
  match l.perform op with
  | .ok (answer, l) => (.ok answer, l)
  | .error e => (.error e, l)

def run (l : Ledger) (ops : List Operation) : Ledger :=
  ops.foldl (fun l op => (l.operate op).2) l

end WarmStorage.Ledger

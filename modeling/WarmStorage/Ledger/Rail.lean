import WarmStorage.Address
import WarmStorage.Text.Amount

/-!
What a ledger keeps: rails, over which a client streams payments to a payee; accounts, whose funds
are partly locked up by rails; and approvals, which bound what an operator may stream and lock up.
-/

namespace WarmStorage

structure RailTerms where
  token : Address
  payer : Address
  payee : Address
  operator : Address
  arbiter : Address
  commissionBps : UInt16
  feeRecipient : Address
deriving DecidableEq, Repr

structure Rail extends RailTerms where
  rate : TokenAmount := 0
  lockupPeriod : UInt64 := 0
  lockupFixed : TokenAmount := 0
  /-- The last epoch that can be paid, zero while the rail is live. -/
  endEpoch : Epoch := 0
deriving DecidableEq, Repr

namespace Rail

def isTerminated (r : Rail) : Bool :=
  r.endEpoch != 0

def lockup (r : Rail) : TokenAmount :=
  UInt256.clampAdd (UInt256.clampMul r.rate (.ofWord r.lockupPeriod)) r.lockupFixed

end Rail

structure Account where
  funds : TokenAmount := 0
  locked : TokenAmount := 0
deriving DecidableEq, Repr

def Account.available (a : Account) : TokenAmount :=
  UInt256.clampSub a.funds a.locked

structure Approval where
  isApproved : Bool := false
  rateAllowance : TokenAmount := 0
  lockupAllowance : TokenAmount := 0
  rateUsage : TokenAmount := 0
  lockupUsage : TokenAmount := 0
  maxLockupPeriod : UInt64 := 0
deriving DecidableEq, Repr

namespace Approval

def remainingRate (a : Approval) : TokenAmount :=
  UInt256.clampSub a.rateAllowance a.rateUsage

def remainingLockup (a : Approval) : TokenAmount :=
  UInt256.clampSub a.lockupAllowance a.lockupUsage

end Approval

inductive LedgerError where
  | unknownRail (rail : RailId)
  | railTerminated (rail : RailId)
  | operatorNotApproved (client operator : Address)
  | rateAllowanceExceeded (required available : TokenAmount)
  | lockupAllowanceExceeded (required available : TokenAmount)
  | lockupPeriodExceeded (requested max : UInt64)
  | insufficientFunds (required available : TokenAmount)
  | oneTimeExceedsLockup (rail : RailId) (requested available : TokenAmount)
deriving DecidableEq, Repr

namespace LedgerError

def shortage (what : String) (required available : TokenAmount) : String :=
  let required := Text.Amount.decimal required
  let available := Text.Amount.decimal available
  s!"{what}: required {required}, available {available}"

def message : LedgerError → String
  | unknownRail rail => s!"Rail {rail} does not exist"
  | railTerminated rail => s!"Rail {rail} is terminated"
  | operatorNotApproved client operator =>
    s!"Operator {operator.checksummed} not approved by client {client.checksummed}"
  | rateAllowanceExceeded required available =>
    shortage "Rate allowance exceeded" required available
  | lockupAllowanceExceeded required available =>
    shortage "Lockup allowance exceeded" required available
  | lockupPeriodExceeded requested max =>
    s!"Lockup period {requested} exceeds approved maximum {max}"
  | insufficientFunds required available => shortage "Insufficient funds" required available
  | oneTimeExceedsLockup rail requested available =>
    let requested := Text.Amount.decimal requested
    let available := Text.Amount.decimal available
    s!"One-time payment {requested} on rail {rail} exceeds fixed lockup {available}"

end LedgerError

end WarmStorage

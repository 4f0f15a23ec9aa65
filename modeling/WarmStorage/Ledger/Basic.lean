import Std.Data.ExtTreeMap
import WarmStorage.Ledger.Key
import WarmStorage.Ledger.Rail

/-!
The payments ledger. An operation gives the ledger after it or a reason why it is refused, so a
refused operation changes nothing. Whatever a rail holds in lockup is counted in the account of
its payer and in the approval of its operator.
-/

namespace WarmStorage

structure Ledger where
  lastRail : RailId := 0
  rails : Std.ExtTreeMap RailId Rail := ∅
  accounts : Std.ExtTreeMap AccountKey Account := ∅
  approvals : Std.ExtTreeMap ApprovalKey Approval := ∅
  payouts : Std.ExtTreeMap AccountKey TokenAmount := ∅

namespace Ledger

def empty : Ledger := {}

def rail? (l : Ledger) (id : RailId) : Option Rail :=
  l.rails[id]?

def account (l : Ledger) (token owner : Address) : Account :=
  l.accounts.getD ⟨token, owner⟩ {}

def approval (l : Ledger) (token client operator : Address) : Approval :=
  l.approvals.getD ⟨token, client, operator⟩ {}

def payout (l : Ledger) (token payee : Address) : TokenAmount :=
  l.payouts.getD ⟨token, payee⟩ 0

def deposit (l : Ledger) (token owner : Address) (amount : TokenAmount) : Ledger :=
  let account := l.account token owner
  let account := { account with funds := UInt256.clampAdd account.funds amount }
  { l with accounts := l.accounts.insert ⟨token, owner⟩ account }

def approve (l : Ledger) (token client operator : Address)
    (rateAllowance lockupAllowance : TokenAmount) (maxLockupPeriod : UInt64) : Ledger :=
  let approval := { l.approval token client operator with
    isApproved := true
    rateAllowance := rateAllowance
    lockupAllowance := lockupAllowance
    maxLockupPeriod := maxLockupPeriod }
  { l with approvals := l.approvals.insert ⟨token, client, operator⟩ approval }

def liveRail (l : Ledger) (id : RailId) : Except LedgerError Rail :=
  match l.rail? id with
  | none => .error (.unknownRail id)
  | some r => if r.isTerminated then .error (.railTerminated id) else .ok r

def chargeRate (a : Approval) (old new : TokenAmount) : Except LedgerError Approval :=
  if old < new then
    if a.remainingRate < new - old then
      .error (.rateAllowanceExceeded (new - old) a.remainingRate)
    else
      .ok { a with rateUsage := a.rateUsage + (new - old) }
  else
    .ok { a with rateUsage := UInt256.clampSub a.rateUsage (old - new) }

def chargeLockup (a : Approval) (c : Account) (old new : TokenAmount) :
    Except LedgerError (Approval × Account) :=
  if old < new then
    if a.remainingLockup < new - old then
      .error (.lockupAllowanceExceeded (new - old) a.remainingLockup)
    else if c.available < new - old then
      .error (.insufficientFunds (new - old) c.available)
    else
      .ok ({ a with lockupUsage := a.lockupUsage + (new - old) },
        { c with locked := c.locked + (new - old) })
  else
    .ok ({ a with lockupUsage := UInt256.clampSub a.lockupUsage (old - new) },
      { c with locked := UInt256.clampSub c.locked (old - new) })

def changeRail (l : Ledger) (id : RailId) (old new : Rail) : Except LedgerError Ledger := do
  let account := l.account new.token new.payer
  let approval := l.approval new.token new.payer new.operator
  if !approval.isApproved then
    throw (.operatorNotApproved new.payer new.operator)
  if approval.maxLockupPeriod < new.lockupPeriod then
    throw (.lockupPeriodExceeded new.lockupPeriod approval.maxLockupPeriod)
  let approval ← chargeRate approval old.rate new.rate
  let (approval, account) ← chargeLockup approval account old.lockup new.lockup
  return { l with
    rails := l.rails.insert id new
    accounts := l.accounts.insert ⟨new.token, new.payer⟩ account
    approvals := l.approvals.insert ⟨new.token, new.payer, new.operator⟩ approval }

def createRail (l : Ledger) (terms : RailTerms) : Except LedgerError (RailId × Ledger) :=
  if (l.approval terms.token terms.payer terms.operator).isApproved then
    let id := l.lastRail + 1
    .ok (id, { l with lastRail := id, rails := l.rails.insert id { toRailTerms := terms } })
  else
    .error (.operatorNotApproved terms.payer terms.operator)

def modifyLockup (l : Ledger) (id : RailId) (lockupPeriod : UInt64) (lockupFixed : TokenAmount) :
    Except LedgerError Ledger := do
  let old ← l.liveRail id
  l.changeRail id old { old with lockupPeriod := lockupPeriod, lockupFixed := lockupFixed }

def pay (l : Ledger) (terms : RailTerms) (amount : TokenAmount) : Ledger :=
  if amount = 0 then l
  else
    let account := l.account terms.token terms.payer
    let account := { account with funds := UInt256.clampSub account.funds amount }
    let received := UInt256.clampAdd (l.payout terms.token terms.payee) amount
    { l with
      accounts := l.accounts.insert ⟨terms.token, terms.payer⟩ account
      payouts := l.payouts.insert ⟨terms.token, terms.payee⟩ received }

def modifyPayment (l : Ledger) (id : RailId) (rate oneTime : TokenAmount) :
    Except LedgerError Ledger := do
  let old ← l.liveRail id
  if old.lockupFixed < oneTime then
    throw (.oneTimeExceedsLockup id oneTime old.lockupFixed)
  let l ← l.changeRail id old
    { old with rate := rate, lockupFixed := old.lockupFixed - oneTime }
  return l.pay old.toRailTerms oneTime

/-- Ends a rail, and tells the last epoch that can be paid: the lockup is still streamed. -/
def terminate (l : Ledger) (id : RailId) (epoch : Epoch) :
    Except LedgerError (Epoch × Ledger) := do
  let r ← l.liveRail id
  let r := { r with endEpoch := Word.clampAdd epoch r.lockupPeriod }
  return (r.endEpoch, { l with rails := l.rails.insert id r })

end Ledger

end WarmStorage

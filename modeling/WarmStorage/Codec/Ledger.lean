import WarmStorage.Codec.Record
import WarmStorage.Ledger.Rail

/-!
Rails, accounts and approvals as JSON trees. Only the terms of a rail are read.
-/

namespace WarmStorage

open Codec (encode)
open Record (fields? ofFields)

instance : Codec RailTerms :=
  let names := ["token", "from", "to", "operator", "validator", "commission_bps",
    "service_fee_recipient"]
  { encode := fun t => ofFields names
      [encode t.token, encode t.payer, encode t.payee, encode t.operator, encode t.arbiter,
        encode t.commissionBps, encode t.feeRecipient]
    decode? := fun src v => do
      let [token, payer, payee, operator, arbiter, commissionBps,
        feeRecipient] ← fields? src names v | none
      return {
        token := ← token.required? src
        payer := ← payer.required? src
        payee := ← payee.required? src
        operator := ← operator.required? src
        arbiter := ← arbiter.required? src
        commissionBps := ← commissionBps.required? src
        feeRecipient := ← feeRecipient.required? src } }

def Rail.toJson (r : Rail) : Json :=
  ofFields
    ["token", "from", "to", "operator", "validator", "payment_rate", "lockup_period",
      "lockup_fixed", "end_epoch", "commission_bps", "service_fee_recipient"]
    [encode r.token, encode r.payer, encode r.payee, encode r.operator, encode r.arbiter,
      encode r.rate, encode r.lockupPeriod, encode r.lockupFixed, encode r.endEpoch,
      encode r.commissionBps, encode r.feeRecipient]

def Account.toJson (a : Account) : Json :=
  ofFields ["funds", "lockup_current"] [encode a.funds, encode a.locked]

def Approval.toJson (a : Approval) : Json :=
  ofFields
    ["is_approved", "rate_allowance", "lockup_allowance", "rate_usage", "lockup_usage",
      "max_lockup_period"]
    [encode a.isApproved, encode a.rateAllowance, encode a.lockupAllowance, encode a.rateUsage,
      encode a.lockupUsage, encode a.maxLockupPeriod]

end WarmStorage

import WarmStorage.Arbitration
import WarmStorage.Codec.State
import WarmStorage.Schedule.Table
import WarmStorage.Views

/-!
Answers of the service as JSON trees. They are only written.
-/

namespace WarmStorage

open Codec (encode)
open Record (ofFields)

def ChallengeWindow.toJson (w : ChallengeWindow) : Json :=
  ofFields ["start", "end"] [encode w.first, encode w.last]

def Schedule.toJson (s : Schedule) : Json :=
  ofFields ["activation_epoch", "max_proving_period", "challenge_window_size"]
    [encode s.activation, encode s.params.periodLength, encode s.params.windowSize]

def PeriodRow.toJson (r : PeriodRow) : Json :=
  ofFields ["period", "first_epoch", "deadline", "window"]
    [encode r.period, encode r.firstEpoch, encode r.deadline, r.window.toJson]

def PriceSheet.toJson (s : PriceSheet) : Json :=
  ofFields
    ["price_per_tib_per_month", "cdn_egress_price_per_tib", "cache_miss_egress_price_per_tib",
      "minimum_rate_per_month", "token", "epochs_per_month"]
    [encode s.storagePrice, encode s.cdnEgressPrice, encode s.cacheMissEgressPrice,
      encode s.minimumPrice, encode s.token, encode s.epochsPerMonth]

def AdvanceKind.name : AdvanceKind → String
  | .activated => "Activated"
  | .reopened => "Reopened"
  | .advanced => "Advanced"
  | .closed => "Closed"

def Advance.toJson (a : Advance) : Json :=
  ofFields
    ["kind", "activation_epoch", "previous_deadline", "next_deadline", "faulted_periods"]
    [encode a.kind.name, encode a.activation, encode a.previousDeadline, encode a.nextDeadline,
      encode a.faultedPeriods]

def ProvingStatus.toJson (s : ProvingStatus) : Json :=
  ofFields
    ["data_set_id", "activation_epoch", "proving_deadline", "proven_this_period",
      "current_period", "challenge_window", "in_challenge_window", "proven_period_count",
      "payment_end_epoch"]
    [encode s.dataSet, encode s.activation, encode s.deadline, encode s.provenThisPeriod,
      encode s.currentPeriod, (s.window.map (·.toJson)).getD .null, encode s.inWindow,
      encode s.provenPeriods, encode s.paymentEndEpoch]

def SettlementOutcome.toJson (o : SettlementOutcome) : Json :=
  ofFields ["modified_amount", "settle_up_to", "note"]
    [encode o.amount, encode o.settleUpTo, encode o.note]

end WarmStorage

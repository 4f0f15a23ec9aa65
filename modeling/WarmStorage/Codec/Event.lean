import WarmStorage.Codec.State
import WarmStorage.Event

/-!
Events as JSON trees: the name of what happened, and what it happened to. They are only written.
-/

namespace WarmStorage

open Codec (encode)

def Event.toJson (e : Event) : Json :=
  let record (name : String) (members : List (String × Json)) : Json :=
    .ofMembers (("event", .ofString name) :: members)
  match e with
  | .dataSetCreated dataSet provider storageRail cacheMissRail cdnRail payer serviceProvider payee
      metadata =>
    record "DataSetCreated" [("data_set_id", encode dataSet),
      ("provider_id", encode provider), ("pdp_rail_id", encode storageRail),
      ("cache_miss_rail_id", encode cacheMissRail), ("cdn_rail_id", encode cdnRail),
      ("payer", encode payer), ("service_provider", encode serviceProvider),
      ("payee", encode payee), ("metadata", encode metadata)]
  | .piecesAdded dataSet pieces nonce =>
    record "PiecesAdded" [("data_set_id", encode dataSet),
      ("piece_ids", encode pieces), ("nonce", encode nonce)]
  | .pieceRemovalsScheduled dataSet pieces =>
    record "PieceRemovalsScheduled" [("data_set_id", encode dataSet),
      ("piece_ids", encode pieces)]
  | .possessionProven dataSet period epoch =>
    record "PossessionProven" [("data_set_id", encode dataSet),
      ("period", encode period), ("epoch", encode epoch)]
  | .nextProvingPeriod dataSet challenge deadline leafCount =>
    record "NextProvingPeriod" [("data_set_id", encode dataSet),
      ("challenge_epoch", encode challenge), ("deadline", encode deadline),
      ("leaf_count", encode leafCount)]
  | .faultRecorded dataSet periods deadline =>
    record "FaultRecord" [("data_set_id", encode dataSet),
      ("periods_faulted", encode periods), ("deadline", encode deadline)]
  | .railRateUpdated dataSet rail rate =>
    record "RailRateUpdated" [("data_set_id", encode dataSet),
      ("rail_id", encode rail), ("rate", encode rate)]
  | .serviceTerminated caller dataSet storageRail cacheMissRail cdnRail =>
    record "ServiceTerminated" [("caller", encode caller),
      ("data_set_id", encode dataSet), ("pdp_rail_id", encode storageRail),
      ("cache_miss_rail_id", encode cacheMissRail), ("cdn_rail_id", encode cdnRail)]
  | .storagePaymentTerminated dataSet endEpoch storageRail =>
    record "PdpPaymentTerminated" [("data_set_id", encode dataSet),
      ("end_epoch", encode endEpoch), ("pdp_rail_id", encode storageRail)]
  | .dataSetDeleted dataSet leafCount =>
    record "DataSetDeleted" [("data_set_id", encode dataSet),
      ("deleted_leaf_count", encode leafCount)]
  | .providerChanged dataSet old new provider =>
    record "ProviderChanged" [("data_set_id", encode dataSet),
      ("old_service_provider", encode old), ("new_service_provider", encode new),
      ("provider_id", encode provider)]
  | .cdnRailsToppedUp dataSet cdnLockup cacheMissLockup =>
    record "CdnPaymentRailsToppedUp" [("data_set_id", encode dataSet),
      ("cdn_lockup", encode cdnLockup), ("cache_miss_lockup", encode cacheMissLockup)]
  | .cdnPaymentSettled dataSet cdnAmount cacheMissAmount =>
    record "CdnPaymentSettled" [("data_set_id", encode dataSet),
      ("cdn_amount", encode cdnAmount), ("cache_miss_amount", encode cacheMissAmount)]
  | .providerApproved provider =>
    record "ProviderApproved" [("provider_id", encode provider)]
  | .providerUnapproved provider =>
    record "ProviderUnapproved" [("provider_id", encode provider)]
  | .provingParamsUpdated params =>
    record "ProvingParamsUpdated" [("params", encode params)]
  | .commissionUpdated bps => record "CommissionUpdated" [("commission_bps", encode bps)]
  | .pricingUpdated => record "PricingUpdated" []

end WarmStorage

import WarmStorage.Service.Creation
import WarmStorage.Service.Egress
import WarmStorage.Service.Lifecycle
import WarmStorage.Service.Owner
import WarmStorage.Service.Pieces
import WarmStorage.Service.Proving

/-!
All calls of the service as one type, so that a run of the service is a list of calls.
-/

namespace WarmStorage

inductive Call where
  | dataSetCreated (dataSet : DataSetId) (serviceProvider : Address) (request : CreationRequest)
  | piecesAdded (dataSet : DataSetId) (first : PieceId) (pieces : List (List UInt8))
      (request : AdditionRequest)
  | piecesScheduledForRemoval (dataSet : DataSetId) (pieces : List PieceId)
      (signature : List UInt8)
  | possessionProven (dataSet : DataSetId) (count : UInt64)
  | nextProvingPeriod (dataSet : DataSetId) (challenge : Epoch) (leafCount : UInt64)
  | dataSetDeleted (dataSet : DataSetId) (leafCount : UInt64)
  | providerChanged (dataSet : DataSetId) (old new : Address)
  | railTerminated (rail : RailId) (endEpoch : Epoch)
  | arbitrate (rail : RailId) (proposed : TokenAmount) (after upTo : Epoch)
  | terminateService (dataSet : DataSetId)
  | topUpEgress (dataSet : DataSetId) (cdnAmount cacheMissAmount : TokenAmount)
  | settleEgress (dataSet : DataSetId) (cdnAmount cacheMissAmount : TokenAmount)
  | approveProvider (provider : ProviderId)
  | unapproveProvider (provider : ProviderId)
  | setProvingParams (params : ProvingParams)
  | setCommission (bps : UInt16)
  | setPricing (pricing : Pricing)

inductive Reply where
  | done
  | endEpoch (epoch : Epoch)
  | outcome (o : SettlementOutcome)
deriving DecidableEq, Repr

namespace ServiceM

def done (call : ServiceM Unit) : ServiceM Reply := do
  call
  return .done

def perform (ctx : CallContext) : Call → ServiceM Reply
  | .dataSetCreated dataSet serviceProvider request =>
    done (dataSetCreated ctx dataSet serviceProvider request)
  | .piecesAdded dataSet first pieces request => done (piecesAdded ctx dataSet first pieces request)
  | .piecesScheduledForRemoval dataSet pieces signature =>
    done (piecesScheduledForRemoval ctx dataSet pieces signature)
  | .possessionProven dataSet count => done (possessionProven ctx dataSet count)
  | .nextProvingPeriod dataSet challenge leafCount =>
    done (nextProvingPeriod ctx dataSet challenge leafCount)
  | .dataSetDeleted dataSet leafCount => done (dataSetDeleted ctx dataSet leafCount)
  | .providerChanged dataSet old new => done (providerChanged ctx dataSet old new)
  | .railTerminated rail endEpoch => done (railTerminated ctx rail endEpoch)
  | .arbitrate rail proposed after upTo =>
    return .outcome (← arbitrate ctx rail proposed after upTo)
  | .terminateService dataSet => return .endEpoch (← terminateService ctx dataSet)
  | .topUpEgress dataSet cdnAmount cacheMissAmount =>
    done (topUpEgress ctx dataSet cdnAmount cacheMissAmount)
  | .settleEgress dataSet cdnAmount cacheMissAmount =>
    done (settleEgress ctx dataSet cdnAmount cacheMissAmount)
  | .approveProvider provider => done (approveProvider ctx provider)
  | .unapproveProvider provider => done (unapproveProvider ctx provider)
  | .setProvingParams params => done (setProvingParams ctx params)
  | .setCommission bps => done (setCommission ctx bps)
  | .setPricing pricing => done (setPricing ctx pricing)

end ServiceM

def Service.call (s : Service) (ctx : CallContext) (c : Call) :
    Except ServiceError Reply × Service :=
  match (ServiceM.perform ctx c).run s with
  | .ok reply s => (.ok reply, s)
  | .error e s => (.error e, s)

end WarmStorage

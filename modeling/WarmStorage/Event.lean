import WarmStorage.Config

/-!
Records of what the service did, in the order in which it happened.
-/

namespace WarmStorage

inductive Event where
  | dataSetCreated (dataSet : DataSetId) (provider : ProviderId) (storageRail : RailId)
      (cacheMissRail cdnRail : Option RailId) (payer serviceProvider payee : Address)
      (metadata : Metadata)
  | piecesAdded (dataSet : DataSetId) (pieces : List PieceId) (nonce : UInt256)
  | pieceRemovalsScheduled (dataSet : DataSetId) (pieces : List PieceId)
  | possessionProven (dataSet : DataSetId) (period : UInt64) (epoch : Epoch)
  | nextProvingPeriod (dataSet : DataSetId) (challenge deadline : Epoch) (leafCount : UInt64)
  | faultRecorded (dataSet : DataSetId) (periods : UInt64) (deadline : Epoch)
  | railRateUpdated (dataSet : DataSetId) (rail : RailId) (rate : TokenAmount)
  | serviceTerminated (caller : Address) (dataSet : DataSetId) (storageRail : RailId)
      (cacheMissRail cdnRail : Option RailId)
  | storagePaymentTerminated (dataSet : DataSetId) (endEpoch : Epoch) (storageRail : RailId)
  | dataSetDeleted (dataSet : DataSetId) (leafCount : UInt64)
  | providerChanged (dataSet : DataSetId) (old new : Address) (provider : ProviderId)
  | cdnRailsToppedUp (dataSet : DataSetId) (cdnLockup cacheMissLockup : TokenAmount)
  | cdnPaymentSettled (dataSet : DataSetId) (cdnAmount cacheMissAmount : TokenAmount)
  | providerApproved (provider : ProviderId)
  | providerUnapproved (provider : ProviderId)
  | provingParamsUpdated (params : ProvingParams)
  | commissionUpdated (bps : UInt16)
  | pricingUpdated
deriving DecidableEq, Repr

end WarmStorage

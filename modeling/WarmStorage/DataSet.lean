import Std.Data.ExtTreeMap
import WarmStorage.Config

/-!
Data sets: what a payer and a storage provider agreed on, the rails that pay for it, and the
metadata of the whole and of its pieces.
-/

namespace WarmStorage

structure Deal where
  id : DataSetId
  payer : Address
  serviceProvider : Address
  payee : Address
  clientDataSetId : UInt256
  storageRail : RailId
  cacheMissRail : Option RailId
  cdnRail : Option RailId
  commissionBps : UInt16
  /-- The last epoch that storage is paid for, zero while it is not terminated. -/
  endEpoch : Epoch := 0
  withCdn : Bool
  metadata : Metadata
  pieceMetadata : Std.ExtTreeMap PieceId Metadata := ∅
  piecesAdded : UInt64 := 0

structure DataSet extends Deal where
  providerId : ProviderId

namespace Deal

def isTerminated (d : Deal) : Bool :=
  d.endEpoch != 0

/-- Whether storage was paid for only up to an epoch before `epoch`. -/
def isPastEnd (d : Deal) (epoch : Epoch) : Bool :=
  d.isTerminated && d.endEpoch < epoch

def hasCdnRails (d : Deal) : Bool :=
  d.cdnRail.isSome && d.cacheMissRail.isSome

def egressRails (d : Deal) : List RailId :=
  d.cacheMissRail.toList ++ d.cdnRail.toList

def railIds (d : Deal) : List RailId :=
  d.storageRail :: d.egressRails

end Deal

namespace DataSet

/-- The data set without its marks of the CDN add-on; the rails stay known. -/
def withoutCdn (d : DataSet) : DataSet :=
  { d with withCdn := false, metadata := d.metadata.filter (·.key != withCdnKey) }

end DataSet

end WarmStorage

import Std.Data.ExtTreeMap
import WarmStorage.Word

/-!
The handles and quantities that the parts of the service exchange. They are plain numbers, given
names here so that signatures say which kind of number is meant.
-/

namespace WarmStorage

abbrev Epoch := UInt64

abbrev DataSetId := UInt64

abbrev RailId := UInt64

abbrev PieceId := UInt64

abbrev ProviderId := UInt64

/-- An amount of the payment token in its smallest unit. -/
abbrev TokenAmount := UInt256

/-- An account on the host chain: 20 bytes, the first one most significant. -/
abbrev Address := BitVec 160

abbrev Digest := BitVec 256

instance : Std.TransOrd Address := BitVec.instTransOrd

instance : Std.TransOrd UInt256 := BitVec.instTransOrd

end WarmStorage

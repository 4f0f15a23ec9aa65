import WarmStorage.Address

/-!
The structure of what is hashed when a payer signs. The bytes of an encoding are given outright or
are the hash of other encodings; keeping the tree apart from its bytes names every string that is
hashed on the way.
-/

namespace WarmStorage

inductive Encoding where
  | raw (bytes : List UInt8)
  | hashed (parts : List Encoding)

namespace Encoding

mutual

def bytes : Encoding → List UInt8
  | raw bs => bs
  | hashed parts => Hash.Keccak.hashBytes (bytesOfParts parts)

def bytesOfParts : List Encoding → List UInt8
  | [] => []
  | p :: ps => p.bytes ++ bytesOfParts ps

end

mutual

/-- Every string that is hashed while the bytes are computed. -/
def preimages : Encoding → List (List UInt8)
  | raw _ => []
  | hashed parts => bytesOfParts parts :: preimagesOfParts parts

def preimagesOfParts : List Encoding → List (List UInt8)
  | [] => []
  | p :: ps => p.preimages ++ preimagesOfParts ps

end

def word (n : UInt256) : Encoding :=
  raw (Bytes.ofNat 32 n.toNat)

def address (a : Address) : Encoding :=
  raw (Bytes.ofNat 32 a.toNat)

def bool (b : Bool) : Encoding :=
  word (if b then 1 else 0)

def dynamic (bs : List UInt8) : Encoding :=
  hashed [raw bs]

def string (s : String) : Encoding :=
  dynamic (Bytes.ofString s)

def list (elements : List Encoding) : Encoding :=
  hashed elements

def struct (type : String) (fields : List Encoding) : Encoding :=
  hashed (string type :: fields)

end Encoding

end WarmStorage

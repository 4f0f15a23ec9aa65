import WarmStorage.Authorization.TypedData
import WarmStorage.Config

/-!
The requests that payers sign, and the digests they sign for them. A digest covers the type of the
request, all of its fields, and the signing domain: the name, version and chain of the deployment
and the address of the service.
-/

namespace WarmStorage

inductive Message where
  | createDataSet (clientDataSetId : UInt256) (payee : Address) (metadata : Metadata)
  | createDataSetWithCdn (clientDataSetId : UInt256) (withCdn : Bool) (payee : Address)
      (metadata : Metadata)
  | addPieces (clientDataSetId nonce : UInt256) (pieces : List (List UInt8))
      (metadata : List Metadata)
  | schedulePieceRemovals (clientDataSetId : UInt256) (pieceIds : List PieceId)
deriving DecidableEq, Repr

inductive MessageKind where
  | createDataSet
  | createDataSetWithCdn
  | addPieces
  | schedulePieceRemovals
deriving DecidableEq, Repr

namespace MessageKind

def name : MessageKind → String
  | createDataSet => "CreateDataSet"
  | createDataSetWithCdn => "CreateDataSetWithCdn"
  | addPieces => "AddPieces"
  | schedulePieceRemovals => "SchedulePieceRemovals"

def all : List MessageKind :=
  [createDataSet, createDataSetWithCdn, addPieces, schedulePieceRemovals]

def ofName? (name : String) : Option MessageKind :=
  all.find? (·.name == name)

end MessageKind

namespace Encoding

def entryType : String := "MetadataEntry(string key,string value)"

def contentType : String := "Cid(bytes data)"

def pieceMetadataType : String := "PieceMetadata(uint256 pieceIndex,MetadataEntry[] metadata)"

def metadata (entries : Metadata) : Encoding :=
  list (entries.map fun e => struct entryType [string e.key, string e.value])

def piece (data : List UInt8) : Encoding :=
  struct contentType [dynamic data]

def pieceMetadata (index : Nat) : List Metadata → List Encoding
  | [] => []
  | entries :: rest =>
    struct (pieceMetadataType ++ entryType) [word (BitVec.ofNat 256 index), metadata entries] ::
      pieceMetadata (index + 1) rest

end Encoding

def MessageKind.type : MessageKind → String
  | createDataSet =>
    "CreateDataSet(uint256 clientDataSetId,address payee,MetadataEntry[] metadata)" ++
      Encoding.entryType
  | createDataSetWithCdn =>
    "CreateDataSetWithCdn(uint256 clientDataSetId,bool withCDN,address payee," ++
      "MetadataEntry[] metadata)" ++ Encoding.entryType
  | addPieces =>
    "AddPieces(uint256 clientDataSetId,uint256 nonce,Cid[] pieceData," ++
      "PieceMetadata[] pieceMetadata)" ++ Encoding.contentType ++ Encoding.entryType ++
      Encoding.pieceMetadataType
  | schedulePieceRemovals => "SchedulePieceRemovals(uint256 clientDataSetId,uint256[] pieceIds)"

def MessageKind.typeHash (kind : MessageKind) : Digest :=
  Hash.Keccak.hash (Bytes.ofString kind.type)

namespace Message

def kind : Message → MessageKind
  | createDataSet .. => .createDataSet
  | createDataSetWithCdn .. => .createDataSetWithCdn
  | addPieces .. => .addPieces
  | schedulePieceRemovals .. => .schedulePieceRemovals

def fields : Message → List Encoding
  | createDataSet clientDataSetId payee metadata =>
    [.word clientDataSetId, .address payee, .metadata metadata]
  | createDataSetWithCdn clientDataSetId withCdn payee metadata =>
    [.word clientDataSetId, .bool withCdn, .address payee, .metadata metadata]
  | addPieces clientDataSetId nonce pieces metadata =>
    [.word clientDataSetId, .word nonce, .list (pieces.map .piece),
      .list (Encoding.pieceMetadata 0 metadata)]
  | schedulePieceRemovals clientDataSetId pieceIds =>
    [.word clientDataSetId, .list (pieceIds.map fun id => .word (.ofWord id))]

def encoding (m : Message) : Encoding :=
  .struct m.kind.type m.fields

end Message

structure SigningContext where
  domain : SigningDomain
  verifyingContract : Address
deriving DecidableEq, Repr

namespace SigningContext

def type : String :=
  "EIP712Domain(string name,string version,uint256 chainId,address verifyingContract)"

def encoding (ctx : SigningContext) : Encoding :=
  .struct type
    [.string ctx.domain.name, .string ctx.domain.version, .word (.ofWord ctx.domain.chainId),
      .address ctx.verifyingContract]

def separator (ctx : SigningContext) : Digest :=
  BitVec.ofNat 256 (Bytes.toNat ctx.encoding.bytes)

def signing (ctx : SigningContext) (m : Message) : Encoding :=
  .hashed [.raw [0x19, 0x01], ctx.encoding, m.encoding]

def signingHash (ctx : SigningContext) (m : Message) : Digest :=
  BitVec.ofNat 256 (Bytes.toNat (ctx.signing m).bytes)

end SigningContext

end WarmStorage

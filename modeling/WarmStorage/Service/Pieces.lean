import WarmStorage.Service.Basic

/-!
Pieces of data sets: the payer signs which pieces are added and which are to be removed.
-/

namespace WarmStorage

structure AdditionRequest where
  nonce : UInt256
  pieceMetadata : List Metadata
  signature : List UInt8

def pieceIds (first : PieceId) (count : Nat) : Except ServiceError (List PieceId) :=
  (List.range count).mapM fun offset =>
    match Word.fit? (first.toNat + offset) with
    | some id => .ok id
    | none => .error (.overflow "piece id")

namespace ServiceM

def checkPieceMetadata (limits : MetadataLimits) : List Metadata → ServiceM Unit
  | [] => return
  | entries :: rest => do
    ofExcept .metadata (limits.validate entries .piece)
    checkPieceMetadata limits rest

def piecesAdded (ctx : CallContext) (id : DataSetId) (first : PieceId)
    (pieces : List (List UInt8)) (request : AdditionRequest) : ServiceM Unit := do
  requireVerifier ctx
  let d ← dataSet id
  if d.isTerminated then
    throw (.paymentTerminated id)
  if request.pieceMetadata.length ≠ pieces.length then
    throw (.pieceMetadataMismatch pieces.length request.pieceMetadata.length)
  checkPieceMetadata (← config).metadata request.pieceMetadata
  if ((← state).replay.nonce? d.payer request.nonce).isSome then
    throw (.nonceUsed d.payer request.nonce)
  requireSigned ctx (.addPieces d.clientDataSetId request.nonce pieces request.pieceMetadata)
    request.signature d.payer
  let ids ← ofExcept (·) (pieceIds first pieces.length)
  let count := d.piecesAdded + .ofNat pieces.length
  setDataSet id { d with
    pieceMetadata := (ids.zip request.pieceMetadata).foldl (fun m (piece, entries) =>
      m.insert piece entries) d.pieceMetadata
    piecesAdded := count }
  modifyState fun s =>
    { s with replay := s.replay.recordNonce d.payer request.nonce ⟨id, count⟩ }
  emit (.piecesAdded id ids request.nonce)

def piecesScheduledForRemoval (ctx : CallContext) (id : DataSetId) (pieces : List PieceId)
    (signature : List UInt8) : ServiceM Unit := do
  requireVerifier ctx
  let d ← dataSet id
  requireNotPastEnd ctx id d
  requireSigned ctx (.schedulePieceRemovals d.clientDataSetId pieces) signature d.payer
  emit (.pieceRemovalsScheduled id pieces)

end ServiceM

end WarmStorage

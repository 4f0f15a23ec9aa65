import WarmStorage.Proofs.Ledger.Operations
import WarmStorage.Proofs.Service.Failure

/-!
The calls of the verifier about pieces. An addition changes the data set that it is for and records
the nonce of the payer; a removal is only reported.
-/

namespace WarmStorage

open Ledger (bind_eq_ok_iff)

theorem toNat_of_pieceIds {first : PieceId} {count : Nat} {ids : List PieceId}
    (h : pieceIds first count = .ok ids) :
    ids.map UInt64.toNat = (List.range count).map (first.toNat + ·) := by
  unfold pieceIds at h
  generalize List.range count = offsets at h ⊢
  induction offsets generalizing ids with
  | nil =>
    cases h
    rfl
  | cons offset offsets ih =>
    rw [List.mapM_cons] at h
    obtain ⟨id, hid, h⟩ := bind_eq_ok_iff.mp h
    obtain ⟨ids, hids, h⟩ := bind_eq_ok_iff.mp h
    cases h
    rw [List.map_cons, List.map_cons, ih hids]
    congr 1
    split at hid
    · rename_i hfit
      cases hid
      exact Word.fit?_eq_some_iff.mp hfit
    · contradiction

theorem length_of_pieceIds {first : PieceId} {count : Nat} {ids : List PieceId}
    (h : pieceIds first count = .ok ids) : ids.length = count := by
  have := congrArg List.length (toNat_of_pieceIds h)
  rwa [List.length_map, List.length_map, List.length_range] at this

theorem nodup_of_pieceIds {first : PieceId} {count : Nat} {ids : List PieceId}
    (h : pieceIds first count = .ok ids) : ids.Nodup := by
  have hnodup : (ids.map UInt64.toNat).Nodup := by
    rw [toNat_of_pieceIds h, List.nodup_iff_pairwise_ne, List.pairwise_map]
    exact List.nodup_range.imp fun hne heq => hne (Nat.add_left_cancel heq)
  exact List.Pairwise.of_map _ (fun _ _ hne heq => hne (congrArg UInt64.toNat heq)) hnodup

section

variable {α : Type} {m : Std.ExtTreeMap UInt64 α} {keys : List UInt64} {key : UInt64}
  {values : List α}

theorem getElem?_foldl_insert_zip_of_not_mem (h : key ∉ keys) :
    ((keys.zip values).foldl (fun m (k, v) => m.insert k v) m)[key]? = m[key]? := by
  induction keys generalizing m values with
  | nil => rfl
  | cons k keys ih =>
    rw [List.mem_cons, not_or] at h
    cases values with
    | nil => rfl
    | cons v values =>
      rw [List.zip_cons_cons, List.foldl_cons, ih h.2, Std.ExtTreeMap.getElem?_insert, if_neg]
      rw [Std.compare_eq_iff_eq]
      exact Ne.symm h.1

theorem map_foldl_insert_zip (hkeys : keys.Nodup) (hlength : values.length = keys.length) :
    keys.map (fun key => ((keys.zip values).foldl (fun m (k, v) => m.insert k v) m)[key]?) =
      values.map some := by
  induction keys generalizing m values with
  | nil =>
    rw [List.eq_nil_of_length_eq_zero hlength]
    rfl
  | cons k keys ih =>
    obtain ⟨hk, hkeys⟩ := List.nodup_cons.mp hkeys
    cases values with
    | nil => contradiction
    | cons v values =>
      simp only [List.zip_cons_cons, List.foldl_cons, List.map_cons]
      rw [getElem?_foldl_insert_zip_of_not_mem hk, ih hkeys (Nat.succ.inj hlength),
        Std.ExtTreeMap.getElem?_insert_self]

end

namespace ServiceM

variable {ctx : CallContext} {id : DataSetId} {d : DataSet} {s s' : Service} {u : Unit}
  {first : PieceId} {pieces : List (List UInt8)} {request : AdditionRequest}
  {removed : List PieceId} {signature : List UInt8} {limits : MetadataLimits}
  {lists : List Metadata} {R : Service → Service → Prop} [Std.Refl R]
  [IsTrans Service R]

theorem succeeds_checkPieceMetadata : Succeeds (checkPieceMetadata limits lists) s u s' ↔
    (∀ entries ∈ lists, limits.validate entries .piece = .ok ()) ∧ s' = s := by
  induction lists generalizing s with
  | nil => simp [checkPieceMetadata]
  | cons entries lists ih =>
    simp only [checkPieceMetadata, succeeds_bind, succeeds_ofExcept, ih, List.forall_mem_cons]
    constructor
    · rintro ⟨⟨⟩, _, ⟨hentries, rfl⟩, hlists, rfl⟩
      exact ⟨⟨hentries, hlists⟩, rfl⟩
    · rintro ⟨⟨hentries, hlists⟩, rfl⟩
      exact ⟨(), s', ⟨hentries, rfl⟩, hlists, rfl⟩

theorem within_checkPieceMetadata : Within R (checkPieceMetadata limits lists) := by
  induction lists with
  | nil => exact within_pure
  | cons entries lists ih => exact within_ofExcept.bind fun _ => ih

def addedPieces (d : DataSet) (ids : List PieceId) (request : AdditionRequest) (count : UInt64) :
    DataSet :=
  { d with
    pieceMetadata := (ids.zip request.pieceMetadata).foldl (fun m (piece, entries) =>
      m.insert piece entries) d.pieceMetadata
    piecesAdded := count }

theorem pieceMetadata_addedPieces {ids : List PieceId} {count : UInt64}
    (hids : pieceIds first pieces.length = .ok ids)
    (hlength : request.pieceMetadata.length = pieces.length) :
    ids.map (fun piece => (addedPieces d ids request count).pieceMetadata[piece]?) =
      request.pieceMetadata.map some :=
  map_foldl_insert_zip (nodup_of_pieceIds hids) (hlength.trans (length_of_pieceIds hids).symm)

theorem succeeds_piecesAdded : Succeeds (piecesAdded ctx id first pieces request) s u s' ↔
    ctx.caller = s.state.config.verifier ∧ ∃ d, s.state.dataSet? id = some d ∧
      d.isTerminated = false ∧ request.pieceMetadata.length = pieces.length ∧
      (∀ entries ∈ request.pieceMetadata,
        s.state.config.metadata.validate entries .piece = .ok ()) ∧
      s.state.replay.nonce? d.payer request.nonce = none ∧
      (∃ signer, s.signingContext.verify
        (.addPieces d.clientDataSetId request.nonce pieces request.pieceMetadata)
        request.signature d.payer s.sessionKeys ctx.epoch = .ok signer) ∧
      ∃ ids, pieceIds first pieces.length = .ok ids ∧
        s' = { s with
          state := { s.state with
            dataSets := s.state.dataSets.insert id
              (addedPieces d ids request (d.piecesAdded + .ofNat pieces.length))
            replay := s.state.replay.recordNonce d.payer request.nonce
              ⟨id, d.piecesAdded + .ofNat pieces.length⟩ }
          events := s.events ++ [.piecesAdded id ids request.nonce] } := by
  simp [piecesAdded, succeeds_checkPieceMetadata, addedPieces, and_assoc]

theorem refusedWithin_piecesAdded : RefusedWithin R (piecesAdded ctx id first pieces request) := by
  refine within_requireVerifier.bind_refused fun _ => within_dataSet.bind_refused fun d => ?_
  apply RefusedWithin.guard
  apply RefusedWithin.guard
  refine within_config.bind_refused fun _ => within_checkPieceMetadata.bind_refused fun _ =>
    within_state.bind_refused fun _ => ?_
  apply RefusedWithin.guard
  exact within_requireSigned.bind_refused fun _ => within_ofExcept.bind_refused fun _ =>
    (total_modifyState.bind fun _ => total_modifyState.bind fun _ => total_emit).refusedWithin

theorem succeeds_piecesScheduledForRemoval :
    Succeeds (piecesScheduledForRemoval ctx id removed signature) s u s' ↔
      ctx.caller = s.state.config.verifier ∧ ∃ d, s.state.dataSet? id = some d ∧
        d.isPastEnd ctx.epoch = false ∧
        (∃ signer, s.signingContext.verify (.schedulePieceRemovals d.clientDataSetId removed)
          signature d.payer s.sessionKeys ctx.epoch = .ok signer) ∧
        s' = { s with events := s.events ++ [.pieceRemovalsScheduled id removed] } := by
  simp [piecesScheduledForRemoval, and_assoc]

theorem refusedWithin_piecesScheduledForRemoval :
    RefusedWithin R (piecesScheduledForRemoval ctx id removed signature) :=
  within_requireVerifier.bind_refused fun _ => within_dataSet.bind_refused fun _ =>
    within_requireNotPastEnd.bind_refused fun _ => within_requireSigned.bind_refused fun _ =>
    total_emit.refusedWithin

end ServiceM

end WarmStorage

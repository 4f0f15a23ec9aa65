import WarmStorage.Proofs.Authorization.Verification

/-!
What a digest is bound to. A digest is computed by hashing structures that hold hashes of further
structures, so two requests can have one digest only if they are the same request in the same
context, or if two different strings were hashed to the same bytes on the way. Nothing is used of
the hash but that it has 32 bytes.

The proofs go down both trees of what is hashed at once: from the same bytes at a node follow the
same bytes at its parts, down to values that are determined by their bytes.
-/

namespace WarmStorage

namespace Bytes

variable {count m n : Nat} {as bs : List UInt8}

theorem ofNat_inj (hm : m < capacity count) (hn : n < capacity count)
    (h : ofNat count m = ofNat count n) : m = n := by
  have htoNat := congrArg toNat h
  rwa [toNat_ofNat, toNat_ofNat, Nat.mod_eq_of_lt hm, Nat.mod_eq_of_lt hn] at htoNat

theorem toNat_inj (hlength : as.length = bs.length) (h : toNat as = toNat bs) : as = bs := by
  rw [← ofNat_toNat as, ← ofNat_toNat bs, hlength, h]

theorem toList_loop_eq (bs : ByteArray) (i : Nat) (front : List UInt8) :
    ByteArray.toList.loop bs i front = front.reverse ++ bs.data.toList.drop i := by
  fun_induction ByteArray.toList.loop bs i front with
  | case1 i front hlt ih =>
    have hi : i < bs.data.toList.length := hlt
    rw [ih, List.drop_eq_getElem_cons hi]
    simp [ByteArray.get!, hlt]
  | case2 i front hge =>
    rw [List.drop_eq_nil_of_le (Nat.le_of_not_lt hge), List.append_nil]

theorem ofString_inj {s t : String} (h : ofString s = ofString t) : s = t := by
  have hdata : s.toUTF8.data.toList = t.toUTF8.data.toList := by
    simpa only [ofString, ByteArray.toList, toList_loop_eq, List.reverse_nil, List.nil_append,
      List.drop_zero] using h
  exact String.toByteArray_inj.mp (ByteArray.ext (Array.toList_inj.mp hdata))

end Bytes

namespace Hash

namespace Keccak

variable {a b message : List UInt8}

@[simp]
theorem length_hashBytes : (hashBytes message).length = 32 := by
  simp [hashBytes, squeeze, List.length_flatMap, List.map_const']

theorem toNat_hashBytes_lt : Bytes.toNat (hashBytes message) < 2 ^ 256 := by
  have hlt := Bytes.toNat_lt (hashBytes message)
  rw [length_hashBytes] at hlt
  exact hlt

theorem hash_eq_iff : hash a = hash b ↔ hashBytes a = hashBytes b := by
  constructor
  · intro h
    have htoNat := congrArg BitVec.toNat h
    rw [hash, hash, BitVec.toNat_ofNat, BitVec.toNat_ofNat, Nat.mod_eq_of_lt toNat_hashBytes_lt,
      Nat.mod_eq_of_lt toNat_hashBytes_lt] at htoNat
    exact Bytes.toNat_inj (length_hashBytes.trans length_hashBytes.symm) htoNat
  · intro h
    rw [hash, hash, h]

end Keccak

/-- Two of the strings are different and have the same hash. -/
def Collides (strings : List (List UInt8)) : Prop :=
  ∃ a ∈ strings, ∃ b ∈ strings, a ≠ b ∧ Keccak.hash a = Keccak.hash b

end Hash

open Hash (Collides)

namespace Encoding

variable {strings : List (List UInt8)} {p q : Encoding} {ps qs : List Encoding}

@[simp]
theorem length_bytes_word {n : UInt256} : (word n).bytes.length = 32 := by
  rw [word, bytes, Bytes.length_ofNat]

@[simp]
theorem length_bytes_address {a : Address} : (address a).bytes.length = 32 := by
  rw [address, bytes, Bytes.length_ofNat]

@[simp]
theorem length_bytes_bool {b : Bool} : (bool b).bytes.length = 32 :=
  length_bytes_word

@[simp]
theorem length_bytes_hashed : (hashed ps).bytes.length = 32 := by
  rw [bytes, Hash.Keccak.length_hashBytes]

@[simp]
theorem length_bytes_string {s : String} : (string s).bytes.length = 32 :=
  length_bytes_hashed

@[simp]
theorem length_bytes_list : (list ps).bytes.length = 32 :=
  length_bytes_hashed

@[simp]
theorem length_bytes_struct {type : String} : (struct type ps).bytes.length = 32 :=
  length_bytes_hashed

@[simp]
theorem length_bytes_metadata {entries : Metadata} : (metadata entries).bytes.length = 32 :=
  length_bytes_list

/-- Two encodings have the same bytes, and what is hashed for them is among `strings`. -/
structure Agree (strings : List (List UInt8)) (p q : Encoding) : Prop where
  left : p.preimages ⊆ strings
  right : q.preimages ⊆ strings
  bytes_eq : p.bytes = q.bytes

structure PartsAgree (strings : List (List UInt8)) (ps qs : List Encoding) : Prop where
  left : preimagesOfParts ps ⊆ strings
  right : preimagesOfParts qs ⊆ strings
  bytes_eq : bytesOfParts ps = bytesOfParts qs

/-- Only different strings that are hashed alike could stand between the hashes and the parts. -/
theorem Agree.parts (h : Agree strings (hashed ps) (hashed qs)) (free : ¬ Collides strings) :
    PartsAgree strings ps qs := by
  obtain ⟨hleft, hright, hbytes⟩ := h
  rw [preimages, List.cons_subset] at hleft hright
  rw [bytes, bytes, ← Hash.Keccak.hash_eq_iff] at hbytes
  refine ⟨hleft.2, hright.2, Decidable.byContradiction fun hne => ?_⟩
  exact free ⟨_, hleft.1, _, hright.1, hne, hbytes⟩

theorem PartsAgree.cons (h : PartsAgree strings (p :: ps) (q :: qs))
    (hlength : p.bytes.length = q.bytes.length := by simp) :
    Agree strings p q ∧ PartsAgree strings ps qs := by
  obtain ⟨hleft, hright, hbytes⟩ := h
  rw [preimagesOfParts, List.append_subset] at hleft hright
  rw [bytesOfParts, bytesOfParts] at hbytes
  obtain ⟨hhead, htail⟩ := List.append_inj hbytes hlength
  exact ⟨⟨hleft.1, hright.1, hhead⟩, hleft.2, hright.2, htail⟩

theorem PartsAgree.symm (h : PartsAgree strings ps qs) : PartsAgree strings qs ps :=
  ⟨h.right, h.left, h.bytes_eq.symm⟩

theorem PartsAgree.not_nil_cons (h : PartsAgree strings [] (q :: qs))
    (hlength : q.bytes.length = 32 := by simp) : False := by
  have hbytes := congrArg List.length h.bytes_eq
  rw [bytesOfParts, bytesOfParts, List.length_append, hlength, List.length_nil] at hbytes
  omega

theorem Agree.struct {type type' : String}
    (h : Agree strings (Encoding.struct type ps) (Encoding.struct type' qs))
    (free : ¬ Collides strings) :
    Agree strings (string type) (string type') ∧ PartsAgree strings ps qs :=
  (h.parts free).cons

theorem Agree.word_inj {m n : UInt256} (h : Agree strings (word m) (word n)) : m = n := by
  have hlt (n : UInt256) : n.toNat < Bytes.capacity 32 := Nat.lt_of_lt_of_le n.isLt (by decide)
  have hbytes := h.bytes_eq
  rw [word, word, bytes, bytes] at hbytes
  exact BitVec.eq_of_toNat_eq (Bytes.ofNat_inj (hlt m) (hlt n) hbytes)

theorem Agree.address_inj {a b : Address} (h : Agree strings (address a) (address b)) : a = b := by
  have hlt (a : Address) : a.toNat < Bytes.capacity 32 := Nat.lt_of_lt_of_le a.isLt (by decide)
  have hbytes := h.bytes_eq
  rw [address, address, bytes, bytes] at hbytes
  exact BitVec.eq_of_toNat_eq (Bytes.ofNat_inj (hlt a) (hlt b) hbytes)

theorem Agree.bool_inj {a b : Bool} (h : Agree strings (bool a) (bool b)) : a = b := by
  have hword : (if a then 1 else 0 : UInt256) = if b then 1 else 0 := h.word_inj
  cases a <;> cases b
  · rfl
  · contradiction
  · contradiction
  · rfl

theorem Agree.ofWord_inj {m n : UInt64}
    (h : Agree strings (word (.ofWord m)) (word (.ofWord n))) : m = n := by
  have htoNat := congrArg BitVec.toNat h.word_inj
  rwa [UInt256.toNat_ofWord, UInt256.toNat_ofWord, UInt64.toNat_inj] at htoNat

theorem Agree.dynamic_inj {as bs : List UInt8} (h : Agree strings (dynamic as) (dynamic bs))
    (free : ¬ Collides strings) : as = bs := by
  have hbytes := (h.parts free).bytes_eq
  simpa only [bytesOfParts, bytes, List.append_nil] using hbytes

theorem Agree.string_inj {s t : String} (h : Agree strings (string s) (string t))
    (free : ¬ Collides strings) : s = t :=
  Bytes.ofString_inj (h.dynamic_inj free)

theorem PartsAgree.map_inj {α : Type} {f : α → Encoding} {as bs : List α}
    (h : PartsAgree strings (as.map f) (bs.map f)) (hlength : ∀ a, (f a).bytes.length = 32)
    (hf : ∀ {a b}, Agree strings (f a) (f b) → a = b) : as = bs := by
  induction as generalizing bs with
  | nil =>
    cases bs with
    | nil => rfl
    | cons b bs => exact (h.not_nil_cons (hlength b)).elim
  | cons a as ih =>
    cases bs with
    | nil => exact (h.symm.not_nil_cons (hlength a)).elim
    | cons b bs =>
      obtain ⟨hhead, htail⟩ := h.cons ((hlength a).trans (hlength b).symm)
      rw [hf hhead, ih htail]

theorem Agree.list_inj {α : Type} {f : α → Encoding} {as bs : List α}
    (h : Agree strings (list (as.map f)) (list (bs.map f))) (free : ¬ Collides strings)
    (hlength : ∀ a, (f a).bytes.length = 32)
    (hf : ∀ {a b}, Agree strings (f a) (f b) → a = b) : as = bs :=
  (h.parts free).map_inj hlength hf

theorem Agree.metadata_inj {entries entries' : Metadata}
    (h : Agree strings (metadata entries) (metadata entries')) (free : ¬ Collides strings) :
    entries = entries' := by
  apply h.list_inj free fun _ => length_bytes_struct
  intro e e' h
  obtain ⟨-, hfields⟩ := h.struct free
  obtain ⟨hkey, hfields⟩ := hfields.cons
  obtain ⟨hvalue, -⟩ := hfields.cons
  cases e
  cases e'
  rw [MetadataEntry.mk.injEq]
  exact ⟨hkey.string_inj free, hvalue.string_inj free⟩

theorem Agree.piece_inj {data data' : List UInt8} (h : Agree strings (piece data) (piece data'))
    (free : ¬ Collides strings) : data = data' := by
  obtain ⟨-, hfields⟩ := h.struct free
  obtain ⟨hdata, -⟩ := hfields.cons (length_bytes_hashed.trans length_bytes_hashed.symm)
  exact hdata.dynamic_inj free

theorem PartsAgree.pieceMetadata_inj {index : Nat} {lists lists' : List Metadata}
    (h : PartsAgree strings (pieceMetadata index lists) (pieceMetadata index lists'))
    (free : ¬ Collides strings) : lists = lists' := by
  induction lists generalizing index lists' with
  | nil =>
    cases lists' with
    | nil => rfl
    | cons entries' lists' => exact h.not_nil_cons.elim
  | cons entries lists ih =>
    cases lists' with
    | nil => exact h.symm.not_nil_cons.elim
    | cons entries' lists' =>
      obtain ⟨hhead, htail⟩ := PartsAgree.cons h
      obtain ⟨-, hfields⟩ := hhead.struct free
      obtain ⟨-, hfields⟩ := hfields.cons
      obtain ⟨hentries, -⟩ := hfields.cons
      rw [hentries.metadata_inj free, ih htail]

end Encoding

theorem MessageKind.type_inj {kind kind' : MessageKind} (h : kind.type = kind'.type) :
    kind = kind' := by
  revert h
  cases kind <;> cases kind' <;> decide +kernel

variable {strings : List (List UInt8)}

theorem Message.encoding_inj {m m' : Message} (h : Encoding.Agree strings m.encoding m'.encoding)
    (free : ¬ Collides strings) : m = m' := by
  obtain ⟨htype, hfields⟩ := h.struct free
  have hkind : m.kind = m'.kind := MessageKind.type_inj (htype.string_inj free)
  cases m with
  | createDataSet clientDataSetId payee metadata =>
    cases m' with
    | createDataSet clientDataSetId' payee' metadata' =>
      obtain ⟨hid, hfields⟩ := hfields.cons
      obtain ⟨hpayee, hfields⟩ := hfields.cons
      obtain ⟨hmetadata, -⟩ := hfields.cons
      rw [hid.word_inj, hpayee.address_inj, hmetadata.metadata_inj free]
    | _ => contradiction
  | createDataSetWithCdn clientDataSetId withCdn payee metadata =>
    cases m' with
    | createDataSetWithCdn clientDataSetId' withCdn' payee' metadata' =>
      obtain ⟨hid, hfields⟩ := hfields.cons
      obtain ⟨hwithCdn, hfields⟩ := hfields.cons
      obtain ⟨hpayee, hfields⟩ := hfields.cons
      obtain ⟨hmetadata, -⟩ := hfields.cons
      rw [hid.word_inj, hwithCdn.bool_inj, hpayee.address_inj, hmetadata.metadata_inj free]
    | _ => contradiction
  | addPieces clientDataSetId nonce pieces metadata =>
    cases m' with
    | addPieces clientDataSetId' nonce' pieces' metadata' =>
      obtain ⟨hid, hfields⟩ := hfields.cons
      obtain ⟨hnonce, hfields⟩ := hfields.cons
      obtain ⟨hpieces, hfields⟩ := hfields.cons
      obtain ⟨hmetadata, -⟩ := hfields.cons
      have hpieces : pieces = pieces' :=
        hpieces.list_inj free (fun _ => Encoding.length_bytes_struct) fun h => h.piece_inj free
      rw [hid.word_inj, hnonce.word_inj, hpieces, (hmetadata.parts free).pieceMetadata_inj free]
    | _ => contradiction
  | schedulePieceRemovals clientDataSetId pieceIds =>
    cases m' with
    | schedulePieceRemovals clientDataSetId' pieceIds' =>
      obtain ⟨hid, hfields⟩ := hfields.cons
      obtain ⟨hpieceIds, -⟩ := hfields.cons
      have hpieceIds : pieceIds = pieceIds' :=
        hpieceIds.list_inj free (fun _ => Encoding.length_bytes_word) fun h => h.ofWord_inj
      rw [hid.word_inj, hpieceIds]
    | _ => contradiction

namespace SigningContext

variable {ctx ctx' : SigningContext} {m m' : Message}

theorem encoding_inj (h : Encoding.Agree strings ctx.encoding ctx'.encoding)
    (free : ¬ Collides strings) : ctx = ctx' := by
  obtain ⟨-, hfields⟩ := h.struct free
  obtain ⟨hname, hfields⟩ := hfields.cons
  obtain ⟨hversion, hfields⟩ := hfields.cons
  obtain ⟨hchainId, hfields⟩ := hfields.cons
  obtain ⟨hverifyingContract, -⟩ := hfields.cons
  obtain ⟨⟨name, version, chainId⟩, verifyingContract⟩ := ctx
  obtain ⟨⟨name', version', chainId'⟩, verifyingContract'⟩ := ctx'
  simp only [SigningContext.mk.injEq, SigningDomain.mk.injEq]
  exact ⟨⟨hname.string_inj free, hversion.string_inj free, hchainId.ofWord_inj⟩,
    hverifyingContract.address_inj⟩

def hashedStrings (ctx : SigningContext) (m : Message) : List (List UInt8) :=
  (ctx.signing m).preimages

/--
Requests with one digest are the same request, meant for the same service, unless two different
strings that are hashed on the way to the digests have the same hash.
-/
theorem eq_or_collides_of_signingHash (h : ctx.signingHash m = ctx'.signingHash m') :
    m = m' ∧ ctx = ctx' ∨ Collides (ctx.hashedStrings m ++ ctx'.hashedStrings m') := by
  have hnode : Encoding.Agree (ctx.hashedStrings m ++ ctx'.hashedStrings m') (ctx.signing m)
      (ctx'.signing m') :=
    ⟨List.subset_append_left .., List.subset_append_right .., Hash.Keccak.hash_eq_iff.mp h⟩
  -- without a collision equal digests have equal parts, down to message and context
  rcases Classical.em (Collides (ctx.hashedStrings m ++ ctx'.hashedStrings m')) with hit | free
  · exact .inr hit
  · obtain ⟨-, hparts⟩ := (hnode.parts free).cons rfl
    obtain ⟨hcontext, hparts⟩ := hparts.cons (by simp [encoding])
    obtain ⟨hmessage, -⟩ := hparts.cons (by simp [Message.encoding])
    exact .inl ⟨Message.encoding_inj hmessage free, encoding_inj hcontext free⟩

/-- The digest that the sample signature signs, and the context written out again. -/
theorem signingHash_binds_sampleMessage :
    sampleContext.signingHash sampleMessage =
      0x7a1ef317100b518a289b0993a9e3c19cf7c2efe3e7498666230fcd99f35679b1 ∧
    SigningContext.signingHash ⟨⟨"", "", 1⟩, 1⟩ (.createDataSet 0 8 []) =
      0x7a1ef317100b518a289b0993a9e3c19cf7c2efe3e7498666230fcd99f35679b1 ∧
    (sampleMessage = .createDataSet 0 8 [] ∧ sampleContext = ⟨⟨"", "", 1⟩, 1⟩ ∨
      Collides (sampleContext.hashedStrings sampleMessage ++
        hashedStrings ⟨⟨"", "", 1⟩, 1⟩ (.createDataSet 0 8 []))) :=
  ⟨signingHash_sampleMessage, signingHash_sampleMessage, eq_or_collides_of_signingHash
    (signingHash_sampleMessage.trans signingHash_sampleMessage.symm)⟩

end SigningContext

end WarmStorage

import WarmStorage.Authorization.Signature

/-!
Signatures cannot be altered. A signature of the right length is two numbers and a byte, and it is
accepted exactly when the byte stands for a parity and the second number is not above half the
order. Apart from the two bytes for each parity nothing else is read as the same signature, and of
the two numbers that differ in the sign of `s` the other one is refused.
-/

namespace WarmStorage

open Secp256k1 (Signature halfOrder order)

variable {bs others : List UInt8} {sig : Signature} {r s : UInt256} {mark : UInt8} {odd older : Bool}

theorem wordOfBytes_ofNat (a : UInt256) : wordOfBytes (Bytes.ofNat 32 a.toNat) = a := by
  have hcapacity : Bytes.capacity 32 = 2 ^ 256 := by decide
  rw [wordOfBytes, Bytes.toNat_ofNat, hcapacity, Nat.mod_eq_of_lt a.isLt, BitVec.ofNat_toNat,
    BitVec.setWidth_eq]

theorem ofNat_wordOfBytes (h : bs.length = 32) : Bytes.ofNat 32 (wordOfBytes bs).toNat = bs := by
  have hcapacity : Bytes.capacity 32 = 2 ^ 256 := by decide
  have hlt := Bytes.toNat_lt bs
  rw [h, hcapacity] at hlt
  rw [wordOfBytes, BitVec.toNat_ofNat, Nat.mod_eq_of_lt hlt, ← h, Bytes.ofNat_toNat]

def markOf (odd older : Bool) : UInt8 :=
  (if older then 27 else 0) + if odd then 1 else 0

theorem parity?_eq_some_iff : parity? mark = some odd ↔ ∃ older, mark = markOf odd older := by
  constructor
  · intro h
    unfold parity? at h
    split at h
    · rename_i hmark
      cases h
      obtain rfl | rfl := hmark
      · exact ⟨false, rfl⟩
      · exact ⟨true, rfl⟩
    split at h
    · rename_i hmark
      cases h
      obtain rfl | rfl := hmark
      · exact ⟨false, rfl⟩
      · exact ⟨true, rfl⟩
    · contradiction
  · rintro ⟨older, rfl⟩
    cases odd
    all_goals
      cases older
      all_goals rfl

theorem parity?_eq_none_iff : parity? mark = none ↔ mark ∉ ([0, 1, 27, 28] : List UInt8) := by
  simp only [List.mem_cons, List.not_mem_nil, or_false, not_or]
  constructor
  · intro h
    refine ⟨?_, ?_, ?_, ?_⟩
    all_goals
      rintro rfl
      contradiction
  · rintro ⟨h0, h1, h27, h28⟩
    rw [parity?, if_neg (not_or.mpr ⟨h0, h27⟩), if_neg (not_or.mpr ⟨h1, h28⟩)]

def signatureBytes (r s : UInt256) (mark : UInt8) : List UInt8 :=
  Bytes.ofNat 32 r.toNat ++ Bytes.ofNat 32 s.toNat ++ [mark]

theorem length_signatureBytes : (signatureBytes r s mark).length = signatureLength := by
  simp [signatureBytes, signatureLength]

theorem take_signatureBytes : (signatureBytes r s mark).take 32 = Bytes.ofNat 32 r.toNat := by
  rw [signatureBytes, List.append_assoc]
  exact List.take_left' (Bytes.length_ofNat _ _)

theorem take_drop_signatureBytes :
    ((signatureBytes r s mark).drop 32).take 32 = Bytes.ofNat 32 s.toNat := by
  rw [signatureBytes, List.append_assoc, List.drop_left' (Bytes.length_ofNat _ _)]
  exact List.take_left' (Bytes.length_ofNat _ _)

theorem getD_signatureBytes : (signatureBytes r s mark).getD 64 0 = mark := by
  simp [signatureBytes, List.getD_eq_getElem?_getD]

theorem eq_signatureBytes (h : bs.length = signatureLength) :
    bs = signatureBytes (wordOfBytes (bs.take 32)) (wordOfBytes ((bs.drop 32).take 32))
      (bs.getD 64 0) := by
  have hlength : bs.length = 65 := h
  have hlast : bs.drop 64 = [bs.getD 64 0] := by
    rw [List.drop_eq_getElem_cons (by omega), List.drop_eq_nil_of_le (by omega),
      List.getD_eq_getElem?_getD, List.getElem?_eq_getElem (by omega), Option.getD_some]
  rw [signatureBytes, ofNat_wordOfBytes (by simp [hlength]), ofNat_wordOfBytes (by simp [hlength]),
    ← hlast, List.append_assoc, ← List.drop_drop (i := 32) (j := 32), List.take_append_drop,
    List.take_append_drop]

theorem parseSignature_signatureBytes : parseSignature (signatureBytes r s mark) =
    match parity? mark with
    | none => .error (.recoveryByte mark)
    | some odd => if halfOrder < s then .error .nonCanonical else .ok ⟨r, s, odd⟩ := by
  unfold parseSignature
  cases hparity : parity? mark with
  | none => simp only [length_signatureBytes, ↓reduceIte, getD_signatureBytes, hparity]
  | some odd =>
    simp only [length_signatureBytes, ↓reduceIte, getD_signatureBytes, hparity,
      take_signatureBytes, take_drop_signatureBytes, wordOfBytes_ofNat]

theorem parseSignature_eq_ok_iff : parseSignature bs = .ok sig ↔
    sig.s ≤ halfOrder ∧ ∃ older, bs = signatureBytes sig.r sig.s (markOf sig.odd older) := by
  constructor
  · intro h
    by_cases hlength : bs.length = signatureLength
    case neg =>
      rw [parseSignature, if_neg hlength] at h
      contradiction
    rw [eq_signatureBytes hlength, parseSignature_signatureBytes] at h
    split at h
    · contradiction
    rename_i odd hparity
    split at h
    · contradiction
    rename_i hcanonical
    obtain ⟨older, hmark⟩ := parity?_eq_some_iff.mp hparity
    cases h
    refine ⟨BitVec.not_lt.mp hcanonical, older, ?_⟩
    rw [← hmark]
    exact eq_signatureBytes hlength
  · rintro ⟨hcanonical, older, rfl⟩
    rw [parseSignature_signatureBytes, parity?_eq_some_iff.mpr ⟨older, rfl⟩]
    exact if_neg (BitVec.not_lt.mpr hcanonical)

def exchangeMark (bs : List UInt8) : List UInt8 :=
  let mark := bs.getD 64 0
  bs.take 64 ++ [if mark < 27 then mark + 27 else mark - 27]

theorem exchangeMark_signatureBytes : exchangeMark (signatureBytes r s (markOf odd older)) =
    signatureBytes r s (markOf odd !older) := by
  have hlength : (Bytes.ofNat 32 r.toNat ++ Bytes.ofNat 32 s.toNat).length = 64 := by simp
  have htake : (signatureBytes r s (markOf odd older)).take 64 =
      Bytes.ofNat 32 r.toNat ++ Bytes.ofNat 32 s.toNat := List.take_left' hlength
  rw [exchangeMark, getD_signatureBytes, htake, signatureBytes]
  cases odd
  all_goals
    cases older
    all_goals rfl

theorem parseSignature_eq_iff (h : parseSignature bs = .ok sig) :
    parseSignature others = .ok sig ↔ others = bs ∨ others = exchangeMark bs := by
  obtain ⟨hcanonical, older, rfl⟩ := parseSignature_eq_ok_iff.mp h
  rw [parseSignature_eq_ok_iff, exchangeMark_signatureBytes, Bool.exists_bool]
  cases older with
  | false => simp [hcanonical]
  | true => simp [hcanonical, or_comm]

theorem halfOrder_lt_order_sub (h : s ≤ halfOrder) :
    halfOrder < BitVec.ofNat 256 (order - s.toNat) := by
  -- the order is odd, so a number and its negation are never both at most half of it
  have hhalf : halfOrder.toNat + halfOrder.toNat + 1 = order := by decide
  have hlt : order < 2 ^ 256 := by decide
  rw [BitVec.le_def] at h
  rw [BitVec.lt_def, BitVec.toNat_ofNat, Nat.mod_eq_of_lt (by omega)]
  omega

theorem parseSignature_negated (h : s ≤ halfOrder)
    (hmark : mark ∈ ([0, 1, 27, 28] : List UInt8)) :
    parseSignature (Bytes.ofNat 32 r.toNat ++ Bytes.ofNat 32 (order - s.toNat) ++ [mark]) =
      .error .nonCanonical := by
  have hlt : order - s.toNat < 2 ^ 256 := Nat.lt_of_le_of_lt (Nat.sub_le _ _) (by decide)
  have hbytes : Bytes.ofNat 32 r.toNat ++ Bytes.ofNat 32 (order - s.toNat) ++ [mark] =
      signatureBytes r (BitVec.ofNat 256 (order - s.toNat)) mark := by
    rw [signatureBytes, BitVec.toNat_ofNat, Nat.mod_eq_of_lt hlt]
  rw [hbytes, parseSignature_signatureBytes]
  cases hparity : parity? mark with
  | none => exact absurd hmark (parity?_eq_none_iff.mp hparity)
  | some odd => exact if_pos (halfOrder_lt_order_sub h)

theorem parseSignature_of_length (h : bs.length ≠ signatureLength) :
    parseSignature bs = .error (.signatureLength bs.length) :=
  if_neg h

theorem parseSignature_of_mark (h : bs.length = signatureLength)
    (hmark : bs.getD 64 0 ∉ ([0, 1, 27, 28] : List UInt8)) :
    parseSignature bs = .error (.recoveryByte (bs.getD 64 0)) := by
  rw [eq_signatureBytes h, parseSignature_signatureBytes, getD_signatureBytes,
    parity?_eq_none_iff.mpr hmark]

/--
A signature is accepted in two forms that differ in the byte for the parity, and in no other; with
the negated `s` none of the four bytes makes it acceptable.
-/
theorem parseSignature_not_malleable (bs : List UInt8) :
    (bs.length ≠ signatureLength → parseSignature bs = .error (.signatureLength bs.length)) ∧
    (bs.length = signatureLength → bs.getD 64 0 ∉ ([0, 1, 27, 28] : List UInt8) →
      parseSignature bs = .error (.recoveryByte (bs.getD 64 0))) ∧
    ∀ sig, parseSignature bs = .ok sig →
      (∀ others, parseSignature others = .ok sig ↔ others = bs ∨ others = exchangeMark bs) ∧
      (∀ older, parseSignature (signatureBytes sig.r sig.s (markOf sig.odd older)) = .ok sig) ∧
      ∀ mark ∈ ([0, 1, 27, 28] : List UInt8),
        parseSignature (bs.take 32 ++ Bytes.ofNat 32 (order - sig.s.toNat) ++ [mark]) =
          .error .nonCanonical := by
  refine ⟨parseSignature_of_length, parseSignature_of_mark, ?_⟩
  intro sig h
  obtain ⟨hcanonical, older, hbytes⟩ := parseSignature_eq_ok_iff.mp h
  refine ⟨fun others => parseSignature_eq_iff h, ?_, ?_⟩
  · intro other
    exact parseSignature_eq_ok_iff.mpr ⟨hcanonical, other, rfl⟩
  · intro mark hmark
    rw [hbytes, take_signatureBytes]
    exact parseSignature_negated hcanonical hmark

/-- The largest `s` that is accepted, and the least one that is not. -/
theorem parseSignature_not_malleable_of_halfOrder :
    let bs := signatureBytes 1 halfOrder 28
    parseSignature bs = .ok ⟨1, halfOrder, true⟩ ∧
      parseSignature (exchangeMark bs) = .ok ⟨1, halfOrder, true⟩ ∧
      parseSignature (bs.take 32 ++ Bytes.ofNat 32 (order - order / 2) ++ [27]) =
        .error .nonCanonical ∧
      parseSignature (signatureBytes 1 halfOrder 29) = .error (.recoveryByte 29) ∧
      parseSignature (bs.take 64) = .error (.signatureLength 64) := by
  intro bs
  have h : parseSignature bs = .ok ⟨1, halfOrder, true⟩ :=
    parseSignature_eq_ok_iff.mpr ⟨BitVec.le_refl _, true, rfl⟩
  obtain ⟨halike, -, hnegated⟩ := (parseSignature_not_malleable bs).2.2 _ h
  refine ⟨h, (halike _).mpr (.inr rfl), hnegated 27 (by decide), ?_, ?_⟩
  · exact (parseSignature_not_malleable (signatureBytes 1 halfOrder 29)).2.1 (by decide) (by decide)
  · exact (parseSignature_not_malleable (bs.take 64)).1 (by decide)

end WarmStorage

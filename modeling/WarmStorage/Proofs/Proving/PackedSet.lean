import Mathlib.Data.FinEnum
import WarmStorage.Proofs.Proving.Periods

/-!
The packed set of proven periods against a finite set of words. Inserting keeps two facts about
what is stored: no word is empty, and none stands for numbers past the last one of 64 bits. Such a
set is determined by the periods in it, and everything that is read from it can be read from the
finite set of those periods.
-/

namespace WarmStorage

namespace Word

variable {v w j : UInt64}

theorem mem_setBits_iff : j ∈ setBits w ↔ j.toNat < 64 ∧ hasBit w j = true := by
  rw [setBits, List.mem_filter, List.mem_map]
  constructor
  · rintro ⟨⟨n, hn, rfl⟩, hbit⟩
    have hlt := List.mem_range.mp hn
    refine ⟨?_, hbit⟩
    rw [UInt64.toNat_ofNat_of_lt' (Nat.lt_trans hlt (by decide))]
    exact hlt
  · rintro ⟨hlt, hbit⟩
    exact ⟨⟨j.toNat, List.mem_range.mpr hlt, UInt64.ofNat_toNat⟩, hbit⟩

theorem pairwise_setBits (w : UInt64) : (setBits w).Pairwise (· < ·) := by
  apply List.Pairwise.filter
  rw [List.pairwise_map]
  apply List.pairwise_lt_range.imp_of_mem
  intro m n hm hn hlt
  have hsize : ∀ k ∈ List.range 64, k < UInt64.size := by
    intro k hk
    exact Nat.lt_trans (List.mem_range.mp hk) (by decide)
  rw [UInt64.lt_iff_toNat_lt, UInt64.toNat_ofNat_of_lt' (hsize m hm),
    UInt64.toNat_ofNat_of_lt' (hsize n hn)]
  exact hlt

theorem eq_of_hasBit (h : ∀ j, j.toNat < 64 → hasBit v j = hasBit w j) : v = w := by
  rw [← UInt64.toNat_inj]
  apply Nat.eq_of_testBit_eq
  intro i
  by_cases hi : i < 64
  · have hnat : (UInt64.ofNat i).toNat = i :=
      UInt64.toNat_ofNat_of_lt' (Nat.lt_trans hi (by decide))
    have hbit := h (UInt64.ofNat i) (by omega)
    rwa [hasBit_eq_testBit (by omega), hasBit_eq_testBit (by omega), hnat] at hbit
  · have hpow : 2 ^ 64 ≤ 2 ^ i := Nat.pow_le_pow_right (by decide) (Nat.le_of_not_lt hi)
    rw [Nat.testBit_lt_two_pow (Nat.lt_of_lt_of_le v.toNat_lt hpow),
      Nat.testBit_lt_two_pow (Nat.lt_of_lt_of_le w.toNat_lt hpow)]

end Word

namespace ProvenPeriods

variable {s t : ProvenPeriods} {i j p q w : UInt64} {periods others : List UInt64}
  {elements : Finset UInt64}

def ofList (periods : List UInt64) : ProvenPeriods :=
  periods.foldl insert empty

theorem contains_foldl_insert :
    (periods.foldl insert s).contains p = true ↔ s.contains p = true ∨ p ∈ periods := by
  induction periods generalizing s with
  | nil => simp
  | cons q periods ih =>
    rw [List.foldl_cons, ih, contains_insert, Bool.or_eq_true, beq_iff_eq, List.mem_cons, or_assoc,
      eq_comm (a := q)]

theorem contains_ofList : (ofList periods).contains p = true ↔ p ∈ periods := by
  rw [ofList, contains_foldl_insert, contains_empty]
  simp

structure Packed (s : ProvenPeriods) : Prop where
  ne_zero : ∀ {i w : UInt64}, s.words[i]? = some w → w ≠ 0
  index_lt : ∀ {i w : UInt64}, s.words[i]? = some w → i.toNat * 64 + 63 < 18446744073709551616

theorem packed_empty : empty.Packed := by
  constructor
  · intro i w h
    simp [empty] at h
  · intro i w h
    simp [empty] at h

theorem Packed.insert (h : s.Packed) (q : UInt64) : (s.insert q).Packed := by
  have hget : ∀ {i w : UInt64}, (s.insert q).words[i]? = some w →
      q / 64 = i ∧ s.word (q / 64) ||| (1 <<< (q % 64)) = w ∨ s.words[i]? = some w := by
    intro i w hw
    simp only [ProvenPeriods.insert, Std.ExtTreeMap.getElem?_insert, Std.compare_eq_iff_eq] at hw
    split at hw
    · rename_i hi
      exact .inl ⟨hi, Option.some.inj hw⟩
    · exact .inr hw
  constructor
  · intro i w hw
    obtain ⟨-, rfl⟩ | hw := hget hw
    · -- the inserted period is in the word
      intro hzero
      have hbit := Word.hasBit_or_shiftLeft (w := s.word (q / 64)) (toNat_mod_lt q) (toNat_mod_lt q)
      rw [hzero] at hbit
      simp [Word.hasBit] at hbit
    · exact h.ne_zero hw
  · intro i w hw
    obtain ⟨rfl, -⟩ | hw := hget hw
    · have := q.toNat_lt
      have hdiv : (q / 64).toNat = q.toNat / 64 := UInt64.toNat_div q 64
      omega
    · exact h.index_lt hw

theorem Packed.foldl_insert (h : s.Packed) : (periods.foldl ProvenPeriods.insert s).Packed := by
  induction periods generalizing s with
  | nil => exact h
  | cons q periods ih => exact ih (h.insert q)

theorem packed_ofList (periods : List UInt64) : (ofList periods).Packed :=
  packed_empty.foldl_insert

theorem Packed.getElem?_eq (h : s.Packed) (i : UInt64) :
    s.words[i]? = if s.word i = 0 then none else some (s.word i) := by
  rw [word, Std.ExtTreeMap.getD_eq_getD_getElem?]
  cases hget : s.words[i]? with
  | none => simp
  | some w => simp [h.ne_zero hget]

theorem Packed.getElem?_eq_none (h : s.Packed)
    (hi : ¬ i.toNat * 64 + 63 < 18446744073709551616) : s.words[i]? = none := by
  cases hget : s.words[i]? with
  | none => rfl
  | some w => exact absurd (h.index_lt hget) hi

theorem toNat_mul_add (hi : i.toNat * 64 + 63 < 18446744073709551616) (hj : j.toNat < 64) :
    (i * 64 + j).toNat = i.toNat * 64 + j.toNat := by
  have hbits : (64 : UInt64).toNat = 64 := rfl
  rw [UInt64.toNat_add, UInt64.toNat_mul, hbits]
  omega

theorem div_mul_add (hi : i.toNat * 64 + 63 < 18446744073709551616) (hj : j.toNat < 64) :
    (i * 64 + j) / 64 = i ∧ (i * 64 + j) % 64 = j := by
  simp only [← UInt64.toNat_inj, UInt64.toNat_div, UInt64.toNat_mod, toNat_mul_add hi hj,
    UInt64.reduceToNat]
  omega

theorem div_mul_add_mod (p : UInt64) : p / 64 * 64 + p % 64 = p := by
  have := p.toNat_lt
  have hdiv : (p / 64).toNat = p.toNat / 64 := UInt64.toNat_div p 64
  have hmod : (p % 64).toNat = p.toNat % 64 := UInt64.toNat_mod p 64
  rw [← UInt64.toNat_inj, toNat_mul_add (by omega) (by omega), hdiv, hmod]
  omega

theorem Packed.eq_of_contains (hs : s.Packed) (ht : t.Packed)
    (h : ∀ p, s.contains p = t.contains p) : s = t := by
  have hword : ∀ i : UInt64, s.words[i]? = t.words[i]? := by
    intro i
    by_cases hi : i.toNat * 64 + 63 < 18446744073709551616
    · have heq : s.word i = t.word i := by
        apply Word.eq_of_hasBit
        intro j hj
        have hp := h (i * 64 + j)
        rwa [contains, contains, (div_mul_add hi hj).1, (div_mul_add hi hj).2] at hp
      rw [hs.getElem?_eq, ht.getElem?_eq, heq]
    · rw [hs.getElem?_eq_none hi, ht.getElem?_eq_none hi]
  obtain ⟨sw⟩ := s
  obtain ⟨tw⟩ := t
  exact congrArg ProvenPeriods.mk (Std.ExtTreeMap.ext_getElem? hword)

theorem ofList_eq_iff : ofList others = ofList periods ↔ ∀ p, p ∈ others ↔ p ∈ periods := by
  constructor
  · intro h p
    rw [← contains_ofList, ← contains_ofList, h]
  · intro h
    apply (packed_ofList others).eq_of_contains (packed_ofList periods)
    intro p
    rw [Bool.eq_iff_iff, contains_ofList, contains_ofList]
    exact h p

theorem contains_iff_getElem? : s.contains p = true ↔
    ∃ w, s.words[p / 64]? = some w ∧ Word.hasBit w (p % 64) = true := by
  rw [contains, word, Std.ExtTreeMap.getD_eq_getD_getElem?]
  cases s.words[p / 64]? with
  | none => simp [Word.hasBit]
  | some w => simp

theorem Packed.mem_toList_iff (h : s.Packed) : p ∈ s.toList ↔ s.contains p = true := by
  simp only [toList, List.mem_flatMap, List.mem_map, Prod.exists, contains_iff_getElem?,
    Std.ExtTreeMap.mem_toList_iff_getElem?_eq_some, Word.mem_setBits_iff]
  constructor
  · rintro ⟨i, w, hget, j, ⟨hj, hbit⟩, rfl⟩
    obtain ⟨hdiv, hmod⟩ := div_mul_add (h.index_lt hget) hj
    rw [hdiv, hmod]
    exact ⟨w, hget, hbit⟩
  · rintro ⟨w, hget, hbit⟩
    exact ⟨p / 64, w, hget, p % 64, ⟨toNat_mod_lt p, hbit⟩, div_mul_add_mod p⟩

theorem Packed.pairwise_toList (h : s.Packed) : s.toList.Pairwise (· < ·) := by
  unfold toList
  rw [List.pairwise_flatMap]
  -- two periods of one word, then those of two words
  constructor
  · rintro ⟨i, w⟩ hentry
    have hi := h.index_lt (Std.ExtTreeMap.mem_toList_iff_getElem?_eq_some.mp hentry)
    rw [List.pairwise_map]
    apply (Word.pairwise_setBits w).imp_of_mem
    intro a b ha hb hlt
    rw [UInt64.lt_iff_toNat_lt] at hlt ⊢
    rw [toNat_mul_add hi (Word.mem_setBits_iff.mp ha).1,
      toNat_mul_add hi (Word.mem_setBits_iff.mp hb).1]
    omega
  · apply s.words.ordered_keys_toList.imp_of_mem
    rintro ⟨i, v⟩ ⟨k, w⟩ hv hw hcompare x hx y hy
    have hi := h.index_lt (Std.ExtTreeMap.mem_toList_iff_getElem?_eq_some.mp hv)
    have hk := h.index_lt (Std.ExtTreeMap.mem_toList_iff_getElem?_eq_some.mp hw)
    have hlt : i.toNat < k.toNat := UInt64.lt_iff_toNat_lt.mp (Std.compare_eq_lt.mp hcompare)
    obtain ⟨a, ha, rfl⟩ := List.mem_map.mp hx
    obtain ⟨b, hb, rfl⟩ := List.mem_map.mp hy
    have ha := (Word.mem_setBits_iff.mp ha).1
    rw [UInt64.lt_iff_toNat_lt, toNat_mul_add hi ha,
      toNat_mul_add hk (Word.mem_setBits_iff.mp hb).1]
    omega

theorem toNat_size (s : ProvenPeriods) :
    s.size.toNat = s.toList.length % 18446744073709551616 := by
  rw [size, Std.ExtTreeMap.foldl_eq_foldl_toList,
    toNat_foldl_add (fun entry : UInt64 × UInt64 => Word.bitCount entry.2), UInt64.toNat_zero,
    Nat.zero_add, toList, List.length_flatMap]
  simp only [List.length_map, Word.toNat_bitCount_eq_length]

/-- What is read from `s` is what `elements` has. -/
structure Represents (s : ProvenPeriods) (elements : Finset UInt64) : Prop where
  contains_iff : ∀ p, s.contains p = true ↔ p ∈ elements
  countIn_eq : ∀ start stop, (s.countIn start stop).toNat =
    (elements.filter fun p => start ≤ p ∧ p < stop).card
  countIn_of_le : ∀ start stop, stop ≤ start → s.countIn start stop = 0
  countIn_add : ∀ start mid stop, start ≤ mid → mid ≤ stop →
    (s.countIn start mid).toNat + (s.countIn mid stop).toNat = (s.countIn start stop).toNat
  size_eq : (∃ p, p ∉ elements) → s.size.toNat = elements.card
  mem_toList_iff : ∀ p, p ∈ s.toList ↔ p ∈ elements
  ascending : s.toList.Pairwise (· < ·)
  listed_lt : ∀ i w : UInt64, s.words[i]? = some w → ∀ j ∈ Word.setBits w,
    i.toNat * 64 + j.toNat < 18446744073709551616

theorem card_filter_eq_card_periodsIn (h : ∀ p, s.contains p = true ↔ p ∈ elements)
    (start stop : UInt64) : (elements.filter fun p => start ≤ p ∧ p < stop).card =
      (s.periodsIn start.toNat stop.toNat).card := by
  have hnat : ∀ {n}, n ∈ Finset.Ico start.toNat stop.toNat → (UInt64.ofNat n).toNat = n := by
    intro n hn
    exact UInt64.toNat_ofNat_of_lt' (Nat.lt_trans (Finset.mem_Ico.mp hn).2 stop.toNat_lt)
  apply Finset.card_nbij' UInt64.toNat UInt64.ofNat
  · intro p hp
    rw [Finset.mem_coe, Finset.mem_filter, UInt64.le_iff_toNat_le, UInt64.lt_iff_toNat_lt] at hp
    rw [Finset.mem_coe, periodsIn, Finset.mem_filter, Finset.mem_Ico, UInt64.ofNat_toNat, h]
    exact ⟨hp.2, hp.1⟩
  · intro n hn
    rw [Finset.mem_coe, periodsIn, Finset.mem_filter, h] at hn
    rw [Finset.mem_coe, Finset.mem_filter, UInt64.le_iff_toNat_le, UInt64.lt_iff_toNat_lt,
      hnat hn.1]
    exact ⟨hn.2, Finset.mem_Ico.mp hn.1⟩
  · intro p hp
    exact UInt64.ofNat_toNat
  · intro n hn
    rw [Finset.mem_coe, periodsIn, Finset.mem_filter] at hn
    exact hnat hn.1

theorem Packed.toNat_size_eq (h : s.Packed) (hmem : ∀ p, s.contains p = true ↔ p ∈ elements)
    {p : UInt64} (hp : p ∉ elements) : s.size.toNat = elements.card := by
  have hlist : s.toList.toFinset = elements := by
    ext p
    rw [List.mem_toFinset, h.mem_toList_iff, hmem]
  have hnodup : s.toList.Nodup := h.pairwise_toList.imp UInt64.ne_of_lt
  have hcard : Fintype.card UInt64 = 18446744073709551616 := by
    rw [← FinEnum.card_eq_fintypeCard, FinEnum.card_UInt64]
    rfl
  have hlt := Finset.card_lt_univ_of_notMem hp
  rw [hcard] at hlt
  rw [toNat_size, ← List.toFinset_card_of_nodup hnodup, hlist]
  exact Nat.mod_eq_of_lt hlt

theorem Packed.represents (h : s.Packed) (hmem : ∀ p, s.contains p = true ↔ p ∈ elements) :
    s.Represents elements where
  contains_iff := hmem
  countIn_eq start stop := by
    rw [toNat_countIn, card_filter_eq_card_periodsIn hmem]
  countIn_of_le start stop hle := if_pos hle
  countIn_add start mid stop hl hr := by
    rw [UInt64.le_iff_toNat_le] at hl hr
    rw [toNat_countIn, toNat_countIn, toNat_countIn, card_periodsIn_split hl hr]
  size_eq := fun ⟨_, hp⟩ => h.toNat_size_eq hmem hp
  mem_toList_iff p := by
    rw [h.mem_toList_iff, hmem]
  ascending := h.pairwise_toList
  listed_lt i w hget j hj := by
    have hi := h.index_lt hget
    have hj := (Word.mem_setBits_iff.mp hj).1
    omega

/--
Inserting periods makes the packed form of the finite set of them, whatever their order and however
often each is inserted.
-/
theorem inserted_periods_form_set (periods : List UInt64) :
    (ofList periods).Represents periods.toFinset ∧
      ∀ others, ofList others = ofList periods ↔ ∀ p, p ∈ others ↔ p ∈ periods := by
  constructor
  · apply (packed_ofList periods).represents
    intro p
    rw [contains_ofList, List.mem_toFinset]
  · intro others
    exact ofList_eq_iff

example : (ofList [64, 3, 0xffffffffffffffff, 64]).toList = [3, 64, 0xffffffffffffffff] := by
  decide +kernel

end ProvenPeriods

end WarmStorage

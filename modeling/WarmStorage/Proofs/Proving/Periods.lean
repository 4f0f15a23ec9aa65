import Mathlib.Data.Nat.Bitwise
import Mathlib.Order.Interval.Finset.Nat
import WarmStorage.Proving.Periods

/-!
The packed set of proven periods as a set. A period is in it exactly when it was inserted, and
counting a range by words and masks counts the periods of the range that are in the set.
-/

namespace WarmStorage

namespace Word

theorem toNat_one_shiftLeft {i : UInt64} (h : i.toNat < 64) :
    ((1 : UInt64) <<< i).toNat = 2 ^ i.toNat := by
  rw [UInt64.toNat_shiftLeft, UInt64.toNat_one, Nat.shiftLeft_eq, Nat.one_mul, Nat.mod_eq_of_lt h]
  exact Nat.mod_eq_of_lt (Nat.pow_lt_pow_right (by decide) h)

theorem hasBit_eq_testBit {w i : UInt64} (h : i.toNat < 64) :
    hasBit w i = w.toNat.testBit i.toNat := by
  unfold hasBit
  rw [Bool.eq_iff_iff, bne_iff_ne, ne_eq, ← UInt64.toNat_inj, UInt64.toNat_and,
    toNat_one_shiftLeft h, Nat.and_two_pow, UInt64.toNat_zero]
  cases w.toNat.testBit i.toNat with
  | false => simp
  | true => simp

theorem hasBit_or_shiftLeft {w i j : UInt64} (hi : i.toNat < 64) (hj : j.toNat < 64) :
    hasBit (w ||| (1 <<< i)) j = (hasBit w j || i == j) := by
  rw [hasBit_eq_testBit hj, hasBit_eq_testBit hj, UInt64.toNat_or, toNat_one_shiftLeft hi,
    Nat.testBit_or, Nat.testBit_two_pow]
  congr 1
  rw [Bool.eq_iff_iff, decide_eq_true_eq, beq_iff_eq, UInt64.toNat_inj]

theorem toNat_bitCount_eq_length (w : UInt64) : (bitCount w).toNat = (setBits w).length := by
  have hle : (setBits w).length ≤ 64 := by
    apply Nat.le_trans (List.length_filter_le _ _)
    rw [List.length_map, List.length_range]
  exact UInt64.toNat_ofNat_of_lt' (Nat.lt_of_le_of_lt hle (by decide))

theorem toNat_bitCount (w : UInt64) :
    (bitCount w).toNat = ((Finset.range 64).filter fun j => w.toNat.testBit j).card := by
  rw [toNat_bitCount_eq_length, setBits, List.filter_map, List.length_map]
  have hcongr : (List.range 64).filter (hasBit w ∘ UInt64.ofNat) =
      (List.range 64).filter fun j => decide (w.toNat.testBit j = true) := by
    apply List.filter_congr
    intro j hj
    have hlt : j < 64 := List.mem_range.mp hj
    have hsize : j < UInt64.size := Nat.lt_trans hlt (by decide)
    have hnat : (UInt64.ofNat j).toNat = j := UInt64.toNat_ofNat_of_lt' hsize
    rw [Function.comp_apply, hasBit_eq_testBit (by omega), hnat, Bool.decide_eq_true]
  rw [hcongr]
  rfl

end Word

namespace ProvenPeriods

variable {s : ProvenPeriods} {p q : UInt64}

theorem toNat_mod_lt (p : UInt64) : (p % 64).toNat < 64 := by
  rw [UInt64.toNat_mod]
  exact Nat.mod_lt _ (by decide)

@[simp]
theorem contains_empty (p : UInt64) : empty.contains p = false := by
  simp [contains, word, empty, Word.hasBit]

theorem contains_insert : (s.insert q).contains p = (s.contains p || q == p) := by
  have hword : (s.insert q).word (p / 64) =
      if q / 64 = p / 64 then s.word (q / 64) ||| (1 <<< (q % 64)) else s.word (p / 64) := by
    simp only [word, insert, Std.ExtTreeMap.getD_insert, Std.compare_eq_iff_eq]
  unfold contains
  rw [hword]
  split
  · rename_i h
    rw [Word.hasBit_or_shiftLeft (toNat_mod_lt q) (toNat_mod_lt p), h]
    congr 1
    simp only [← UInt64.toNat_inj, UInt64.toNat_div, UInt64.reduceToNat] at h
    rw [Bool.eq_iff_iff]
    simp only [beq_iff_eq, ← UInt64.toNat_inj, UInt64.toNat_mod, UInt64.reduceToNat]
    omega
  · rename_i h
    have hne : (q == p) = false := by
      rw [beq_eq_false_iff_ne]
      rintro rfl
      exact h rfl
    rw [hne, Bool.or_false]

theorem contains_eq_testBit :
    s.contains p = (s.word (p / 64)).toNat.testBit (p.toNat % 64) := by
  rw [contains, Word.hasBit_eq_testBit (toNat_mod_lt p), UInt64.toNat_mod]
  rfl

theorem testBit_maskWithin {first last i : UInt64} {j : Nat} (hj : j < 64) :
    (maskWithin first last i).toNat.testBit j = true ↔
      (i.toNat = first.toNat / 64 → first.toNat % 64 ≤ j) ∧
        (i.toNat = last.toNat / 64 → j ≤ last.toNat % 64) := by
  have hall : ∀ k, (0xffffffffffffffff : Nat).testBit k = decide (k < 64) := by
    intro k
    exact Nat.testBit_two_pow_sub_one 64 k
  have hlow : (if i = first / 64 then Word.largest <<< (first % 64) else Word.largest).toNat.testBit
      j = true ↔ (i.toNat = first.toNat / 64 → first.toNat % 64 ≤ j) := by
    simp only [← UInt64.toNat_inj, UInt64.toNat_div, UInt64.reduceToNat]
    split
    · simp only [UInt64.toNat_shiftLeft, Nat.testBit_mod_two_pow, Nat.testBit_shiftLeft,
        Word.toNat_largest, hall, UInt64.toNat_mod, UInt64.reduceToNat, Bool.and_eq_true,
        decide_eq_true_eq]
      omega
    · simp only [Word.toNat_largest, hall, decide_eq_true_eq]
      omega
  have hhigh : (if i = last / 64 then Word.largest >>> (63 - last % 64) else
      Word.largest).toNat.testBit j = true ↔ (i.toNat = last.toNat / 64 → j ≤ last.toNat % 64) := by
    have hlt := toNat_mod_lt last
    have hle : last % 64 ≤ 63 := by
      rw [UInt64.le_iff_toNat_le]
      exact Nat.le_of_lt_succ hlt
    simp only [← UInt64.toNat_inj, UInt64.toNat_div, UInt64.reduceToNat]
    split
    · simp only [UInt64.toNat_shiftRight, Nat.testBit_shiftRight, Word.toNat_largest, hall,
        UInt64.toNat_sub_of_le _ _ hle, UInt64.toNat_mod, UInt64.reduceToNat, decide_eq_true_eq]
      omega
    · simp only [Word.toNat_largest, hall, decide_eq_true_eq]
      omega
  unfold maskWithin
  rw [UInt64.toNat_and, Nat.testBit_and, Bool.and_eq_true]
  exact and_congr hlow hhigh

def wordPeriods (start stop : Nat) (entry : UInt64 × UInt64) : Finset Nat :=
  (Finset.Ico start stop).filter fun p =>
    p / 64 = entry.1.toNat ∧ entry.2.toNat.testBit (p % 64) = true

def periodsIn (s : ProvenPeriods) (start stop : Nat) : Finset Nat :=
  (Finset.Ico start stop).filter fun p => s.contains (UInt64.ofNat p) = true

theorem card_periodsIn_le (s : ProvenPeriods) (start stop : Nat) :
    (s.periodsIn start stop).card ≤ stop - start := by
  rw [← Nat.card_Ico]
  exact Finset.card_filter_le _ _

def countWithin (start stop : UInt64) (entry : UInt64 × UInt64) : UInt64 :=
  if start / 64 ≤ entry.1 && entry.1 ≤ (stop - 1) / 64 then
    Word.bitCount (entry.2 &&& maskWithin start (stop - 1) entry.1)
  else 0

theorem card_wordPeriods {start stop : UInt64} (h : start < stop) (entry : UInt64 × UInt64) :
    (wordPeriods start.toNat stop.toNat entry).card = (countWithin start stop entry).toNat := by
  obtain ⟨i, w⟩ := entry
  unfold countWithin
  have hlt := UInt64.lt_iff_toNat_lt.mp h
  have hone : 1 ≤ stop := by
    rw [UInt64.le_iff_toNat_le, UInt64.toNat_one]
    omega
  have hlast : (stop - 1).toNat = stop.toNat - 1 := UInt64.toNat_sub_of_le _ _ hone
  simp only [Bool.and_eq_true, decide_eq_true_eq, UInt64.le_iff_toNat_le, UInt64.toNat_div,
    UInt64.reduceToNat, hlast]
  split
  · rename_i hi
    rw [Word.toNat_bitCount]
    -- the periods of the word and the bits that are set under the mask
    apply Finset.card_nbij' (· % 64) (64 * i.toNat + ·)
    · intro p hp
      simp only [wordPeriods, Finset.coe_filter, Finset.mem_Ico, Set.mem_ofPred_eq] at hp
      simp only [Finset.coe_filter, Finset.mem_range, Set.mem_ofPred_eq, UInt64.toNat_and,
        Nat.testBit_and, Bool.and_eq_true]
      refine ⟨Nat.mod_lt _ (by decide), hp.2.2, ?_⟩
      rw [testBit_maskWithin (Nat.mod_lt _ (by decide)), hlast]
      omega
    · intro j hj
      simp only [Finset.coe_filter, Finset.mem_range, Set.mem_ofPred_eq, UInt64.toNat_and,
        Nat.testBit_and, Bool.and_eq_true] at hj
      have hmask := (testBit_maskWithin hj.1).mp hj.2.2
      have hmod : (64 * i.toNat + j) % 64 = j := by omega
      rw [hlast] at hmask
      simp only [wordPeriods, Finset.coe_filter, Finset.mem_Ico, Set.mem_ofPred_eq, hmod]
      refine ⟨?_, ?_, hj.2.1⟩
      · omega
      · omega
    · intro p hp
      simp only [wordPeriods, Finset.coe_filter, Finset.mem_Ico, Set.mem_ofPred_eq] at hp
      dsimp only
      omega
    · intro j hj
      simp only [Finset.coe_filter, Finset.mem_range, Set.mem_ofPred_eq] at hj
      dsimp only
      omega
  · rename_i hi
    rw [UInt64.toNat_zero, Finset.card_eq_zero, wordPeriods, Finset.filter_eq_empty_iff]
    intro p hp
    rw [Finset.mem_Ico] at hp
    dsimp only
    omega

theorem mem_toList_iff_testBit (p : UInt64) : s.contains p = true ↔
    ∃ entry ∈ s.words.toList, p.toNat / 64 = entry.1.toNat ∧
      entry.2.toNat.testBit (p.toNat % 64) = true := by
  rw [contains_eq_testBit]
  constructor
  · intro h
    refine ⟨(p / 64, s.word (p / 64)), ?_, ?_, h⟩
    · rw [Std.ExtTreeMap.mem_toList_iff_getElem?_eq_some]
      cases hget : s.words[p / 64]? with
      | none => simp [word, Std.ExtTreeMap.getD_eq_getD_getElem?, hget] at h
      | some w => simp [word, Std.ExtTreeMap.getD_eq_getD_getElem?, hget]
    · exact (UInt64.toNat_div p 64).symm
  · rintro ⟨⟨i, w⟩, hmem, hi, hbit⟩
    have hkey : p / 64 = i := by
      rw [← UInt64.toNat_inj, UInt64.toNat_div]
      exact hi
    rw [Std.ExtTreeMap.mem_toList_iff_getElem?_eq_some] at hmem
    rw [hkey, word, Std.ExtTreeMap.getD_eq_getD_getElem?, hmem]
    exact hbit

theorem card_periods_of_entries (start stop : Nat) {entries : List (UInt64 × UInt64)}
    (h : entries.Pairwise fun a b => a.1 ≠ b.1) :
    ((Finset.Ico start stop).filter fun p => ∃ entry ∈ entries, p / 64 = entry.1.toNat ∧
      entry.2.toNat.testBit (p % 64) = true).card =
        (entries.map fun entry => (wordPeriods start stop entry).card).sum := by
  induction entries with
  | nil => simp
  | cons entry entries ih =>
    rw [List.pairwise_cons] at h
    rw [List.map_cons, List.sum_cons, ← ih h.2, ← Finset.card_union_of_disjoint]
    · congr 1
      ext p
      simp only [wordPeriods, Finset.mem_filter, Finset.mem_union, List.mem_cons,
        exists_eq_or_imp, and_or_left]
    · -- a period is in one word only, since words have different keys
      rw [Finset.disjoint_left]
      intro p hp hq
      obtain ⟨other, hmem, hkey, -⟩ := (Finset.mem_filter.mp hq).2
      apply h.1 other hmem
      rw [← UInt64.toNat_inj, ← hkey]
      exact (Finset.mem_filter.mp hp).2.1.symm

theorem toNat_foldl_add {α : Type} (f : α → UInt64) (l : List α) (init : UInt64) :
    (l.foldl (fun sum a => sum + f a) init).toNat =
      (init.toNat + (l.map fun a => (f a).toNat).sum) % 18446744073709551616 := by
  induction l generalizing init with
  | nil =>
    have := init.toNat_lt
    rw [List.foldl_nil, List.map_nil, List.sum_nil, Nat.add_zero, Nat.mod_eq_of_lt this]
  | cons a l ih =>
    rw [List.foldl_cons, ih, UInt64.toNat_add, List.map_cons, List.sum_cons]
    omega

theorem sum_countWithin (s : ProvenPeriods) {start stop : UInt64} (h : start < stop) :
    (s.words.toList.map fun entry => (countWithin start stop entry).toNat).sum =
      (s.periodsIn start.toNat stop.toNat).card := by
  have hkeys : s.words.toList.Pairwise fun a b => a.1 ≠ b.1 := by
    apply s.words.distinct_keys_toList.imp
    intro a b hab
    rwa [Std.compare_eq_iff_eq] at hab
  have hset : s.periodsIn start.toNat stop.toNat =
      (Finset.Ico start.toNat stop.toNat).filter fun p => ∃ entry ∈ s.words.toList,
        p / 64 = entry.1.toNat ∧ entry.2.toNat.testBit (p % 64) = true := by
    apply Finset.filter_congr
    intro p hp
    have hnat : (UInt64.ofNat p).toNat = p := by
      apply UInt64.toNat_ofNat_of_lt'
      exact Nat.lt_trans (Finset.mem_Ico.mp hp).2 stop.toNat_lt
    rw [mem_toList_iff_testBit, hnat]
  simp only [← card_wordPeriods h]
  rw [hset, card_periods_of_entries _ _ hkeys]

theorem countIn_eq_foldl {start stop : UInt64} (h : start < stop) : s.countIn start stop =
    s.words.toList.foldl (fun sum entry => sum + countWithin start stop entry) 0 := by
  unfold countIn
  rw [if_neg (UInt64.not_le.mpr h), Std.ExtTreeMap.foldl_eq_foldl_toList]
  congr 1
  funext sum entry
  unfold countWithin
  split
  · rfl
  · rw [UInt64.add_zero]

theorem toNat_countIn (s : ProvenPeriods) (start stop : UInt64) :
    (s.countIn start stop).toNat = (s.periodsIn start.toNat stop.toNat).card := by
  by_cases h : start < stop
  · have hle := s.card_periodsIn_le start.toNat stop.toNat
    rw [countIn_eq_foldl h, toNat_foldl_add, UInt64.toNat_zero, Nat.zero_add, sum_countWithin s h,
      Nat.mod_eq_of_lt]
    exact Nat.lt_of_le_of_lt (Nat.le_trans hle (Nat.sub_le _ _)) stop.toNat_lt
  · rw [UInt64.not_lt] at h
    rw [countIn, if_pos h, periodsIn, Finset.Ico_eq_empty_of_le (UInt64.le_iff_toNat_le.mp h)]
    rfl

def missingIn (s : ProvenPeriods) (start stop : Nat) : Finset Nat :=
  (Finset.Ico start stop).filter fun p => ¬ s.contains (UInt64.ofNat p) = true

theorem card_periodsIn_add_card_missingIn (start stop : Nat) :
    (s.periodsIn start stop).card + (s.missingIn start stop).card = stop - start := by
  rw [periodsIn, missingIn, Finset.card_filter_add_card_filter_not, Nat.card_Ico]

theorem card_periodsIn_split {start mid stop : Nat} (hl : start ≤ mid) (hr : mid ≤ stop) :
    (s.periodsIn start stop).card = (s.periodsIn start mid).card + (s.periodsIn mid stop).card := by
  unfold periodsIn
  rw [← Finset.Ico_union_Ico_eq_Ico hl hr, Finset.filter_union, Finset.card_union_of_disjoint]
  exact Finset.disjoint_filter_filter (Finset.Ico_disjoint_Ico_consecutive start mid stop)

theorem ofNat_lt_of_mem_Ico {start n : Nat} {stop : UInt64} (h : n ∈ Finset.Ico start stop.toNat) :
    UInt64.ofNat n < stop := by
  have hlt := (Finset.mem_Ico.mp h).2
  rw [UInt64.lt_iff_toNat_lt, UInt64.toNat_ofNat_of_lt' (Nat.lt_trans hlt stop.toNat_lt)]
  exact hlt

theorem periodsIn_congr {t : ProvenPeriods} {start : Nat} {stop : UInt64}
    (h : ∀ p, p < stop → s.contains p = t.contains p) :
    s.periodsIn start stop.toNat = t.periodsIn start stop.toNat := by
  apply Finset.filter_congr
  intro n hn
  rw [h _ (ofNat_lt_of_mem_Ico hn)]

theorem missingIn_congr {t : ProvenPeriods} {start : Nat} {stop : UInt64}
    (h : ∀ p, p < stop → s.contains p = t.contains p) :
    s.missingIn start stop.toNat = t.missingIn start stop.toNat := by
  apply Finset.filter_congr
  intro n hn
  rw [h _ (ofNat_lt_of_mem_Ico hn)]

theorem card_periodsIn_of_le {first stop : UInt64} (h : ∀ p, s.contains p = true → p ≤ first)
    (hlt : first < stop) : (s.periodsIn first.toNat stop.toNat).card =
      if s.contains first = true then 1 else 0 := by
  have hself : UInt64.ofNat first.toNat = first := UInt64.ofNat_toNat
  have hfirst : ∀ n ∈ Finset.Ico first.toNat stop.toNat, s.contains (UInt64.ofNat n) = true →
      n = first.toNat := by
    intro n hn hmem
    have hle := UInt64.le_iff_toNat_le.mp (h _ hmem)
    rw [Finset.mem_Ico] at hn
    rw [UInt64.toNat_ofNat_of_lt' (Nat.lt_trans hn.2 stop.toNat_lt)] at hle
    exact Nat.le_antisymm hle hn.1
  split
  · rename_i hmem
    rw [Finset.card_eq_one]
    refine ⟨first.toNat, ?_⟩
    ext n
    rw [periodsIn, Finset.mem_filter, Finset.mem_singleton]
    constructor
    · rintro ⟨hn, hn'⟩
      exact hfirst n hn hn'
    · rintro rfl
      rw [hself, Finset.mem_Ico]
      exact ⟨⟨Nat.le_refl _, UInt64.lt_iff_toNat_lt.mp hlt⟩, hmem⟩
  · rename_i hmem
    rw [Finset.card_eq_zero, periodsIn, Finset.filter_eq_empty_iff]
    intro n hn hn'
    rw [hfirst n hn hn', hself] at hn'
    exact hmem hn'

theorem card_periodsIn_single (n : Nat) : (s.periodsIn n (n + 1)).card =
    if s.contains (UInt64.ofNat n) = true then 1 else 0 := by
  rw [periodsIn, Nat.Ico_succ_singleton, Finset.filter_singleton]
  split
  · rw [Finset.card_singleton]
  · rw [Finset.card_empty]

end ProvenPeriods

end WarmStorage

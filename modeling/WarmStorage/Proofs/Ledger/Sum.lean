import Std.Data.ExtTreeMap

/-!
Sums over the entries of a map. An insertion changes the sum by the new entry less the one that it
replaces.
-/

namespace WarmStorage

variable {κ α : Type} [Ord κ] [Std.TransOrd κ] [Std.LawfulEqOrd κ] {m : Std.ExtTreeMap κ α}
  {f : κ → α → Nat} {k : κ} {v : α}

def sumEntries (m : Std.ExtTreeMap κ α) (f : κ → α → Nat) : Nat :=
  m.toList.foldr (fun entry sum => f entry.1 entry.2 + sum) 0

def sumValues (m : Std.ExtTreeMap κ α) (f : α → Nat) : Nat :=
  m.toList.foldr (fun entry sum => f entry.2 + sum) 0

theorem nodup_toList : m.toList.Nodup := by
  apply List.Pairwise.imp _ (Std.ExtTreeMap.distinct_keys_toList (t := m))
  rintro a b hne rfl
  apply hne
  rw [Std.compare_eq_iff_eq]

theorem toList_perm (h : m[k]? = some v) : m.toList.Perm ((k, v) :: (m.erase k).toList) := by
  rw [List.perm_ext_iff_of_nodup nodup_toList]
  · rintro ⟨k', v'⟩
    simp only [List.mem_cons, Std.ExtTreeMap.mem_toList_iff_getElem?_eq_some,
      Std.ExtTreeMap.getElem?_erase, Std.compare_eq_iff_eq, Prod.mk.injEq]
    by_cases hk : k = k'
    · subst hk
      simp [h, eq_comm]
    · simp [hk, Ne.symm hk]
  · rw [List.nodup_cons]
    refine ⟨?_, nodup_toList⟩
    simp [Std.ExtTreeMap.mem_toList_iff_getElem?_eq_some]

theorem sumEntries_eq_add (h : m[k]? = some v) :
    sumEntries m f = f k v + sumEntries (m.erase k) f := by
  unfold sumEntries
  rw [(toList_perm h).foldr_eq', List.foldr_cons]
  intro x _ y _ sum
  omega

theorem sumEntries_erase_of_none (h : m[k]? = none) :
    sumEntries (m.erase k) f = sumEntries m f := by
  have heq : m.erase k = m := by
    apply Std.ExtTreeMap.ext_getElem?
    intro k'
    rw [Std.ExtTreeMap.getElem?_erase]
    split
    · rename_i hk
      rw [Std.compare_eq_iff_eq] at hk
      rw [← hk, h]
    · rfl
  rw [heq]

theorem erase_insert : (m.insert k v).erase k = m.erase k := by
  apply Std.ExtTreeMap.ext_getElem?
  intro k'
  rw [Std.ExtTreeMap.getElem?_erase, Std.ExtTreeMap.getElem?_erase, Std.ExtTreeMap.getElem?_insert]
  split
  · rfl
  · rfl

theorem sumEntries_insert :
    sumEntries (m.insert k v) f + (m[k]?).elim 0 (f k) = sumEntries m f + f k v := by
  have hnew : (m.insert k v)[k]? = some v := Std.ExtTreeMap.getElem?_insert_self
  rw [sumEntries_eq_add hnew, erase_insert]
  cases hold : m[k]? with
  | none =>
    rw [sumEntries_erase_of_none hold, Option.elim_none]
    omega
  | some w =>
    rw [sumEntries_eq_add hold, Option.elim_some]
    omega

theorem le_sumEntries (h : m[k]? = some v) : f k v ≤ sumEntries m f := by
  rw [sumEntries_eq_add h]
  omega

omit [Std.LawfulEqOrd κ] in
theorem sumEntries_empty : sumEntries (∅ : Std.ExtTreeMap κ α) f = 0 := by
  rw [sumEntries, Std.ExtTreeMap.toList_eq_nil_iff.mpr rfl, List.foldr_nil]

theorem sumValues_insert {f : α → Nat} :
    sumValues (m.insert k v) f + (m[k]?).elim 0 f = sumValues m f + f v :=
  sumEntries_insert (f := fun _ => f)

theorem le_sumValues {f : α → Nat} (h : m[k]? = some v) : f v ≤ sumValues m f :=
  le_sumEntries (f := fun _ => f) h

theorem add_le_sumValues {f : α → Nat} {k' : κ} {v' : α} (hne : k ≠ k') (h : m[k]? = some v)
    (h' : m[k']? = some v') : f v + f v' ≤ sumValues m f := by
  have hrest : (m.erase k)[k']? = some v' := by
    rw [Std.ExtTreeMap.getElem?_erase, if_neg, h']
    rwa [Std.compare_eq_iff_eq]
  have hsum : sumValues m f = f v + sumValues (m.erase k) f :=
    sumEntries_eq_add (f := fun _ => f) h
  rw [hsum]
  exact Nat.add_le_add_left (le_sumValues hrest) _

end WarmStorage

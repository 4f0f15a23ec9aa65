import Mathlib.Data.List.Nodup
import WarmStorage.Metadata

/-!
What limits on metadata admit. Validation accepts exactly the lists within the limits. Of other
lists it tells that they are too long or, if they are not, what is wrong with the first entry that
does not fit behind the entries in front of it.
-/

namespace WarmStorage

namespace Metadata

variable {entries : Metadata} {key value : String}

@[simp]
theorem keys_cons {e : MetadataEntry} : keys (e :: entries) = e.key :: keys entries :=
  rfl

theorem keys_filter_sublist {p : MetadataEntry → Bool} :
    (keys (entries.filter p)).Sublist entries.keys :=
  List.filter_sublist.map _

end Metadata

namespace MetadataLimits

variable {limits : MetadataLimits} {scope : MetadataScope} {entries before after : Metadata}
  {e : MetadataEntry} {seen seen' : List String} {err : MetadataError}

structure Clean (limits : MetadataLimits) (entries : Metadata) : Prop where
  keys_le : ∀ e ∈ entries, e.key.utf8ByteSize ≤ limits.keyLength.toNat
  values_le : ∀ e ∈ entries, e.value.utf8ByteSize ≤ limits.valueLength.toNat
  nodup : entries.keys.Nodup

structure Admits (limits : MetadataLimits) (scope : MetadataScope) (entries : Metadata) : Prop
    extends limits.Clean entries where
  length_le : entries.length ≤ (limits.maxKeys scope).toNat

inductive Faulty (limits : MetadataLimits) (seen : List String) (e : MetadataEntry) :
    MetadataError → Prop where
  | key (long : limits.keyLength.toNat < e.key.utf8ByteSize) :
      Faulty limits seen e (.keyTooLong e.key.utf8ByteSize limits.keyLength)
  | value (key_le : e.key.utf8ByteSize ≤ limits.keyLength.toNat)
      (long : limits.valueLength.toNat < e.value.utf8ByteSize) :
      Faulty limits seen e (.valueTooLong e.key e.value.utf8ByteSize limits.valueLength)
  | duplicate (key_le : e.key.utf8ByteSize ≤ limits.keyLength.toNat)
      (value_le : e.value.utf8ByteSize ≤ limits.valueLength.toNat) (mem : e.key ∈ seen) :
      Faulty limits seen e (.duplicateKey e.key)

theorem Admits.filter (h : limits.Admits scope entries) (p : MetadataEntry → Bool) :
    limits.Admits scope (entries.filter p) where
  keys_le e he := h.keys_le e (List.mem_filter.mp he).1
  values_le e he := h.values_le e (List.mem_filter.mp he).1
  nodup := h.nodup.sublist Metadata.keys_filter_sublist
  length_le := Nat.le_trans (List.length_filter_le p entries) h.length_le

theorem checkEntry_eq_ok_iff : limits.checkEntry seen e = .ok () ↔
    e.key.utf8ByteSize ≤ limits.keyLength.toNat ∧
      e.value.utf8ByteSize ≤ limits.valueLength.toNat ∧ e.key ∉ seen := by
  unfold checkEntry
  split
  · rename_i hkey
    simp [Nat.not_le.mpr hkey]
  rename_i hkey
  split
  · rename_i hvalue
    simp [Nat.not_le.mpr hvalue]
  rename_i hvalue
  split
  · rename_i hmem
    simp [List.contains_iff_mem.mp hmem]
  · rename_i hmem
    rw [List.contains_iff_mem] at hmem
    simp [Nat.le_of_not_lt hkey, Nat.le_of_not_lt hvalue, hmem]

theorem Faulty.congr (h : limits.Faulty seen e err) (hseen : ∀ key ∈ seen, key ∈ seen') :
    limits.Faulty seen' e err := by
  cases h with
  | key long => exact .key long
  | value key_le long => exact .value key_le long
  | duplicate key_le value_le mem => exact .duplicate key_le value_le (hseen _ mem)

theorem clean_nil : limits.Clean [] :=
  ⟨by simp, by simp, List.nodup_nil⟩

theorem clean_cons_iff : limits.Clean (e :: entries) ↔
    e.key.utf8ByteSize ≤ limits.keyLength.toNat ∧
      e.value.utf8ByteSize ≤ limits.valueLength.toNat ∧ e.key ∉ Metadata.keys entries ∧
      limits.Clean entries := by
  constructor
  · rintro ⟨hkeys, hvalues, hnodup⟩
    rw [List.forall_mem_cons] at hkeys hvalues
    obtain ⟨hfresh, hnodup⟩ := List.nodup_cons.mp hnodup
    exact ⟨hkeys.1, hvalues.1, hfresh, hkeys.2, hvalues.2, hnodup⟩
  · rintro ⟨hkey, hvalue, hfresh, hkeys, hvalues, hnodup⟩
    exact ⟨List.forall_mem_cons.mpr ⟨hkey, hkeys⟩, List.forall_mem_cons.mpr ⟨hvalue, hvalues⟩,
      List.nodup_cons.mpr ⟨hfresh, hnodup⟩⟩

theorem checkEntries_cons_eq_ok_iff : limits.checkEntries seen (e :: entries) = .ok () ↔
    limits.checkEntry seen e = .ok () ∧ limits.checkEntries (e.key :: seen) entries = .ok () := by
  rw [checkEntries]
  cases limits.checkEntry seen e with
  | ok u => simp [bind, Except.bind]
  | error err => simp [bind, Except.bind]

theorem checkEntries_eq_ok_iff : limits.checkEntries seen entries = .ok () ↔
    limits.Clean entries ∧ ∀ key ∈ entries.keys, key ∉ seen := by
  induction entries generalizing seen with
  | nil => simp [checkEntries, Metadata.keys, clean_nil]
  | cons e entries ih =>
    rw [checkEntries_cons_eq_ok_iff, checkEntry_eq_ok_iff, ih, clean_cons_iff,
      Metadata.keys_cons, List.forall_mem_cons]
    constructor
    · rintro ⟨⟨hkey, hvalue, hseen⟩, hclean, hrest⟩
      have hfresh : e.key ∉ Metadata.keys entries := fun hmem =>
        hrest _ hmem (List.mem_cons_self ..)
      exact ⟨⟨hkey, hvalue, hfresh, hclean⟩, hseen, fun key hmem hold =>
        hrest key hmem (List.mem_cons_of_mem _ hold)⟩
    · rintro ⟨⟨hkey, hvalue, hfresh, hclean⟩, hseen, hrest⟩
      refine ⟨⟨hkey, hvalue, hseen⟩, hclean, fun key hmem hold => ?_⟩
      obtain rfl | hold := List.mem_cons.mp hold
      · exact hfresh hmem
      · exact hrest key hmem hold

theorem checkEntries_concat (h : limits.checkEntries seen entries = .ok ()) :
    limits.checkEntries seen (entries ++ [e]) =
      limits.checkEntry (entries.keys.reverse ++ seen) e := by
  induction entries generalizing seen with
  | nil =>
    rw [List.nil_append, checkEntries]
    show _ = limits.checkEntry seen e
    cases limits.checkEntry seen e with
    | ok u => rfl
    | error err => rfl
  | cons first entries ih =>
    obtain ⟨hfirst, hrest⟩ := checkEntries_cons_eq_ok_iff.mp h
    rw [List.cons_append, checkEntries, hfirst, Metadata.keys_cons, List.reverse_cons,
      List.append_assoc]
    exact ih hrest

theorem validate_eq_ok_iff :
    limits.validate entries scope = .ok () ↔ limits.Admits scope entries := by
  have hchecked : limits.checkEntries [] entries = .ok () ↔ limits.Clean entries := by
    simp [checkEntries_eq_ok_iff]
  unfold validate
  split
  · rename_i hmany
    constructor
    · intro h
      contradiction
    · intro h
      exact absurd h.length_le (Nat.not_le.mpr hmany)
  · rename_i hfew
    rw [hchecked]
    exact ⟨fun h => ⟨h, Nat.le_of_not_lt hfew⟩, fun h => h.toClean⟩

theorem validate_concat (h : limits.validate entries scope = .ok ()) :
    limits.validate (entries ++ [e]) scope =
      if entries.length < (limits.maxKeys scope).toNat then
        limits.checkEntry entries.keys.reverse e
      else
        .error (.tooManyKeys (entries.length + 1) (limits.maxKeys scope)) := by
  have hchecked : limits.checkEntries [] entries = .ok () := by
    unfold validate at h
    split at h
    · contradiction
    · exact h
  rw [validate, List.length_append, List.length_singleton, checkEntries_concat hchecked,
    List.append_nil]
  by_cases hroom : entries.length < (limits.maxKeys scope).toNat
  · rw [if_pos hroom, if_neg]
    omega
  · rw [if_neg hroom, if_pos]
    omega

end MetadataLimits

end WarmStorage

import WarmStorage.Codec.Basic
import WarmStorage.Proofs.Json.RoundTrip

/-!
Laws of codecs: what was encoded and written is read as the same tree, and the tree is decoded as
the same value. A codec is lawful if it has both properties, so that the laws of a type follow from
those of its parts.
-/

namespace WarmStorage

namespace Text.Amount

variable {base acc n : Nat} {cs : List Char}

theorem digits?_digitChar (hbase : base ≤ 16) (h : n < base) :
    digits? base acc (Nat.digitChar n :: cs) = digits? base (base * acc + n) cs := by
  have hdigit : digit? base (Nat.digitChar n) = some n := by
    have hvalue := Hex.value?_digit (n := n) (by omega)
    rw [Hex.digit] at hvalue
    rw [digit?, hvalue, Option.filter_some, if_pos (by simpa using h)]
  have hmark : Nat.digitChar n ≠ '_' := by
    have : ∀ m < 16, Nat.digitChar m ≠ '_' := by decide
    exact this n (by omega)
  rw [digits?.eq_def]
  split
  · contradiction
  · rename_i heq
    exact absurd (List.cons.inj heq).1 hmark
  · rename_i heq
    obtain ⟨rfl, rfl⟩ := List.cons.inj heq
    rw [hdigit]

theorem digits?_toDigits (hone : 1 < base) (hbase : base ≤ 16) :
    digits? base 0 (Nat.toDigits base n ++ cs) = digits? base n cs := by
  induction n using Nat.strongRecOn generalizing cs with
  | ind n ih =>
    by_cases hlt : n < base
    · rw [Nat.toDigits_of_lt_base hlt, List.singleton_append, digits?_digitChar hbase hlt,
        Nat.mul_zero, Nat.zero_add]
    · have hle : base ≤ n := Nat.le_of_not_lt hlt
      have hdiv : n / base < n := Nat.div_lt_self (by omega) hone
      have hmod : n % base < base := Nat.mod_lt n (by omega)
      rw [Nat.toDigits_of_base_le hone hle, List.append_assoc, ih _ hdiv, List.singleton_append,
        digits?_digitChar hbase hmod, Nat.div_add_mod]

@[simp]
theorem read?_hex (a : UInt256) : read? (hex a) = some a := by
  have hdigits : digits? 16 0 (Nat.toDigits 16 a.toNat ++ []) = digits? 16 a.toNat [] :=
    digits?_toDigits (by decide) (by decide)
  rw [List.append_nil, digits?] at hdigits
  rw [read?, hex, String.toList_ofList, splitMark]
  dsimp only
  rw [hdigits, Option.bind_some, UInt256.fit?_eq_some_iff]

end Text.Amount

open Json (ReadsBack MemberReadsBack)

class LawfulCodec (α : Type) [Codec α] : Prop where
  readsBack_encode (x : α) : ReadsBack .pretty (Codec.encode x)
  decode?_encode (x : α) : Codec.decode? .text (Codec.encode x) = some x

class LawfulKeyCodec (κ : Type) [KeyCodec κ] : Prop where
  decodeKey?_encodeKey (k : κ) :
    KeyCodec.decodeKey? .text (Literal.ofString (KeyCodec.encodeKey k)) = some k

open LawfulCodec LawfulKeyCodec

attribute [simp] decode?_encode decodeKey?_encodeKey

namespace LawfulCodec

instance : LawfulCodec Bool where
  readsBack_encode _ := Json.readsBack_bool
  decode?_encode _ := rfl

instance : LawfulCodec UInt64 where
  readsBack_encode _ := Json.readsBack_natural
  decode?_encode _ := rfl

instance : LawfulCodec UInt16 where
  readsBack_encode _ := Json.readsBack_natural
  decode?_encode n := by
    have hlt : n.toUInt64.toNat < UInt16.size := n.toNat_lt
    simp only [Codec.encode, Codec.decode?, if_pos hlt, UInt16.toUInt16_toUInt64]

instance : LawfulCodec String where
  readsBack_encode _ := Json.readsBack_ofString
  decode?_encode s := Literal.text?_ofString s

instance : LawfulCodec UInt256 where
  readsBack_encode _ := Json.readsBack_ofString
  decode?_encode n := by
    simp [Codec.encode, Codec.decode?, Json.ofString]

instance : LawfulCodec Address where
  readsBack_encode _ := Json.readsBack_ofString
  decode?_encode a := by
    simp [Codec.encode, Codec.decode?, Json.ofString]

instance : LawfulCodec (Option UInt64) where
  readsBack_encode n := by
    cases n with
    | none => exact Json.readsBack_null
    | some n => exact Json.readsBack_natural
  decode?_encode n := by
    cases n with
    | none => rfl
    | some n => rfl

instance {α : Type} [Codec α] [LawfulCodec α] : LawfulCodec (List α) where
  readsBack_encode xs := by
    apply Json.readsBack_array Json.Layout.isBlank_pretty
    intro v hv
    obtain ⟨x, -, rfl⟩ := List.mem_map.mp hv
    exact readsBack_encode x
  decode?_encode xs := by
    induction xs with
    | nil => rfl
    | cons x xs ih =>
      simp only [Codec.encode, Codec.decode?] at ih ⊢
      simp [ih]

end LawfulCodec

namespace LawfulKeyCodec

theorem isPlain_of_isDigit {c : Char} (h : c.isDigit = true) : Literal.isPlain c = true := by
  simp only [Char.isDigit, Bool.and_eq_true, decide_eq_true_eq, ge_iff_le,
    UInt32.le_iff_toNat_le] at h
  obtain ⟨hlow, hhigh⟩ := h
  have hlow : 48 ≤ c.toNat := hlow
  have hhigh : c.toNat ≤ 57 := hhigh
  have hne : ∀ c', c'.toNat < 48 ∨ 57 < c'.toNat → c ≠ c' := by
    rintro c' hc' rfl
    omega
  simp only [Literal.isPlain, bne_iff_ne, Bool.and_eq_true, decide_eq_true_eq]
  refine ⟨⟨?_, hne _ (by decide)⟩, hne _ (by decide)⟩
  have : (32 : Nat) ≤ c.toNat := by omega
  exact this

instance : LawfulKeyCodec UInt64 where
  decodeKey?_encodeKey n := by
    have hplain : (Nat.toDigits 10 n.toNat).all Literal.isPlain = true := by
      rw [List.all_eq_true]
      intro c hc
      exact isPlain_of_isDigit (Nat.isDigit_of_mem_toDigits (by decide) (by decide) hc)
    have hwhole := Json.wholePart?_toDigits (n := n.toNat) Json.endsNumber_nil
    rw [List.append_nil] at hwhole
    simp only [KeyCodec.encodeKey, Literal.ofString, String.toList_ofList, if_pos hplain,
      KeyCodec.decodeKey?, KeyCodec.ofDigits?, hwhole, Word.fit?_eq_some_iff,
      Nat.ofDigitChars_toDigits (b := 10) (n := n.toNat) (by decide) (by decide)]

instance : LawfulKeyCodec Address where
  decodeKey?_encodeKey a := by
    simp [KeyCodec.encodeKey, KeyCodec.decodeKey?]

instance : LawfulKeyCodec UInt256 where
  decodeKey?_encodeKey n := by
    simp [KeyCodec.encodeKey, KeyCodec.decodeKey?]

end LawfulKeyCodec

section Map

variable {κ α : Type} [Ord κ] [Std.TransOrd κ]

theorem decodeMembers?_encode [KeyCodec κ] [LawfulKeyCodec κ] [Codec α] [LawfulCodec α]
    (entries : List (κ × α)) (m : Std.ExtTreeMap κ α) :
    Codec.decodeMembers? .text (entries.map fun (k, v) =>
      (Literal.ofString (KeyCodec.encodeKey k), Codec.encode v)) m =
        some (m.insertMany entries) := by
  induction entries generalizing m with
  | nil => rfl
  | cons e entries ih =>
    obtain ⟨k, v⟩ := e
    rw [List.map_cons, Codec.decodeMembers?]
    simp only [decodeKey?_encodeKey, decode?_encode, Option.bind_eq_bind, Option.bind_some, ih,
      Std.ExtTreeMap.insertMany_cons]

variable [Std.LawfulEqOrd κ] [BEq κ] [Std.LawfulBEqOrd κ]

theorem insertMany_toList (m : Std.ExtTreeMap κ α) :
    (∅ : Std.ExtTreeMap κ α).insertMany m.toList = m := by
  apply Std.ExtTreeMap.ext_getElem?
  intro k
  cases hv : m[k]? with
  | some v =>
    exact Std.ExtTreeMap.getElem?_insertMany_list_of_mem Std.ReflOrd.compare_self
      Std.ExtTreeMap.distinct_keys_toList (Std.ExtTreeMap.mem_toList_iff_getElem?_eq_some.mpr hv)
  | none =>
    have hk : (m.toList.map Prod.fst).contains k = false := by
      rw [Std.ExtTreeMap.map_fst_toList_eq_keys, Std.ExtTreeMap.contains_keys,
        Std.ExtTreeMap.contains_eq_isSome_getElem?, hv]
      rfl
    rw [Std.ExtTreeMap.getElem?_insertMany_list_of_contains_eq_false hk]
    rfl

theorem foldl_insert_toList (s : Std.ExtTreeSet κ) :
    s.toList.foldl (·.insert ·) (∅ : Std.ExtTreeSet κ) = s := by
  rw [← Std.ExtTreeSet.insertMany_list_eq_foldl]
  apply Std.ExtTreeSet.ext_contains
  intro k
  rw [Std.ExtTreeSet.contains_insertMany_list, Std.ExtTreeSet.contains_empty, Bool.false_or,
    Std.ExtTreeSet.contains_toList]

instance [KeyCodec κ] [LawfulKeyCodec κ] [Codec α] [LawfulCodec α] :
    LawfulCodec (Std.ExtTreeMap κ α) where
  readsBack_encode m := by
    apply Json.readsBack_object Json.Layout.isBlank_pretty
    intro member hmember
    simp only [List.map_map, List.mem_map, Function.comp_apply] at hmember
    obtain ⟨⟨k, v⟩, -, rfl⟩ := hmember
    exact ⟨⟨_, rfl⟩, readsBack_encode v⟩
  decode?_encode m := by
    have hdecode := decodeMembers?_encode m.toList ∅
    rw [insertMany_toList] at hdecode
    simp only [Codec.encode, Codec.decode?, Json.ofMembers, List.map_map]
    exact hdecode

instance [Codec κ] [LawfulCodec κ] : LawfulCodec (Std.ExtTreeSet κ) where
  readsBack_encode s := readsBack_encode s.toList
  decode?_encode s := by
    have hdecode := decode?_encode s.toList
    simp only [Codec.decode?, Codec.encode] at hdecode ⊢
    rw [hdecode, Option.map_some, foldl_insert_toList]

end Map

end WarmStorage

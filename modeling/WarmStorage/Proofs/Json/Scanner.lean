import Mathlib.Data.List.TakeDrop
import WarmStorage.Json.Printer
import WarmStorage.Json.Scanner

/-!
Strings and numbers are read back as they were written. A string is read one written character at a
time; a number ends in front of whatever could not go on with it.
-/

namespace WarmStorage

namespace Text

variable {base n : Nat}

theorem eq_zero_of_head_toDigits (hbase : 1 < base) (h : (Nat.toDigits base n).head? = some '0') :
    n = 0 := by
  induction n using Nat.strongRecOn with
  | ind n ih =>
    by_cases hlt : n < base
    · rw [Nat.toDigits_of_lt_base hlt, List.head?_cons, Option.some.injEq,
        Nat.digitChar_eq_zero] at h
      exact h
    · have hle : base ≤ n := Nat.le_of_not_lt hlt
      have hpos : 0 < n / base := Nat.div_pos hle (by omega)
      have hhead : (Nat.toDigits base (n / base)).head? = some '0' := by
        obtain ⟨d, ds, hds⟩ :=
          List.exists_cons_of_ne_nil (Nat.toDigits_ne_nil (n := n / base) (b := base))
        rw [Nat.toDigits_of_base_le hbase hle, hds] at h
        rw [hds]
        exact h
      have := ih (n / base) (Nat.div_lt_self (by omega) hbase) hhead
      omega

end Text

namespace Json

variable {c : Char} {cs ds rest blanks : List Char} {s : String} {bound : Nat}

theorem skipBlank_append (h : ∀ c ∈ blanks, isBlank c = true) :
    skipBlank (blanks ++ cs) = skipBlank cs :=
  List.dropWhile_append_of_pos h

theorem skipBlank_cons (h : isBlank c = false) : skipBlank (c :: cs) = c :: cs := by
  rw [skipBlank, List.dropWhile_cons_of_neg]
  rw [h]
  exact Bool.false_ne_true

def writtenItem (c : Char) : Item :=
  if Literal.isPlain c then .char c
  else if c ∈ ['"', '\\', '\x08', '\x0c', '\n', '\r', '\t'] then .escape c
  else .unit c.toNat

theorem hexUnit?_digits {n : Nat} (h : n < 256) :
    hexUnit? ('0' :: '0' :: Nat.digitChar (n / 16) :: Nat.digitChar (n % 16) :: cs) =
      some (n, cs) := by
  have high := Text.Hex.value?_digit (n := n / 16) (by omega)
  have low := Text.Hex.value?_digit (n := n % 16) (by omega)
  have zero : Text.Hex.value? '0' = some 0 := by decide
  rw [Text.Hex.digit] at high low
  simp only [hexUnit?, zero, high, low, Option.bind_eq_bind, Option.bind_some, Option.pure_def,
    Option.some.injEq, Prod.mk.injEq, and_true]
  omega

theorem item?_escapeChar : item? (escapeChar c ++ cs) = some (writtenItem c, cs) := by
  unfold escapeChar
  split
  · subst c
    rfl
  split
  · subst c
    rfl
  split
  · rename_i hquote hslash hplain
    have hplain : Literal.isPlain c = true := by
      simp [Literal.isPlain, hplain, hquote, hslash]
    simp [item?, writtenItem, hplain, hslash]
  split
  · subst c
    rfl
  split
  · subst c
    rfl
  split
  · subst c
    rfl
  split
  · subst c
    rfl
  split
  · subst c
    rfl
  · rename_i hquote hslash hplain hb hf hn hr ht
    have hcontrol : c.toNat < 32 := by
      rw [Char.not_le, Char.lt_def, UInt32.lt_iff_toNat_lt] at hplain
      exact hplain
    have hunit : hexUnit? ('0' :: '0' :: Nat.digitChar (c.toNat / 16) ::
        Nat.digitChar (c.toNat % 16) :: cs) = some (c.toNat, cs) := hexUnit?_digits (by omega)
    simp [item?, writtenItem, Literal.isPlain, hplain, hquote, hslash, hb, hf, hn, hr, ht, hunit]

theorem items?_of_item? {i : Item} (h : item? cs = some (i, rest)) :
    items? (bound + 1) cs = (items? bound rest).map fun (is, cs) => (i :: is, cs) := by
  rw [items?.eq_def (bound + 1)]
  dsimp only
  split
  · -- a quote is no item
    contradiction
  · rw [h, Option.bind_eq_bind, Option.bind_some]
    cases items? bound rest with
    | none => rfl
    | some r => rfl

theorem items?_written {text : List Char} (h : text.length < bound) :
    items? bound (text.flatMap escapeChar ++ '"' :: rest) = some (text.map writtenItem, rest) := by
  induction text generalizing bound with
  | nil =>
    obtain ⟨bound, rfl⟩ := Nat.exists_eq_add_of_lt h
    rfl
  | cons c text ih =>
    obtain ⟨bound, rfl⟩ : ∃ m, bound = m + 1 := ⟨bound - 1, by omega⟩
    rw [List.length_cons] at h
    rw [List.flatMap_cons, List.append_assoc, items?_of_item? item?_escapeChar, ih (by omega)]
    rfl

theorem joinUnits?_written {text : List Char} :
    joinUnits? (text.map writtenItem) = some text := by
  induction text with
  | nil => rfl
  | cons c text ih =>
    rw [List.map_cons, writtenItem]
    split
    · rw [joinUnits?, ih]
      rfl
    split
    · rw [joinUnits?, ih]
      rfl
    · rename_i hplain hescape
      have hcontrol : c.toNat < 32 := by
        simp only [List.mem_cons, List.not_mem_nil, or_false, not_or] at hescape
        simp only [Literal.isPlain, bne_iff_ne, ne_eq, hescape, not_false_eq_true, Bool.and_eq_true,
          decide_eq_true_eq, and_true, Char.not_le, Char.lt_def, UInt32.lt_iff_toNat_lt] at hplain
        exact hplain
      have hleading : isLeading c.toNat = false := by
        simp only [isLeading, Bool.and_eq_false_imp, decide_eq_true_eq]
        omega
      have htrailing : isTrailing c.toNat = false := by
        simp only [isTrailing, Bool.and_eq_false_imp, decide_eq_true_eq]
        omega
      unfold joinUnits?
      rw [hleading, htrailing, ih]
      simp

theorem isChar_writtenItem : (writtenItem c).isChar = Literal.isPlain c := by
  unfold writtenItem
  split
  · rename_i hplain
    rw [hplain]
    rfl
  · rename_i hplain
    rw [Bool.not_eq_true] at hplain
    rw [hplain]
    split
    · rfl
    · rfl

theorem literal_written : literal (s.toList.map writtenItem) = .ofString s := by
  rw [literal, joinUnits?_written, Literal.ofString]
  simp only [List.all_map, Function.comp_def, isChar_writtenItem, String.ofList_toList]

theorem length_le_flatMap_escapeChar {text : List Char} :
    text.length ≤ (text.flatMap escapeChar).length := by
  induction text with
  | nil => exact Nat.le_refl _
  | cons c text ih =>
    have hpos : 0 < (escapeChar c).length := by
      unfold escapeChar
      repeat' split
      all_goals simp
    rw [List.flatMap_cons, List.length_append, List.length_cons]
    omega

theorem string?_written (h : (s.toList.flatMap escapeChar).length < bound) :
    string? bound (s.toList.flatMap escapeChar ++ '"' :: rest) = some (.ofString s, rest) := by
  have hlength := Nat.lt_of_le_of_lt length_le_flatMap_escapeChar h
  rw [string?, items?_written hlength]
  simp [literal_written]

def EndsNumber (rest : List Char) : Prop :=
  ∀ c, rest.head? = some c → c.isDigit = false ∧ c ≠ '.' ∧ c ≠ 'e' ∧ c ≠ 'E'

theorem endsNumber_nil : EndsNumber [] := by
  intro c h
  contradiction

theorem endsNumber_cons (h : c.isDigit = false ∧ c ≠ '.' ∧ c ≠ 'e' ∧ c ≠ 'E') :
    EndsNumber (c :: rest) := by
  intro c' hc'
  rw [List.head?_cons, Option.some.injEq] at hc'
  subst hc'
  exact h

theorem spanDigits_append (h : ∀ c ∈ ds, c.isDigit = true) (hrest : EndsNumber rest) :
    spanDigits (ds ++ rest) = (ds, rest) := by
  rw [spanDigits, List.span_eq_takeWhile_dropWhile, List.takeWhile_append_of_pos h,
    List.dropWhile_append_of_pos h]
  cases rest with
  | nil => simp
  | cons c rest =>
    have hc := (hrest c rfl).1
    simp [hc]

theorem fraction?_eq (hrest : EndsNumber rest) : fraction? rest = some ([], rest) := by
  unfold fraction?
  split
  · exact absurd rfl (hrest '.' rfl).2.1
  · rfl

theorem exponent?_eq (hrest : EndsNumber rest) : exponent? rest = some ([], rest) := by
  cases rest with
  | nil => rfl
  | cons c rest =>
    obtain ⟨-, -, he, hE⟩ := hrest c rfl
    simp [exponent?, he, hE]

theorem wholePart?_toDigits {n : Nat} (hrest : EndsNumber rest) :
    wholePart? (Nat.toDigits 10 n ++ rest) = some (Nat.toDigits 10 n, rest) := by
  have hdigits : ∀ c ∈ Nat.toDigits 10 n, c.isDigit = true := fun c hc =>
    Nat.isDigit_of_mem_toDigits (by decide) (by decide) hc
  rw [wholePart?, spanDigits_append hdigits hrest]
  split
  · rename_i h
    rw [Prod.mk.injEq] at h
    exact absurd h.1 Nat.toDigits_ne_nil
  · rename_i h
    rw [Prod.mk.injEq] at h
    have hten : 1 < 10 := by decide
    have hzero : n = 0 := Text.eq_zero_of_head_toDigits hten (by rw [h.1]; rfl)
    rw [hzero, Nat.toDigits_zero] at h
    simp at h
  · rename_i h
    rw [← h]

theorem number?_toDigits {n : UInt64} (hrest : EndsNumber rest) :
    number? (Nat.toDigits 10 n.toNat ++ rest) = some (.natural n, rest) := by
  have hunsigned : unsigned? (Nat.toDigits 10 n.toNat ++ rest) =
      some ((Nat.toDigits 10 n.toNat, true), rest) := by
    rw [unsigned?, wholePart?_toDigits hrest]
    simp [fraction?_eq hrest, exponent?_eq hrest]
  have hread : ofDigits (Nat.toDigits 10 n.toNat) = .natural n := by
    rw [ofDigits, Nat.ofDigitChars_toDigits (by decide) (by decide), Word.fit?_eq_some_iff.mpr rfl]
  unfold number?
  split
  · -- digits do not start with a sign
    rename_i cs h
    obtain ⟨d, ds, hds⟩ := List.exists_cons_of_ne_nil (Nat.toDigits_ne_nil (b := 10) (n := n.toNat))
    have hd : d.isDigit = true :=
      Nat.isDigit_of_mem_toDigits (b := 10) (n := n.toNat) (by decide) (by decide)
        (by rw [hds]; exact List.mem_cons_self)
    rw [hds, List.cons_append, List.cons.injEq] at h
    rw [h.1] at hd
    contradiction
  · rw [hunsigned, Option.map_some]
    simp only [hread, if_true]

end Json

end WarmStorage

import WarmStorage.Json.Parser
import WarmStorage.Json.Printer
import WarmStorage.Proofs.Json.Scanner

/-!
Values are read back as they were written, in every layout that adds blanks only. A number is read
back only in front of something that ends it, so that is asked of what stands behind a value.
-/

namespace WarmStorage.Json

structure Layout.IsBlank (layout : Layout) : Prop where
  lineBreak : ∀ depth, ∀ c ∈ layout.lineBreak depth, isBlank c = true
  colon : ∃ blanks, layout.colon = ':' :: blanks ∧ ∀ c ∈ blanks, isBlank c = true

theorem Layout.isBlank_pretty : Layout.pretty.IsBlank := by
  constructor
  · intro depth c hc
    simp only [pretty, List.mem_cons, List.mem_replicate] at hc
    obtain rfl | ⟨-, rfl⟩ := hc
    · rfl
    · rfl
  · exact ⟨[' '], rfl, by simp [Json.isBlank]⟩

structure ReadsBack (layout : Layout) (v : Json) : Prop where
  starts : ∀ depth, ∃ c cs, render layout depth v = c :: cs ∧ isBlank c = false ∧ c ≠ ']'
  value?_append : ∀ depth bound rest, (render layout depth v).length ≤ bound → EndsNumber rest →
    value? bound (render layout depth v ++ rest) = some (v, rest)

variable {layout : Layout} {depth bound : Nat} {v x : Json} {xs : List Json} {k : Literal}
  {ms : List (Literal × Json)} {c : Char} {blanks cs rest : List Char} {s : String}

theorem skipBlank_skipBlank : skipBlank (skipBlank cs) = skipBlank cs := by
  induction cs with
  | nil => rfl
  | cons c cs ih =>
    cases hc : isBlank c with
    | false => rw [skipBlank_cons hc, skipBlank_cons hc]
    | true =>
      have hskip : skipBlank (c :: cs) = skipBlank cs := List.dropWhile_cons_of_pos hc
      rw [hskip, ih]

theorem value?_skipBlank : value? bound (skipBlank cs) = value? bound cs := by
  cases bound with
  | zero => rfl
  | succ bound => rw [value?, value?, skipBlank_skipBlank]

theorem value?_blanks (h : ∀ c ∈ blanks, isBlank c = true) :
    value? bound (blanks ++ cs) = value? bound cs := by
  rw [← value?_skipBlank, skipBlank_append h, value?_skipBlank]

theorem elements?_blanks (h : ∀ c ∈ blanks, isBlank c = true) :
    elements? bound (blanks ++ cs) = elements? bound cs := by
  cases bound with
  | zero => rfl
  | succ bound => rw [elements?, elements?, value?_blanks h]

theorem members?_blanks (h : ∀ c ∈ blanks, isBlank c = true) :
    members? bound (blanks ++ cs) = members? bound cs := by
  cases bound with
  | zero => rfl
  | succ bound => rw [members?, members?, skipBlank_append h]

theorem value?_quote : value? (bound + 1) ('"' :: cs) =
    (string? bound cs).map fun (s, cs) => (.string s, cs) :=
  rfl

theorem value?_bracket (h : ∀ cs', skipBlank cs ≠ ']' :: cs')
    (helements : elements? bound (skipBlank cs) = some (xs, rest)) :
    value? (bound + 1) ('[' :: cs) = some (.array xs, rest) := by
  rw [value?, skipBlank_cons rfl]
  simp only [helements]

theorem value?_brace (h : ∀ cs', skipBlank cs ≠ '\x7d' :: cs')
    (hmembers : members? bound (skipBlank cs) = some (ms, rest)) :
    value? (bound + 1) ('\x7b' :: cs) = some (.object ms, rest) := by
  rw [value?, skipBlank_cons rfl]
  simp only [hmembers, Option.map_some]

theorem endsNumber_of_isBlank (h : isBlank c = true) : EndsNumber (c :: cs) := by
  simp only [isBlank, Bool.or_eq_true, beq_iff_eq] at h
  apply endsNumber_cons
  obtain ((rfl | rfl) | rfl) | rfl := h
  all_goals decide

theorem endsNumber_append (h : ∀ c ∈ blanks, isBlank c = true) (hrest : EndsNumber rest) :
    EndsNumber (blanks ++ rest) := by
  cases blanks with
  | nil => exact hrest
  | cons c blanks => exact endsNumber_of_isBlank (h c List.mem_cons_self)

theorem readsBack_null : ReadsBack layout .null where
  starts depth := ⟨_, _, rfl, rfl, by decide⟩
  value?_append := by
    intro depth bound rest hbound _
    obtain ⟨bound, rfl⟩ := Nat.exists_eq_add_of_lt hbound
    rfl

theorem readsBack_bool {b : Bool} : ReadsBack layout (.bool b) where
  starts depth := by
    cases b with
    | false => exact ⟨_, _, rfl, rfl, by decide⟩
    | true => exact ⟨_, _, rfl, rfl, by decide⟩
  value?_append := by
    intro depth bound rest hbound _
    cases b with
    | false =>
      obtain ⟨bound, rfl⟩ := Nat.exists_eq_add_of_lt hbound
      rfl
    | true =>
      obtain ⟨bound, rfl⟩ := Nat.exists_eq_add_of_lt hbound
      rfl

theorem isBlank_of_isDigit (h : c.isDigit = true) : isBlank c = false := by
  by_contra hblank
  rw [Bool.not_eq_false] at hblank
  have hends : EndsNumber [c] := endsNumber_of_isBlank hblank
  exact absurd h (by simpa using (hends c rfl).1)

theorem value?_of_isDigit (h : c.isDigit = true) :
    value? (bound + 1) (c :: cs) = number? (c :: cs) := by
  have hc : ∀ c', c'.isDigit = false → c ≠ c' := by
    rintro c' hc' rfl
    rw [h] at hc'
    contradiction
  rw [value?, skipBlank_cons (isBlank_of_isDigit h)]
  split
  · rename_i heq
    exact absurd (List.cons.inj heq).1 (hc _ (by decide))
  · rename_i heq
    exact absurd (List.cons.inj heq).1 (hc _ (by decide))
  · rename_i heq
    exact absurd (List.cons.inj heq).1 (hc _ (by decide))
  unfold scalar?
  split
  · rename_i heq
    exact absurd (List.cons.inj heq).1 (hc _ (by decide))
  · rename_i heq
    exact absurd (List.cons.inj heq).1 (hc _ (by decide))
  · rename_i heq
    exact absurd (List.cons.inj heq).1 (hc _ (by decide))
  · rfl

theorem readsBack_natural {n : UInt64} : ReadsBack layout (.natural n) := by
  obtain ⟨d, ds, hds⟩ := List.exists_cons_of_ne_nil (Nat.toDigits_ne_nil (b := 10) (n := n.toNat))
  have hd : d.isDigit = true :=
    Nat.isDigit_of_mem_toDigits (b := 10) (n := n.toNat) (by decide) (by decide)
      (by rw [hds]; exact List.mem_cons_self)
  constructor
  · intro depth
    rw [render]
    refine ⟨d, ds, hds, isBlank_of_isDigit hd, ?_⟩
    rintro rfl
    contradiction
  · intro depth bound rest hbound hrest
    rw [render] at hbound ⊢
    obtain ⟨bound, rfl⟩ : ∃ m, bound = m + 1 := by
      rw [hds, List.length_cons] at hbound
      exact ⟨bound - 1, by omega⟩
    have hnumber := number?_toDigits (n := n) hrest
    rw [hds, List.cons_append] at hnumber ⊢
    rw [value?_of_isDigit hd, hnumber]

theorem renderLiteral_ofString :
    renderLiteral (.ofString s) = '"' :: (s.toList.flatMap escapeChar ++ ['"']) := by
  rw [renderLiteral, Literal.text?_ofString]
  rfl

theorem readsBack_ofString : ReadsBack layout (.ofString s) where
  starts depth := by
    rw [ofString, render, renderLiteral_ofString]
    exact ⟨_, _, rfl, rfl, by decide⟩
  value?_append := by
    intro depth bound rest hbound _
    rw [ofString, render, renderLiteral_ofString] at hbound ⊢
    rw [List.length_cons, List.length_append, List.length_singleton] at hbound
    obtain ⟨bound, rfl⟩ : ∃ m, bound = m + 1 := ⟨bound - 1, by omega⟩
    have hstring : string? bound (s.toList.flatMap escapeChar ++ ['"'] ++ rest) =
        some (.ofString s, rest) := by
      rw [List.append_assoc]
      exact string?_written (by omega)
    rw [List.cons_append, value?_quote, hstring]
    rfl

theorem ReadsBack.skipBlank_append (h : ReadsBack layout v) :
    skipBlank (render layout depth v ++ rest) = render layout depth v ++ rest := by
  obtain ⟨c, cs, hcs, hc, -⟩ := h.starts depth
  rw [hcs, List.cons_append, skipBlank_cons hc]

theorem elements?_append (hlayout : layout.IsBlank) (hx : ReadsBack layout x)
    (hxs : ∀ x ∈ xs, ReadsBack layout x) (depth outer bound : Nat) (rest : List Char)
    (hbound : (render layout depth x).length + (renderElements layout depth xs).length < bound) :
    elements? bound (render layout depth x ++ (renderElements layout depth xs ++
      (layout.lineBreak outer ++ ']' :: rest))) = some (x :: xs, rest) := by
  induction xs generalizing x bound with
  | nil =>
    obtain ⟨bound, rfl⟩ := Nat.exists_eq_add_of_lt hbound
    have hends : EndsNumber (layout.lineBreak outer ++ ']' :: rest) :=
      endsNumber_append (hlayout.lineBreak outer) (endsNumber_cons (by decide))
    rw [elements?, renderElements, List.nil_append, hx.value?_append _ _ _ (by omega) hends]
    simp only [Option.bind_eq_bind, Option.bind_some,
      Json.skipBlank_append (hlayout.lineBreak outer), skipBlank_cons (c := ']') rfl,
      Option.pure_def]
  | cons y ys ih =>
    rw [renderElements, List.length_append, List.length_append, List.length_cons] at hbound
    obtain ⟨bound, rfl⟩ : ∃ m, bound = m + 1 := ⟨bound - 1, by omega⟩
    have hy := ih (hxs y List.mem_cons_self) (fun x hx => hxs x (List.mem_cons_of_mem y hx))
      bound (by omega)
    rw [elements?, renderElements, List.cons_append, List.cons_append, List.cons_append,
      hx.value?_append _ _ _ (by omega) (endsNumber_cons (by decide))]
    simp only [Option.bind_eq_bind, Option.bind_some, skipBlank_cons (c := ',') rfl,
      List.append_assoc, elements?_blanks (hlayout.lineBreak depth), hy, Option.pure_def]

theorem readsBack_array (hlayout : layout.IsBlank) (h : ∀ x ∈ xs, ReadsBack layout x) :
    ReadsBack layout (.array xs) where
  starts depth := by
    cases xs with
    | nil => exact ⟨_, _, rfl, rfl, by decide⟩
    | cons x xs => exact ⟨_, _, by rw [render]; rfl, rfl, by decide⟩
  value?_append := by
    intro depth bound rest hbound _
    cases xs with
    | nil =>
      obtain ⟨bound, rfl⟩ := Nat.exists_eq_add_of_lt hbound
      rfl
    | cons x xs =>
      obtain ⟨hx, hxs⟩ := List.forall_mem_cons.mp h
      simp only [render, List.length_append, List.length_cons, List.length_nil] at hbound
      obtain ⟨bound, rfl⟩ : ∃ m, bound = m + 1 := ⟨bound - 1, by omega⟩
      have helements := elements?_append hlayout hx hxs (depth + 1) depth bound rest (by omega)
      rw [render]
      simp only [List.append_assoc, List.cons_append, List.nil_append]
      apply value?_bracket
      · intro cs' heq
        obtain ⟨c, cs, hcs, -, hc⟩ := hx.starts (depth + 1)
        rw [Json.skipBlank_append (hlayout.lineBreak _), hx.skipBlank_append, hcs,
          List.cons_append] at heq
        exact hc (List.cons.inj heq).1
      · rw [Json.skipBlank_append (hlayout.lineBreak _), hx.skipBlank_append, helements]

theorem skipBlank_renderLiteral : skipBlank (renderLiteral k ++ rest) = renderLiteral k ++ rest :=
  skipBlank_cons rfl

structure MemberReadsBack (layout : Layout) (m : Literal × Json) : Prop where
  name : ∃ s, m.1 = .ofString s
  value : ReadsBack layout m.2

theorem members?_append (hlayout : layout.IsBlank) (hv : ReadsBack layout v)
    (hms : ∀ m ∈ ms, MemberReadsBack layout m) (s : String) (depth outer bound : Nat)
    (rest : List Char)
    (hbound : (renderLiteral (.ofString s)).length + layout.colon.length +
      (render layout depth v).length + (renderMembers layout depth ms).length < bound) :
    members? bound (renderLiteral (.ofString s) ++ (layout.colon ++ (render layout depth v ++
      (renderMembers layout depth ms ++ (layout.lineBreak outer ++ '\x7d' :: rest))))) =
        some ((.ofString s, v) :: ms, rest) := by
  obtain ⟨blanks, hcolon, hblanks⟩ := hlayout.colon
  induction ms generalizing s v bound with
  | nil =>
    simp only [renderLiteral_ofString, hcolon, List.length_cons, List.length_append,
      List.length_nil] at hbound
    obtain ⟨bound, rfl⟩ : ∃ m, bound = m + 1 := ⟨bound - 1, by omega⟩
    have hends : EndsNumber (layout.lineBreak outer ++ '\x7d' :: rest) :=
      endsNumber_append (hlayout.lineBreak outer) (endsNumber_cons (by decide))
    have hvalue := hv.value?_append depth bound _ (by omega) hends
    rw [members?, skipBlank_renderLiteral, renderLiteral_ofString, hcolon]
    simp only [List.cons_append, List.append_assoc, List.nil_append]
    rw [string?_written (by omega)]
    simp only [Option.bind_eq_bind, Option.bind_some, skipBlank_cons (c := ':') rfl,
      value?_blanks hblanks, renderMembers, List.nil_append, hvalue,
      Json.skipBlank_append (hlayout.lineBreak outer), skipBlank_cons (c := '\x7d') rfl,
      Option.pure_def]
  | cons m ms ih =>
    obtain ⟨k, w⟩ := m
    obtain ⟨⟨⟨name, rfl⟩, hw⟩, htail⟩ := List.forall_mem_cons.mp hms
    dsimp only at hw
    simp only [renderMembers, renderLiteral_ofString, hcolon, List.length_cons, List.length_append,
      List.length_nil] at hbound ih
    obtain ⟨bound, rfl⟩ : ∃ m, bound = m + 1 := ⟨bound - 1, by omega⟩
    have hrest := ih hw htail name bound (by omega)
    have hvalue := hv.value?_append depth bound
    rw [members?, skipBlank_renderLiteral, renderLiteral_ofString, hcolon]
    simp only [List.cons_append, List.append_assoc, List.nil_append]
    rw [string?_written (by omega)]
    simp only [Option.bind_eq_bind, Option.bind_some, skipBlank_cons (c := ':') rfl,
      value?_blanks hblanks, renderMembers, List.cons_append]
    rw [hvalue _ (by omega) (endsNumber_cons (by decide))]
    simp only [Option.bind_some, skipBlank_cons (c := ',') rfl, List.append_assoc,
      members?_blanks (hlayout.lineBreak depth), renderLiteral_ofString, hcolon, List.cons_append,
      List.nil_append] at hrest ⊢
    rw [hrest]
    rfl

theorem readsBack_object (hlayout : layout.IsBlank) (h : ∀ m ∈ ms, MemberReadsBack layout m) :
    ReadsBack layout (.object ms) where
  starts depth := by
    cases ms with
    | nil => exact ⟨_, _, rfl, rfl, by decide⟩
    | cons m ms =>
      obtain ⟨k, v⟩ := m
      exact ⟨_, _, by rw [render]; rfl, rfl, by decide⟩
  value?_append := by
    intro depth bound rest hbound _
    cases ms with
    | nil =>
      obtain ⟨bound, rfl⟩ := Nat.exists_eq_add_of_lt hbound
      rfl
    | cons m ms =>
      obtain ⟨k, v⟩ := m
      obtain ⟨⟨⟨name, rfl⟩, hv⟩, hms⟩ := List.forall_mem_cons.mp h
      dsimp only at hv
      simp only [render, List.length_append, List.length_cons, List.length_nil] at hbound
      obtain ⟨bound, rfl⟩ : ∃ m, bound = m + 1 := ⟨bound - 1, by omega⟩
      have hmembers := members?_append hlayout hv hms name (depth + 1) depth bound rest (by omega)
      rw [render]
      simp only [List.append_assoc, List.cons_append, List.nil_append]
      apply value?_brace
      · intro cs' heq
        rw [Json.skipBlank_append (hlayout.lineBreak _), skipBlank_renderLiteral,
          renderLiteral_ofString, List.cons_append] at heq
        exact absurd (List.cons.inj heq).1 (by decide)
      · rw [Json.skipBlank_append (hlayout.lineBreak _), skipBlank_renderLiteral, hmembers]

theorem parse?_pretty_append (h : ReadsBack .pretty v) (hblanks : ∀ c ∈ blanks, isBlank c = true) :
    parse? (v.pretty ++ String.ofList blanks) = some v := by
  have hends : EndsNumber (blanks ++ []) := endsNumber_append hblanks endsNumber_nil
  rw [List.append_nil] at hends
  have hvalue := h.value?_append 0 ((render .pretty 0 v ++ blanks).length + 1) blanks
    (by simp; omega) hends
  have hrest : skipBlank blanks = [] := by
    rw [← List.append_nil blanks, skipBlank_append hblanks]
    rfl
  rw [parse?, pretty, ← String.ofList_append, String.toList_ofList, hvalue]
  simp [hrest]

theorem parse?_pretty (h : ReadsBack .pretty v) : parse? v.pretty = some v := by
  have hparse : parse? (v.pretty ++ String.ofList []) = some v :=
    parse?_pretty_append h (List.forall_mem_nil _)
  rwa [String.ofList_nil, String.append_empty] at hparse

end WarmStorage.Json

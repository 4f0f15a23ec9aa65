import WarmStorage.Proofs.Ledger.Effects

/-!
The numbers of rails. A ledger keeps every rail that it opened, so as long as it does not hold one
rail for each number there is, the next number is a new one.
-/

namespace WarmStorage.Ledger

variable {l l' : Ledger} {id : RailId} {r r' : Rail} {ops : List Operation}

structure Numbered (l : Ledger) : Prop where
  isSome_rail?_iff : ∀ id, (l.rail? id).isSome = true ↔ 0 < id.toNat ∧ id.toNat ≤ l.lastRail.toNat
  size_eq : l.rails.size = l.lastRail.toNat

theorem numbered_empty : Numbered .empty := by
  constructor
  · intro id
    simp only [empty, rail?, Std.ExtTreeMap.getElem?_empty, Option.isSome_none, Bool.false_eq_true,
      false_iff, UInt64.toNat_zero]
    omega
  · rfl

theorem Numbered.rail?_next (h : l.Numbered) : l.rail? (l.lastRail + 1) = none := by
  have := l.lastRail.toNat_lt
  rw [← Option.not_isSome_iff_eq_none, h.isSome_rail?_iff, UInt64.toNat_add, UInt64.toNat_one]
  omega

theorem rail?_of_insert (hrails : l'.rails = l.rails.insert id r) {other : RailId} :
    l'.rail? other = if id = other then some r else l.rail? other := by
  rw [rail?, hrails, Std.ExtTreeMap.getElem?_insert]
  simp only [Std.compare_eq_iff_eq]
  rfl

theorem size_of_insert (hrails : l'.rails = l.rails.insert id r) :
    l'.rails.size = if (l.rail? id).isSome then l.rails.size else l.rails.size + 1 := by
  rw [hrails, Std.ExtTreeMap.size_insert, Std.ExtTreeMap.contains_eq_isSome_getElem?]
  rfl

theorem Numbered.replace (h : l.Numbered) (hr : l.rail? id = some r)
    (hrails : l'.rails = l.rails.insert id r') (hlast : l'.lastRail = l.lastRail) :
    l'.Numbered := by
  constructor
  · intro other
    rw [hlast, ← h.isSome_rail?_iff, rail?_of_insert hrails]
    split
    · rename_i heq
      rw [← heq, hr]
      simp
    · rfl
  · rw [size_of_insert hrails, hr, hlast]
    exact h.size_eq

theorem Numbered.open (h : l.Numbered) (hrails : l'.rails = l.rails.insert (l.lastRail + 1) r)
    (hlast : l'.lastRail = l.lastRail + 1) (room : l'.rails.size < UInt64.size) : l'.Numbered := by
  have hsize := size_of_insert hrails
  rw [h.rail?_next, Option.isSome_none, if_neg (by decide), h.size_eq] at hsize
  have hnext : (l.lastRail + 1).toNat = l.lastRail.toNat + 1 := by
    rw [hsize, UInt64.size] at room
    rw [UInt64.toNat_add, UInt64.toNat_one]
    omega
  constructor
  · intro other
    rw [hlast, hnext, rail?_of_insert hrails]
    split
    · rename_i heq
      rw [← heq, hnext]
      simp
    · rename_i hne
      rw [h.isSome_rail?_iff]
      rw [← UInt64.toNat_inj, hnext] at hne
      omega
  · rw [hsize, hlast, hnext]

theorem Effect.rails (heffect : Effect l l') :
    l'.rails = l.rails ∧ l'.lastRail = l.lastRail ∨
    (∃ id r r', l.rail? id = some r ∧ l'.rails = l.rails.insert id r' ∧
      l'.lastRail = l.lastRail ∧ r'.toRailTerms = r.toRailTerms) ∨
    ∃ r, l'.rails = l.rails.insert (l.lastRail + 1) r ∧ l'.lastRail = l.lastRail + 1 := by
  cases heffect with
  | deposited eq =>
    rw [eq]
    exact .inl ⟨rfl, rfl⟩
  | approved eq =>
    rw [eq]
    exact .inl ⟨rfl, rfl⟩
  | opened eq =>
    rw [eq]
    exact .inr (.inr ⟨_, rfl, rfl⟩)
  | changed hold terms h eq =>
    obtain ⟨-, -, a, b, c, -, -, rfl⟩ := changeRail_eq_ok_iff.mp h
    rw [eq, rails_pay, lastRail_pay]
    exact .inr (.inl ⟨_, _, _, hold, rfl, rfl, terms⟩)
  | ended hr eq =>
    rw [eq]
    exact .inr (.inl ⟨_, _, _, hr, rfl, rfl, rfl⟩)

theorem Effect.size_le (heffect : Effect l l') : l.rails.size ≤ l'.rails.size := by
  obtain ⟨hrails, -⟩ | ⟨id, r, r', -, hrails, -, -⟩ | ⟨r, hrails, -⟩ := heffect.rails
  · exact Nat.le_of_eq (by rw [hrails])
  · rw [hrails]
    exact Std.ExtTreeMap.size_le_size_insert
  · rw [hrails]
    exact Std.ExtTreeMap.size_le_size_insert

theorem Effect.numbered (heffect : Effect l l') (h : l.Numbered)
    (room : l'.rails.size < UInt64.size) : l'.Numbered := by
  obtain ⟨hrails, hlast⟩ | ⟨id, r, r', hr, hrails, hlast, -⟩ | ⟨r, hrails, hlast⟩ :=
    heffect.rails
  · constructor
    · intro id
      rw [rail?, hrails, hlast]
      exact h.isSome_rail?_iff id
    · rw [hrails, hlast]
      exact h.size_eq
  · exact h.replace hr hrails hlast
  · exact h.open hrails hlast room

theorem Effect.isSome_rail? (heffect : Effect l l') (h : (l.rail? id).isSome = true) :
    (l'.rail? id).isSome = true := by
  obtain ⟨hrails, -⟩ | ⟨other, r, r', -, hrails, -, -⟩ | ⟨r, hrails, -⟩ := heffect.rails
  · rw [rail?, hrails]
    exact h
  · rw [rail?_of_insert hrails]
    split
    · rfl
    · exact h
  · rw [rail?_of_insert hrails]
    split
    · rfl
    · exact h

theorem Reaches.size_le (h : l.Reaches l') : l.rails.size ≤ l'.rails.size := by
  obtain ⟨ops, rfl⟩ := h
  apply run_preserves (P := fun l' => l.rails.size ≤ l'.rails.size)
  · intro m m' h heffect
    exact Nat.le_trans h heffect.size_le
  · exact Nat.le_refl _

theorem Reaches.isSome_rail? (h : l.Reaches l') (hid : (l.rail? id).isSome = true) :
    (l'.rail? id).isSome = true := by
  obtain ⟨ops, rfl⟩ := h
  apply run_preserves (P := fun l' => (l'.rail? id).isSome = true) _ ops hid
  intro m m' hm heffect
  exact heffect.isSome_rail? hm

theorem numbered_run (room : (run .empty ops).rails.size < UInt64.size) :
    (run .empty ops).Numbered := by
  apply run_preserves (P := fun l => l.rails.size < UInt64.size → l.Numbered) _ ops _ room
  · intro l l' h heffect room
    exact heffect.numbered (h (Nat.lt_of_le_of_lt heffect.size_le room)) room
  · intro _
    exact numbered_empty

theorem Reaches.numbered (h : empty.Reaches l) (room : l.rails.size < UInt64.size) :
    l.Numbered := by
  obtain ⟨ops, rfl⟩ := h
  exact numbered_run room

end WarmStorage.Ledger

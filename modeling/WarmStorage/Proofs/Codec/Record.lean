import Mathlib.Data.List.Nodup
import WarmStorage.Codec.Record
import WarmStorage.Proofs.Codec.Basic

/-!
Records and choices are read back from the texts they are written as. What stands in the places of
a record is what was written there, because the names of a record are different from each other.
-/

namespace WarmStorage

namespace Record

variable {names : List String} {values : List Json} {name : String} {v : Json}
  {ms : List (Literal × Json)}

def members (names : List String) (values : List Json) : List (Literal × Json) :=
  (names.zip values).map fun (name, value) => (.ofString name, value)

theorem ofFields_eq : ofFields names values = .object (members names values) :=
  rfl

theorem occurrences_members (hlength : names.length = values.length) :
    occurrences name (members names values) = names.count name := by
  have hnames : (names.zip values).map Prod.fst = names := List.map_fst_zip (by omega)
  rw [List.count, ← hnames, List.countP_map, hnames, occurrences, members, List.countP_map]
  congr 1
  funext entry
  simp [beq_eq_decide]

theorem fieldOf_cons_self : fieldOf ((.ofString name, v) :: ms) name = .given v := by
  simp [fieldOf]

theorem fieldOf_cons_of_ne {other : String} (h : other ≠ name) :
    fieldOf ((.ofString other, v) :: ms) name = fieldOf ms name := by
  simp [fieldOf, h]

theorem map_fieldOf_members (hnames : names.Nodup) (hlength : names.length = values.length) :
    names.map (fieldOf (members names values)) = values.map .given := by
  induction names generalizing values with
  | nil =>
    obtain rfl := List.eq_nil_of_length_eq_zero hlength.symm
    rfl
  | cons name names ih =>
    obtain ⟨v, values, rfl⟩ := List.exists_cons_of_length_eq_add_one hlength.symm
    obtain ⟨hname, hnames⟩ := List.nodup_cons.mp hnames
    have htail : names.map (fieldOf (members (name :: names) (v :: values))) =
        names.map (fieldOf (members names values)) := by
      apply List.map_congr_left
      intro other hother
      apply fieldOf_cons_of_ne
      rintro rfl
      exact hname hother
    rw [List.map_cons, htail, ih hnames (Nat.succ.inj hlength), List.map_cons]
    exact congrArg (· :: _) fieldOf_cons_self

theorem fields?_ofFields (hnames : names.Nodup) (hlength : names.length = values.length) :
    fields? .text names (ofFields names values) = some (values.map .given) := by
  have hnamed : (members names values).all (isNamed names) = true := by
    rw [List.all_eq_true]
    intro member hmember
    obtain ⟨⟨name, v⟩, hzip, rfl⟩ := List.mem_map.mp hmember
    have hname := (List.of_mem_zip hzip).1
    simp [isNamed, hname]
  have honce : names.all (occurrences · (members names values) ≤ 1) = true := by
    rw [List.all_eq_true]
    intro name _
    rw [decide_eq_true_eq, occurrences_members hlength]
    exact List.nodup_iff_count_le_one.mp hnames name
  rw [ofFields_eq, fields?, hnamed, honce, map_fieldOf_members hnames hlength]
  rfl

theorem bind_fields? {α : Type} {decode? : List Field → Option α} {x : α} (hnames : names.Nodup)
    (hlength : names.length = values.length) (h : decode? (values.map .given) = some x) :
    (fields? .text names (ofFields names values)).bind decode? = some x := by
  rw [fields?_ofFields hnames hlength, Option.bind_some, h]

theorem readsBack_ofFields (h : ∀ v ∈ values, Json.ReadsBack .pretty v) :
    Json.ReadsBack .pretty (ofFields names values) := by
  apply Json.readsBack_object Json.Layout.isBlank_pretty
  intro member hmember
  obtain ⟨⟨name, v⟩, hzip, rfl⟩ := List.mem_map.mp hmember
  exact ⟨⟨name, rfl⟩, h v (List.of_mem_zip hzip).2⟩

end Record

namespace Field

variable {α : Type} [Codec α]

@[simp]
theorem required?_encode [LawfulCodec α] {x : α} :
    required? .text (.given (Codec.encode x)) = some x :=
  LawfulCodec.decode?_encode x

@[simp]
theorem optional?_encode [LawfulCodec (Option α)] {x : Option α} :
    optional? .text (.given (Codec.encode x)) = some x :=
  LawfulCodec.decode?_encode x

@[simp]
theorem orElse?_encode [LawfulCodec α] {x default : α} :
    orElse? .text default (.given (Codec.encode x)) = some x :=
  LawfulCodec.decode?_encode x

end Field

end WarmStorage

import WarmStorage.Proofs.Arbitration
import WarmStorage.Proofs.Proving.Run
import WarmStorage.Proofs.Service.Reachable

/-!
What is sound in every state that calls lead to: proving states are as runs of them leave them, and
a rail belongs to a data set that has it among its rails. So the proving state that decides over a
storage rail takes steps of a run, for as long as the data set exists.
-/

namespace WarmStorage

section

variable {α : Type} {m : Std.ExtTreeMap UInt64 α} {keys : List UInt64} {key : UInt64} {v : α}

theorem getElem?_foldl_insert :
    (keys.foldl (fun m k => m.insert k v) m)[key]? = if key ∈ keys then some v else m[key]? := by
  induction keys generalizing m with
  | nil => simp
  | cons k keys ih =>
    rw [List.foldl_cons, ih, Std.ExtTreeMap.getElem?_insert]
    simp only [Std.compare_eq_iff_eq, List.mem_cons, eq_comm (a := k)]
    by_cases hkeys : key ∈ keys
    · simp [hkeys]
    · simp [hkeys]

theorem getElem?_foldl_erase :
    (keys.foldl (fun m k => m.erase k) m)[key]? = if key ∈ keys then none else m[key]? := by
  induction keys generalizing m with
  | nil => simp
  | cons k keys ih =>
    rw [List.foldl_cons, ih, Std.ExtTreeMap.getElem?_erase]
    simp only [Std.compare_eq_iff_eq, List.mem_cons, eq_comm (a := k)]
    by_cases hkeys : key ∈ keys
    · simp [hkeys]
    · simp [hkeys]

end

namespace ServiceState

variable {s s' : ServiceState} {id other : DataSetId} {d : DataSet} {p q : ProvingState}
  {rail : RailId} {clock epoch : Epoch}

theorem proving?_insert :
    ({ s with proving := s.proving.insert id p } : ServiceState).proving? other =
      if id = other then some p else s.proving? other := by
  unfold proving?
  rw [Std.ExtTreeMap.getElem?_insert]
  simp only [Std.compare_eq_iff_eq]

theorem dataSet?_registered : (s.registered d).dataSet? other =
    if d.id = other then some d else s.dataSet? other := by
  unfold dataSet? registered
  rw [Std.ExtTreeMap.getElem?_insert]
  simp only [Std.compare_eq_iff_eq]

theorem railIds?_registered : (s.registered d).railIds? other =
    if d.id = other then some d.railIds else s.railIds? other := by
  unfold railIds?
  rw [dataSet?_registered]
  split
  · rfl
  · rfl

theorem proving?_registered : (s.registered d).proving? other =
    if d.id = other then some { params := s.config.proving } else s.proving? other :=
  proving?_insert

theorem dataSetOfRail?_registered : (s.registered d).dataSetOfRail? rail =
    if rail ∈ d.railIds then some d.id else s.dataSetOfRail? rail :=
  getElem?_foldl_insert

theorem dataSet?_withoutDataSet : (s.withoutDataSet id d).dataSet? other =
    if id = other then none else s.dataSet? other := by
  unfold dataSet? withoutDataSet
  rw [Std.ExtTreeMap.getElem?_erase]
  simp only [Std.compare_eq_iff_eq]

theorem railIds?_withoutDataSet : (s.withoutDataSet id d).railIds? other =
    if id = other then none else s.railIds? other := by
  unfold railIds?
  rw [dataSet?_withoutDataSet]
  split
  · rfl
  · rfl

theorem proving?_withoutDataSet : (s.withoutDataSet id d).proving? other =
    if id = other then none else s.proving? other := by
  unfold proving? withoutDataSet
  rw [Std.ExtTreeMap.getElem?_erase]
  simp only [Std.compare_eq_iff_eq]

theorem dataSetOfRail?_withoutDataSet : (s.withoutDataSet id d).dataSetOfRail? rail =
    if rail ∈ d.railIds then none else s.dataSetOfRail? rail :=
  getElem?_foldl_erase

theorem storageProving?_eq : s.storageProving? rail =
    (s.dataSetOfRail? rail).bind fun id => (s.railIds? id).bind fun rails =>
      if rails.head? = some rail then s.proving? id else none := by
  unfold storageProving? railIds?
  cases s.dataSetOfRail? rail with
  | none => rfl
  | some id =>
    cases hd : s.dataSet? id with
    | none => simp [hd]
    | some d => simp [hd, Deal.railIds, eq_comm (a := rail)]

/-- The invariant of runs; `clock` is the epoch of the last call. -/
structure Sound (s : ServiceState) (clock : Epoch) : Prop where
  params : s.config.proving.Valid
  proving : ∀ id p, s.proving? id = some p → ∃ last, last ≤ clock ∧ p.Invariant last
  owned : ∀ rail id, s.dataSetOfRail? rail = some id →
    ∃ rails, s.railIds? id = some rails ∧ rail ∈ rails

theorem Sound.mono (h : s.Sound clock) (later : clock ≤ epoch) : s.Sound epoch := by
  refine ⟨h.params, ?_, h.owned⟩
  intro id p hp
  obtain ⟨last, hlast, hinv⟩ := h.proving id p hp
  exact ⟨last, UInt64.le_trans hlast later, hinv⟩

theorem Sound.ne_of_unused (h : s.Sound clock) (hid : s.dataSetOfRail? rail = some id)
    (unused : s.dataSet? other = none) : other ≠ id := by
  rintro rfl
  obtain ⟨rails, hrails, -⟩ := h.owned rail other hid
  rw [railIds?, unused] at hrails
  contradiction

theorem Sound.quiet (h : s.Sound clock) (quiet : s.Quiet s') : s'.Sound clock := by
  refine ⟨quiet.params h.params, ?_, ?_⟩
  · intro id p hp
    rw [proving?, quiet.proving] at hp
    exact h.proving id p hp
  · intro rail id hid
    rw [dataSetOfRail?, quiet.railOwners] at hid
    rw [quiet.railIds]
    exact h.owned rail id hid

theorem Sound.stepped {step : ProvingState.Step} (h : s.Sound clock) (later : clock ≤ step.epoch)
    (hp : s.proving? id = some p) (accepted : p.Accepts step) :
    ({ s with proving := s.proving.insert id (step.apply p) } : ServiceState).Sound step.epoch := by
  refine ⟨h.params, ?_, h.owned⟩
  intro other q hq
  rw [proving?_insert] at hq
  split at hq
  · obtain ⟨last, hlast, hinv⟩ := h.proving id p hp
    cases hq
    exact ⟨step.epoch, UInt64.le_refl _, hinv.apply (UInt64.le_trans hlast later) accepted⟩
  · exact (h.mono later).proving other q hq

theorem Sound.registered (h : s.Sound clock) (unused : s.dataSet? d.id = none) :
    (s.registered d).Sound clock := by
  refine ⟨h.params, ?_, ?_⟩
  · intro other q hq
    rw [proving?_registered] at hq
    split at hq
    · cases hq
      have hlen := UInt64.lt_trans h.params.1 h.params.2
      exact ⟨0, UInt64.zero_le, (ProvingState.Run.fresh).invariant hlen⟩
    · exact h.proving other q hq
  · intro rail id hid
    rw [dataSetOfRail?_registered] at hid
    rw [railIds?_registered]
    split at hid
    · rename_i hrail
      cases hid
      exact ⟨d.railIds, if_pos rfl, hrail⟩
    · rw [if_neg (h.ne_of_unused hid unused)]
      exact h.owned rail id hid

theorem Sound.withoutDataSet (h : s.Sound clock) (hd : s.dataSet? id = some d) :
    (s.withoutDataSet id d).Sound clock := by
  refine ⟨h.params, ?_, ?_⟩
  · intro other q hq
    rw [proving?_withoutDataSet] at hq
    split at hq
    · contradiction
    · exact h.proving other q hq
  · intro rail other hother
    rw [dataSetOfRail?_withoutDataSet] at hother
    split at hother
    · contradiction
    rename_i hrail
    obtain ⟨rails, hrails, hmem⟩ := h.owned rail other hother
    refine ⟨rails, ?_, hmem⟩
    rw [railIds?_withoutDataSet, if_neg]
    · exact hrails
    · -- what the deleted data set owned is among its rails, and so no longer owned
      rintro rfl
      rw [railIds?, hd] at hrails
      cases hrails
      exact hrail hmem

end ServiceState

theorem Config.valid_of_validate {c : Config} (h : c.validate = .ok ()) : c.proving.Valid := by
  unfold validate at h
  obtain ⟨-, -, h⟩ := Ledger.bind_eq_ok_iff.mp h
  dsimp only at h
  split at h
  · contradiction
  split at h
  · contradiction
  obtain ⟨_, hproving, -⟩ := Ledger.bind_eq_ok_iff.mp h
  exact ProvingParams.validate_eq_ok_iff.mp hproving

namespace Service

open ServiceState

variable {config : Config} {ledger : Ledger} {providers : ProviderRegistry}
  {sessionKeys : SessionKeys} {s s' : Service} {id : DataSetId} {q : ProvingState}
  {rail : RailId} {clock epoch : Epoch}

theorem state_of_new (h : new config ledger providers sessionKeys = .ok s) :
    s.state = .ofConfig config ∧ config.proving.Valid := by
  obtain ⟨hvalid, rfl⟩ := new_eq_ok_iff.mp h
  exact ⟨rfl, Config.valid_of_validate hvalid⟩

theorem sound_of_new (h : new config ledger providers sessionKeys = .ok s) : s.state.Sound 0 := by
  obtain ⟨hstate, hvalid⟩ := state_of_new h
  rw [hstate]
  refine ⟨hvalid, ?_, ?_⟩
  · intro id p hp
    simp [ServiceState.ofConfig, ServiceState.proving?] at hp
  · intro rail id hid
    simp [ServiceState.ofConfig, ServiceState.dataSetOfRail?] at hid

theorem Effect.sound (heffect : Effect epoch s s') (h : s.state.Sound clock)
    (later : clock ≤ epoch) : s'.state.Sound epoch := by
  cases heffect with
  | quiet quiet => exact (h.mono later).quiet quiet
  | stepped hp accepted epoch_eq eq =>
    rw [eq, ← epoch_eq]
    rw [← epoch_eq] at later
    exact h.stepped later hp accepted
  | created unused _ _ eq =>
    rw [eq]
    exact (h.mono later).registered unused
  | deleted hd eq =>
    rw [eq]
    exact (h.mono later).withoutDataSet hd

theorem Effect.storageProving? (heffect : Effect epoch s s') (h : s.state.Sound clock)
    (hid : s'.state.dataSetOfRail? rail = some id) (hd : (s.state.dataSet? id).isSome = true)
    (hq : s'.state.storageProving? rail = some q) :
    s.state.dataSetOfRail? rail = some id ∧
      (s.state.storageProving? rail = some q ∨
        ∃ p step, s.state.storageProving? rail = some p ∧ p.Accepts step ∧ step.epoch = epoch ∧
          q = step.apply p) := by
  rw [storageProving?_eq, hid, Option.bind_some] at hq
  rw [storageProving?_eq]
  cases heffect with
  | quiet quiet =>
    rw [dataSetOfRail?, quiet.railOwners] at hid
    rw [quiet.railIds, proving?, quiet.proving] at hq
    rw [dataSetOfRail?, hid]
    exact ⟨rfl, .inl hq⟩
  | @stepped other p step hp accepted epoch_eq eq =>
    rw [eq] at hid hq
    have hid : s.state.dataSetOfRail? rail = some id := hid
    rw [proving?_insert] at hq
    rw [hid]
    refine ⟨rfl, ?_⟩
    by_cases heq : other = id
    · -- it is this data set that takes the step
      rw [if_pos heq] at hq
      obtain ⟨rails, hrails, hq⟩ := Option.bind_eq_some_iff.mp hq
      have hrails : s.state.railIds? id = some rails := hrails
      split at hq
      · rename_i hhead
        cases hq
        refine .inr ⟨p, step, ?_, accepted, epoch_eq, rfl⟩
        rw [Option.bind_some, hrails, Option.bind_some, if_pos hhead, ← heq, hp]
      · contradiction
    · rw [if_neg heq] at hq
      exact .inl hq
  | @created d unused _ _ eq =>
    rw [eq, dataSetOfRail?_registered] at hid
    split at hid
    · -- the rails of the new data set belong to no data set that was there before
      cases hid
      rw [unused] at hd
      contradiction
    · have hne := h.ne_of_unused hid unused
      rw [eq, railIds?_registered, proving?_registered, if_neg hne, if_neg hne] at hq
      rw [hid]
      exact ⟨rfl, .inl hq⟩
  | @deleted other d hdeleted eq =>
    rw [eq, dataSetOfRail?_withoutDataSet] at hid
    rw [eq, railIds?_withoutDataSet, proving?_withoutDataSet] at hq
    split at hid
    · contradiction
    rw [hid]
    split at hq
    · contradiction
    · exact ⟨rfl, .inl hq⟩

end Service

end WarmStorage

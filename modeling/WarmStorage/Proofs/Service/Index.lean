import WarmStorage.Proofs.Ledger.Numbering
import WarmStorage.Proofs.Service.Soundness
import WarmStorage.Views

/-!
The indexes of the state. Creation and deletion keep five maps by hand, and all other calls leave
them alone: in every state that calls lead to, each map says exactly what the data sets say. A rail
belongs to one data set, since the ledger opens rails under new numbers.
-/

namespace WarmStorage

theorem ReplayRegistry.dataSet?_recordDataSet {r : ReplayRegistry} {payer payer' : Address}
    {clientId clientId' : UInt256} {id : DataSetId} :
    (r.recordDataSet payer clientId id).dataSet? payer' clientId' =
      if payer = payer' ∧ clientId = clientId' then some id else r.dataSet? payer' clientId' := by
  show ((r.dataSets.insert payer ((r.dataSets.getD payer ∅).insert clientId id))[payer']?).bind
    (·[clientId']?) = if _ then _ else (r.dataSets[payer']?).bind (·[clientId']?)
  rw [Std.ExtTreeMap.getElem?_insert]
  simp only [Std.compare_eq_iff_eq]
  by_cases hpayer : payer = payer'
  · subst hpayer
    rw [if_pos rfl, Option.bind_some, Std.ExtTreeMap.getElem?_insert,
      Std.ExtTreeMap.getD_eq_getD_getElem?]
    simp only [Std.compare_eq_iff_eq, true_and]
    cases r.dataSets[payer]? with
    | none => simp
    | some used => rfl
  · rw [if_neg hpayer, if_neg fun h => hpayer h.1]

namespace ServiceState

variable {s s' : ServiceState} {id other : DataSetId} {d d' : DataSet} {rail : RailId}
  {payer : Address}

theorem dataSetsOf_registered : (s.registered d).dataSetsOf payer =
    if d.payer = payer then s.dataSetsOf payer ++ [d.id] else s.dataSetsOf payer := by
  show (Std.ExtTreeMap.insert _ _ _).getD _ _ = _
  rw [Std.ExtTreeMap.getD_insert]
  simp only [Std.compare_eq_iff_eq]
  split
  · rename_i heq
    rw [← heq]
    rfl
  · rfl

theorem dataSetsOf_withoutDataSet : (s.withoutDataSet id d).dataSetsOf payer =
    if d.payer = payer then (s.dataSetsOf payer).filter (· != id) else s.dataSetsOf payer := by
  show (Std.ExtTreeMap.alter _ _ _).getD _ _ = _
  rw [Std.ExtTreeMap.getD_alter]
  simp only [Std.compare_eq_iff_eq]
  split
  · rename_i heq
    rw [← heq, dataSetsOf, Std.ExtTreeMap.getD_eq_getD_getElem?]
    cases s.payerDataSets[d.payer]? with
    | none => rfl
    | some ids =>
      rw [Option.map_some, Option.filter_some, Option.getD_some]
      cases ids.filter (· != id) with
      | nil => rfl
      | cons => rfl
  · rfl

structure IndexedAt (s : ServiceState) (id : DataSetId) (d : DataSet) : Prop where
  id_eq : d.id = id
  clientId : s.replay.dataSet? d.payer d.clientDataSetId = some id
  egress : d.cacheMissRail.isSome = d.cdnRail.isSome
  distinct : d.railIds.Nodup

structure Indexed (s : ServiceState) : Prop where
  dataSet : ∀ id d, s.dataSet? id = some d → s.IndexedAt id d
  proving : ∀ id, (s.proving? id).isSome = (s.dataSet? id).isSome
  mem_dataSetsOf_iff : ∀ payer id, id ∈ s.dataSetsOf payer ↔
    ∃ d, s.dataSet? id = some d ∧ d.payer = payer
  nodup : ∀ payer, (s.dataSetsOf payer).Nodup
  nonempty : ∀ payer : Address, s.payerDataSets[payer]? ≠ some []

theorem indexed_ofConfig {config : Config} : (ofConfig config).Indexed := by
  constructor
  · intro id d hd
    simp [dataSet?, ofConfig] at hd
  · intro id
    simp [dataSet?, proving?, ofConfig]
  · intro payer id
    simp [dataSet?, dataSetsOf, ofConfig]
  · intro payer
    simp [dataSetsOf, ofConfig]
  · intro payer
    simp [ofConfig]

theorem IndexedAt.of_entry (h : s.IndexedAt id d) (hentry : d'.entry = d.entry)
    (hreplay : s'.replay.dataSets = s.replay.dataSets) : s'.IndexedAt id d' := by
  have hrails := DataSet.railIds_of_entry hentry
  injection hentry with hid hpayer hclientId _ hcacheMiss hcdn
  constructor
  · rw [hid]
    exact h.id_eq
  · rw [hpayer, hclientId, ReplayRegistry.dataSet?, hreplay]
    exact h.clientId
  · rw [hcacheMiss, hcdn]
    exact h.egress
  · rw [hrails]
    exact h.distinct

theorem sameIndex_insert_proving {p : ProvingState} :
    s.SameIndex { s with proving := s.proving.insert id p } :=
  ⟨fun _ => rfl, rfl, rfl, rfl⟩

theorem SameIndex.isSome_dataSet? (h : s.SameIndex s') :
    (s'.dataSet? id).isSome = (s.dataSet? id).isSome := by
  have hentry := congrArg Option.isSome (h.entries id)
  rw [Option.isSome_map, Option.isSome_map] at hentry
  exact hentry

theorem SameIndex.symm (h : s.SameIndex s') : s'.SameIndex s :=
  ⟨fun id => (h.entries id).symm, h.railOwners.symm, h.payerDataSets.symm, h.replay.symm⟩

theorem SameIndex.exists_of_payer (h : s.SameIndex s')
    (hd : ∃ d, s'.dataSet? id = some d ∧ d.payer = payer) :
    ∃ d, s.dataSet? id = some d ∧ d.payer = payer := by
  obtain ⟨d', hd', hpayer⟩ := hd
  obtain ⟨d, hd, hentry⟩ := h.entry hd'
  injection hentry with _ heq
  exact ⟨d, hd, heq.symm.trans hpayer⟩

theorem Indexed.sameIndex (h : s.Indexed) (same : s.SameIndex s')
    (hproving : ∀ id, (s'.proving? id).isSome = (s.proving? id).isSome) : s'.Indexed := by
  constructor
  · intro id d' hd'
    obtain ⟨d, hd, hentry⟩ := same.entry hd'
    exact (h.dataSet id d hd).of_entry hentry same.replay
  · intro id
    rw [hproving, same.isSome_dataSet?]
    exact h.proving id
  · intro payer id
    rw [dataSetsOf, same.payerDataSets]
    apply (h.mem_dataSetsOf_iff payer id).trans
    exact ⟨same.symm.exists_of_payer, same.exists_of_payer⟩
  · intro payer
    rw [dataSetsOf, same.payerDataSets]
    exact h.nodup payer
  · intro payer
    rw [same.payerDataSets]
    exact h.nonempty payer

theorem Indexed.not_mem_dataSetsOf (h : s.Indexed) (unused : s.dataSet? id = none)
    (payer : Address) : id ∉ s.dataSetsOf payer := by
  rw [h.mem_dataSetsOf_iff, unused]
  simp

theorem indexedAt_registered (egress : d.cacheMissRail.isSome = d.cdnRail.isSome)
    (distinct : d.railIds.Nodup) : (s.registered d).IndexedAt d.id d := by
  refine ⟨rfl, ?_, egress, distinct⟩
  show (s.replay.recordDataSet _ _ _).dataSet? _ _ = _
  rw [ReplayRegistry.dataSet?_recordDataSet, if_pos ⟨rfl, rfl⟩]

theorem IndexedAt.registered (h : s.IndexedAt id d')
    (newClientId : s.replay.dataSet? d.payer d.clientDataSetId = none) :
    (s.registered d).IndexedAt id d' := by
  refine ⟨h.id_eq, ?_, h.egress, h.distinct⟩
  show (s.replay.recordDataSet _ _ _).dataSet? _ _ = _
  rw [ReplayRegistry.dataSet?_recordDataSet, if_neg]
  · exact h.clientId
  · rintro ⟨hpayer, hclientId⟩
    have hused := h.clientId
    rw [← hpayer, ← hclientId, newClientId] at hused
    contradiction

theorem Indexed.registered (h : s.Indexed) (unused : s.dataSet? d.id = none)
    (newClientId : s.replay.dataSet? d.payer d.clientDataSetId = none)
    (egress : d.cacheMissRail.isSome = d.cdnRail.isSome) (distinct : d.railIds.Nodup) :
    (s.registered d).Indexed := by
  constructor
  · -- a data set is the new one, or was indexed before
    intro id d' hd'
    rw [dataSet?_registered] at hd'
    split at hd'
    · rename_i heq
      cases hd'
      rw [← heq]
      exact indexedAt_registered egress distinct
    · exact (h.dataSet id d' hd').registered newClientId
  · intro id
    rw [proving?_registered, dataSet?_registered]
    split
    · rfl
    · exact h.proving id
  · -- only the payer of the new data set gets a new entry
    intro payer id
    rw [dataSetsOf_registered, dataSet?_registered]
    by_cases hid : d.id = id
    · subst hid
      -- the identifier is unused, so no list has it yet
      have hnew := h.not_mem_dataSetsOf unused payer
      rw [if_pos rfl]
      split
      · simp [*]
      · simp [*]
    · rw [if_neg hid, ← h.mem_dataSetsOf_iff]
      split
      · simp [Ne.symm hid]
      · rfl
  · intro payer
    rw [dataSetsOf_registered]
    split
    · apply List.nodup_append.mpr
      refine ⟨h.nodup payer, List.nodup_singleton _, ?_⟩
      rintro id hid _ hmem rfl
      rw [List.mem_singleton.mp hmem] at hid
      exact h.not_mem_dataSetsOf unused payer hid
    · exact h.nodup payer
  · intro payer
    show (Std.ExtTreeMap.insert _ _ _)[payer]? ≠ _
    rw [Std.ExtTreeMap.getElem?_insert]
    split
    · simp
    · exact h.nonempty payer

theorem Indexed.withoutDataSet (h : s.Indexed) (hd : s.dataSet? id = some d) :
    (s.withoutDataSet id d).Indexed := by
  constructor
  · intro other d' hd'
    rw [dataSet?_withoutDataSet] at hd'
    split at hd'
    · contradiction
    · obtain ⟨hid, hclientId, hegress, hdistinct⟩ := h.dataSet other d' hd'
      exact ⟨hid, hclientId, hegress, hdistinct⟩
  · intro other
    rw [proving?_withoutDataSet, dataSet?_withoutDataSet]
    split
    · rfl
    · exact h.proving other
  · intro payer other
    rw [dataSetsOf_withoutDataSet, dataSet?_withoutDataSet]
    by_cases hother : id = other
    · subst hother
      rw [if_pos rfl]
      split
      · simp
      · rename_i hpayer
        rw [h.mem_dataSetsOf_iff, hd]
        simp [hpayer]
    · rw [if_neg hother, ← h.mem_dataSetsOf_iff]
      split
      · simp [Ne.symm hother]
      · rfl
  · intro payer
    rw [dataSetsOf_withoutDataSet]
    split
    · exact (h.nodup payer).filter _
    · exact h.nodup payer
  · intro payer
    show (Std.ExtTreeMap.alter _ _ _)[payer]? ≠ _
    rw [Std.ExtTreeMap.getElem?_alter]
    split
    · intro heq
      rw [Option.filter_eq_some_iff] at heq
      simp at heq
    · exact h.nonempty payer

def HasRail (s : ServiceState) (id : DataSetId) (rail : RailId) : Prop :=
  ∃ d, s.dataSet? id = some d ∧ rail ∈ d.railIds

theorem SameIndex.hasRail (h : s.SameIndex s') (hrail : s'.HasRail id rail) :
    s.HasRail id rail := by
  obtain ⟨d', hd', hmem⟩ := hrail
  obtain ⟨d, hd, hentry⟩ := h.entry hd'
  rw [DataSet.railIds_of_entry hentry] at hmem
  exact ⟨d, hd, hmem⟩

theorem SameIndex.hasRail_iff (h : s.SameIndex s') : s'.HasRail id rail ↔ s.HasRail id rail :=
  ⟨h.hasRail, h.symm.hasRail⟩

theorem hasRail_registered : (s.registered d).HasRail id rail ↔
    d.id = id ∧ rail ∈ d.railIds ∨ d.id ≠ id ∧ s.HasRail id rail := by
  unfold HasRail
  rw [dataSet?_registered]
  by_cases hid : d.id = id
  · simp [hid]
  · simp [hid]

theorem hasRail_withoutDataSet : (s.withoutDataSet id d).HasRail other rail ↔
    id ≠ other ∧ s.HasRail other rail := by
  unfold HasRail
  rw [dataSet?_withoutDataSet]
  by_cases hid : id = other
  · simp [hid]
  · simp [hid]

end ServiceState

namespace Deal

variable {d : Deal} {last last' rail : RailId}

theorem RailsFrom.railIds (h : d.RailsFrom last last') :
    d.railIds = [last + 1] ∧ last' = last + 1 ∨
      d.railIds = [last + 1, last + 2, last + 3] ∧ last' = last + 3 := by
  obtain ⟨hstorage, ⟨hegress, hlast⟩ | ⟨hegress, hlast⟩⟩ := h
  · rw [Deal.railIds, hstorage, hegress]
    exact .inl ⟨rfl, hlast⟩
  · rw [Deal.railIds, hstorage, hegress]
    exact .inr ⟨rfl, hlast⟩

theorem RailsFrom.nodup (h : d.RailsFrom last last') : d.railIds.Nodup := by
  obtain ⟨hrails, -⟩ | ⟨hrails, -⟩ := h.railIds
  · rw [hrails]
    simp
  · rw [hrails]
    simp

theorem RailsFrom.egress (h : d.RailsFrom last last') :
    d.cacheMissRail.isSome = d.cdnRail.isSome := by
  have hlength : d.egressRails.length = 0 ∨ d.egressRails.length = 2 := by
    obtain ⟨hegress, -⟩ | ⟨hegress, -⟩ := h.2
    · exact .inl (by rw [hegress]; rfl)
    · exact .inr (by rw [hegress]; rfl)
  unfold egressRails at hlength
  cases hcacheMiss : d.cacheMissRail with
  | none =>
    cases hcdn : d.cdnRail with
    | none => rfl
    | some => simp [hcacheMiss, hcdn] at hlength
  | some =>
    cases hcdn : d.cdnRail with
    | none => simp [hcacheMiss, hcdn] at hlength
    | some => rfl

theorem RailsFrom.lt (h : d.RailsFrom last last') (hle : last.toNat ≤ last'.toNat)
    (hrail : rail ∈ d.railIds) : last.toNat < rail.toNat ∧ rail.toNat ≤ last'.toNat := by
  have := last.toNat_lt
  obtain ⟨hrails, rfl⟩ | ⟨hrails, rfl⟩ := h.railIds
  · simp only [UInt64.toNat_add, UInt64.toNat_one] at hle
    rw [hrails, List.mem_singleton] at hrail
    simp only [hrail, UInt64.toNat_add, UInt64.toNat_one]
    omega
  · simp only [UInt64.toNat_add, UInt64.reduceToNat] at hle
    simp only [hrails, List.mem_cons, List.not_mem_nil, or_false] at hrail
    obtain rfl | rfl | rfl := hrail
    all_goals
      simp only [UInt64.toNat_add, UInt64.reduceToNat]
      omega

end Deal

namespace Service

open ServiceState

variable {s s' : Service} {epoch : Epoch}

theorem Effect.indexed (heffect : Effect epoch s s') (h : s.state.Indexed) : s'.state.Indexed := by
  cases heffect with
  | quiet quiet =>
    apply h.sameIndex quiet.toSameIndex
    intro id
    rw [proving?, quiet.proving]
    rfl
  | @stepped id p step hp accepted epoch_eq eq =>
    rw [eq]
    refine h.sameIndex sameIndex_insert_proving fun other => ?_
    rw [proving?_insert]
    split
    · rename_i heq
      rw [← heq, hp]
      rfl
    · rfl
  | created unused newClientId rails eq =>
    rw [eq]
    exact h.registered unused newClientId rails.egress rails.nodup
  | deleted hd eq =>
    rw [eq]
    exact h.withoutDataSet hd

structure RailsIndexed (s : Service) : Prop where
  owner_iff : ∀ rail id, s.state.dataSetOfRail? rail = some id ↔ s.state.HasRail id rail
  opened : ∀ rail id, s.state.HasRail id rail → (s.ledger.rail? rail).isSome = true

theorem RailsIndexed.of_same (h : s.RailsIndexed) (same : s.state.SameIndex s'.state)
    (reaches : s.ledger.Reaches s'.ledger) : s'.RailsIndexed := by
  constructor
  · intro rail id
    rw [dataSetOfRail?, same.railOwners, same.hasRail_iff]
    exact h.owner_iff rail id
  · intro rail id hrail
    rw [same.hasRail_iff] at hrail
    exact reaches.isSome_rail? (h.opened rail id hrail)

theorem RailsIndexed.created {d : DataSet} (h : s.RailsIndexed)
    (unused : s.state.dataSet? d.id = none)
    (new : ∀ rail, rail ∈ d.railIds → s.ledger.rail? rail = none)
    (opened : ∀ rail, rail ∈ d.railIds → (s'.ledger.rail? rail).isSome = true)
    (reaches : s.ledger.Reaches s'.ledger) (eq : s'.state = s.state.registered d) :
    s'.RailsIndexed := by
  constructor
  · intro rail id
    rw [eq, dataSetOfRail?_registered, hasRail_registered]
    split
    · rename_i hrail
      -- no other data set has a rail that is only opened now
      have hother : ¬ s.state.HasRail id rail := by
        intro hold
        have hsome := h.opened rail id hold
        rw [new rail hrail] at hsome
        contradiction
      simp [hrail, hother]
    · rename_i hrail
      have hunused : s.state.HasRail id rail → d.id ≠ id := by
        rintro ⟨d', hd', -⟩ rfl
        rw [unused] at hd'
        contradiction
      rw [h.owner_iff]
      simp only [hrail, and_false, false_or]
      exact ⟨fun hold => ⟨hunused hold, hold⟩, And.right⟩
  · intro rail id hrail
    rw [eq, hasRail_registered] at hrail
    cases hrail with
    | inl hnew => exact opened rail hnew.2
    | inr hold => exact reaches.isSome_rail? (h.opened rail id hold.2)

theorem RailsIndexed.deleted {id : DataSetId} {d : DataSet} (h : s.RailsIndexed)
    (hd : s.state.dataSet? id = some d) (reaches : s.ledger.Reaches s'.ledger)
    (eq : s'.state = s.state.withoutDataSet id d) : s'.RailsIndexed := by
  have howned : ∀ rail, rail ∈ d.railIds → s.state.dataSetOfRail? rail = some id := by
    intro rail hrail
    rw [h.owner_iff]
    exact ⟨d, hd, hrail⟩
  constructor
  · intro rail other
    rw [eq, dataSetOfRail?_withoutDataSet, hasRail_withoutDataSet, ← h.owner_iff]
    split
    · rename_i hrail
      simp [howned rail hrail]
    · rename_i hrail
      constructor
      · intro hother
        refine ⟨?_, hother⟩
        rintro rfl
        obtain ⟨d', hd', hmem⟩ := (h.owner_iff rail id).mp hother
        rw [hd, Option.some.injEq] at hd'
        rw [← hd'] at hmem
        exact hrail hmem
      · exact And.right
  · intro rail other hrail
    rw [eq, hasRail_withoutDataSet] at hrail
    exact reaches.isSome_rail? (h.opened rail other hrail.2)

theorem Effect.railsIndexed (heffect : Effect epoch s s') (h : s.RailsIndexed)
    (reaches : s.ledger.Reaches s'.ledger) (numbered : s.ledger.Numbered)
    (numbered' : s'.ledger.Numbered) : s'.RailsIndexed := by
  cases heffect with
  | quiet quiet => exact h.of_same quiet.toSameIndex reaches
  | stepped hp accepted epoch_eq eq =>
    apply h.of_same _ reaches
    rw [eq]
    exact sameIndex_insert_proving
  | created unused newClientId rails eq =>
    -- the numbers of the new rails lie above all that were given before
    have hle : s.ledger.lastRail.toNat ≤ s'.ledger.lastRail.toNat := by
      rw [← numbered.size_eq, ← numbered'.size_eq]
      exact reaches.size_le
    apply h.created unused _ _ reaches eq
    · intro rail hrail
      have hlt := rails.lt hle hrail
      rw [← Option.not_isSome_iff_eq_none, numbered.isSome_rail?_iff]
      omega
    · intro rail hrail
      have hlt := rails.lt hle hrail
      rw [numbered'.isSome_rail?_iff]
      omega
  | deleted hd eq => exact h.deleted hd reaches eq

theorem Reachable.numbered (h : Reachable s) (room : s.ledger.rails.size < UInt64.size) :
    s.ledger.Numbered :=
  h.ledger.numbered room

theorem Reachable.indexed (h : Reachable s) : s.state.Indexed :=
  h.state_preserves (fun _ => indexed_ofConfig) Effect.indexed

theorem Reachable.railsIndexed (h : Reachable s) (room : s.ledger.rails.size < UInt64.size) :
    s.RailsIndexed := by
  induction h with
  | new h =>
    obtain ⟨-, rfl⟩ := new_eq_ok_iff.mp h
    constructor
    · intro rail id
      simp [dataSetOfRail?, HasRail, dataSet?, ofConfig]
    · intro rail id hrail
      simp [HasRail, dataSet?, ofConfig] at hrail
  | call h hcall ih =>
    have reaches := reaches_of_call hcall
    have room' := Nat.lt_of_le_of_lt reaches.size_le room
    exact (effect_of_call hcall).railsIndexed (ih room') reaches (h.numbered room')
      ((h.call hcall).numbered room)
  | operate op h ih =>
    have room' := Nat.lt_of_le_of_lt Ledger.reaches_operate.size_le room
    exact (ih room').of_same Quiet.refl.toSameIndex Ledger.reaches_operate
  | outside providers sessionKeys h ih => exact (ih room).of_same Quiet.refl.toSameIndex .refl
  | takeEvents h ih => exact (ih room).of_same Quiet.refl.toSameIndex .refl

/--
In every service that calls lead to, the indexes of the state agree with its data sets, and two data
sets of one payer have different identifiers. A rail is mapped to the one data set that has it: here
the ledger must hold fewer rails than there are numbers for them. Any ledger does, because it keeps
all its rails, and how many it keeps is itself a number of 64 bits.
-/
theorem Reachable.index_agrees (h : Reachable s) :
    s.state.Indexed ∧
    (∀ id id' d d', s.state.dataSet? id = some d → s.state.dataSet? id' = some d' →
      d.payer = d'.payer → d.clientDataSetId = d'.clientDataSetId → id = id') ∧
    (s.ledger.rails.size < UInt64.size →
      (∀ rail id, s.state.dataSetOfRail? rail = some id ↔ s.state.HasRail id rail) ∧
      ∀ rail id id', s.state.HasRail id rail → s.state.HasRail id' rail → id = id') := by
  have hindexed := h.indexed
  refine ⟨hindexed, ?_, ?_⟩
  · intro id id' d d' hd hd' hpayer hclientId
    have hid := (hindexed.dataSet id d hd).clientId
    have hid' := (hindexed.dataSet id' d' hd').clientId
    rw [hpayer, hclientId, hid', Option.some.injEq] at hid
    exact hid.symm
  · intro room
    have hrails := h.railsIndexed room
    refine ⟨hrails.owner_iff, ?_⟩
    intro rail id id' hrail hrail'
    rw [← hrails.owner_iff] at hrail hrail'
    rw [hrail, Option.some.injEq] at hrail'
    exact hrail'

theorem index_of_createdService :
    ServiceM.createdService.state.dataSetsOf samplePayer = [1] ∧
    ServiceM.createdService.state.dataSetOfRail? 1 = some 1 ∧
    ∃ d, ServiceM.createdService.state.dataSet? 1 = some d ∧ d.payer = samplePayer ∧
      ServiceM.createdService.state.IndexedAt 1 d ∧
      ∀ id, ServiceM.createdService.state.HasRail id 1 ↔ id = 1 := by
  obtain ⟨hindexed, -, hrails⟩ := Reachable.index_agrees reachable_createdService
  obtain ⟨howner, hunique⟩ := hrails (by decide +kernel)
  have hids : ServiceM.createdService.state.dataSetsOf samplePayer = [1] := by
    decide +kernel
  have hrail : ServiceM.createdService.state.dataSetOfRail? 1 = some 1 := by
    decide +kernel
  have hmem : 1 ∈ ServiceM.createdService.state.dataSetsOf samplePayer := by
    rw [hids]
    simp
  obtain ⟨d, hd, hpayer⟩ := (hindexed.mem_dataSetsOf_iff samplePayer 1).mp hmem
  refine ⟨hids, hrail, d, hd, hpayer, hindexed.dataSet 1 d hd, ?_⟩
  intro id
  constructor
  · intro h
    exact hunique 1 id 1 h ((howner 1 1).mp hrail)
  · rintro rfl
    exact (howner 1 1).mp hrail

end Service

end WarmStorage

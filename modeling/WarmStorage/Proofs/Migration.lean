import WarmStorage.Proofs.Service.Contracts
import WarmStorage.Snapshot

/-!
Bringing a state of schema 1 up to date. It fails only over a data set whose provider is not
registered. Otherwise it takes everything over as it stands, but for the numbers of the providers
and a mark of the CDN add-on where only the flag said so. The indexes say of the new data sets what
they said of the old ones.
-/

namespace WarmStorage

open Ledger (bind_eq_ok_iff)

namespace LegacyState

variable {flag : CdnFlag} {providers : ProviderRegistry} {id : DataSetId} {d : Deal} {d' : DataSet}
  {entries : List (DataSetId × Deal)} {m : Std.ExtTreeMap DataSetId DataSet} {e : ServiceError}
  {s : LegacyState} {s' : ServiceState}

/-- The CDN add-on is taken, and the metadata would have to say so but does not. -/
def LacksMark (flag : CdnFlag) (d : Deal) : Prop :=
  flag = .metadataKey ∧ d.withCdn = true ∧ ∀ e ∈ d.metadata, e.key ≠ withCdnKey

structure TakesOver (flag : CdnFlag) (providers : ProviderRegistry) (d : Deal) (d' : DataSet) :
    Prop where
  toDeal_eq : d'.toDeal = { d with metadata := d'.metadata }
  providerId : providers.id? d.serviceProvider = some d'.providerId
  marked : LacksMark flag d → d'.metadata = d.metadata ++ [⟨withCdnKey, ""⟩]
  unmarked : ¬ LacksMark flag d → d'.metadata = d.metadata

theorem lacksMark_iff :
    (flag = .metadataKey && d.withCdn && !d.metadata.hasKey withCdnKey) = true ↔
      LacksMark flag d := by
  simp [LacksMark, Metadata.hasKey, and_assoc]

theorem markCdn_of_lacksMark (h : LacksMark flag d) :
    markCdn flag d = d.metadata ++ [⟨withCdnKey, ""⟩] := by
  rw [markCdn, if_pos (lacksMark_iff.mpr h)]

theorem markCdn_of_not_lacksMark (h : ¬ LacksMark flag d) : markCdn flag d = d.metadata := by
  rw [markCdn, if_neg (mt lacksMark_iff.mp h)]

theorem takesOver_of_migrateDataSet (h : migrateDataSet flag providers id d = .ok d') :
    TakesOver flag providers d d' := by
  unfold migrateDataSet at h
  split at h
  · contradiction
  · rename_i provider hprovider
    cases h
    exact ⟨rfl, hprovider, markCdn_of_lacksMark, markCdn_of_not_lacksMark⟩

theorem exists_migrateDataSet (flag : CdnFlag) (id : DataSetId)
    (h : (providers.id? d.serviceProvider).isSome = true) :
    ∃ d', migrateDataSet flag providers id d = .ok d' := by
  obtain ⟨provider, hprovider⟩ := Option.isSome_iff_exists.mp h
  rw [migrateDataSet, hprovider]
  exact ⟨_, rfl⟩

theorem migrateDataSet_of_unknown (h : providers.id? d.serviceProvider = none) :
    migrateDataSet flag providers id d =
      .error (.migrationUnknownProvider id d.serviceProvider) := by
  rw [migrateDataSet, h]

def firstUnknown? (providers : ProviderRegistry) (entries : List (DataSetId × Deal)) :
    Option (DataSetId × Deal) :=
  entries.find? fun p => (providers.id? p.2.serviceProvider).isNone

theorem exists_migrateDataSets (flag : CdnFlag) (h : firstUnknown? providers entries = none) :
    ∃ m, migrateDataSets flag providers entries = .ok m := by
  induction entries with
  | nil => exact ⟨∅, rfl⟩
  | cons p entries ih =>
    obtain ⟨id, d⟩ := p
    rw [firstUnknown?, List.find?_cons] at h
    split at h
    · contradiction
    · rename_i hknown
      obtain ⟨d', hd'⟩ := exists_migrateDataSet flag id
        (Option.isNone_eq_false_iff.mp hknown)
      obtain ⟨m, hm⟩ := ih h
      exact ⟨_, bind_eq_ok_iff.mpr ⟨d', hd', bind_eq_ok_iff.mpr ⟨m, hm, rfl⟩⟩⟩

theorem migrateDataSets_of_firstUnknown? (h : firstUnknown? providers entries = some (id, d)) :
    migrateDataSets flag providers entries =
      .error (.migrationUnknownProvider id d.serviceProvider) := by
  induction entries with
  | nil => contradiction
  | cons p entries ih =>
    obtain ⟨first, d₁⟩ := p
    rw [firstUnknown?, List.find?_cons] at h
    rw [migrateDataSets]
    split at h
    · rename_i hunknown
      cases h
      rw [migrateDataSet_of_unknown (Option.isNone_iff_eq_none.mp hunknown)]
      rfl
    · rename_i hknown
      obtain ⟨d', hd'⟩ := exists_migrateDataSet flag first
        (Option.isNone_eq_false_iff.mp hknown)
      rw [hd', ih h]
      rfl

theorem rel_lookup_migrateDataSets (id : DataSetId)
    (h : migrateDataSets flag providers entries = .ok m) :
    Option.Rel (TakesOver flag providers) (entries.lookup id) m[id]? := by
  induction entries generalizing m with
  | nil =>
    cases h
    rw [Std.ExtTreeMap.getElem?_empty]
    exact .none
  | cons p entries ih =>
    obtain ⟨first, d₁⟩ := p
    obtain ⟨d', hd', h⟩ := bind_eq_ok_iff.mp h
    obtain ⟨rest, hrest, h⟩ := bind_eq_ok_iff.mp h
    cases h
    rw [List.lookup_cons, Std.ExtTreeMap.getElem?_insert]
    simp only [Std.compare_eq_iff_eq]
    by_cases heq : first = id
    · subst heq
      rw [beq_self_eq_true, if_pos rfl]
      exact .some (takesOver_of_migrateDataSet hd')
    · rw [beq_false_of_ne (Ne.symm heq), if_neg heq]
      exact ih hrest

theorem firstUnknown?_le (ordered : entries.Pairwise fun p q => p.1 < q.1)
    (h : firstUnknown? providers entries = some (id, d)) :
    (id, d) ∈ entries ∧ providers.id? d.serviceProvider = none ∧
      ∀ p ∈ entries, providers.id? p.2.serviceProvider = none → id ≤ p.1 := by
  obtain ⟨hnone, front, back, rfl, hfront⟩ := List.find?_eq_some_iff_append.mp h
  refine ⟨by simp, Option.isNone_iff_eq_none.mp hnone, ?_⟩
  intro p hp hunknown
  rw [List.mem_append, List.mem_cons] at hp
  obtain hp | rfl | hp := hp
  · have hknown := hfront p hp
    rw [hunknown] at hknown
    contradiction
  · exact UInt64.le_refl _
  · have hlt := (List.pairwise_cons.mp (List.pairwise_append.mp ordered).2.1).1 p hp
    exact UInt64.le_of_lt hlt

theorem lookup_toList {deals : Std.ExtTreeMap DataSetId Deal} :
    deals.toList.lookup id = deals[id]? := by
  apply Option.ext
  intro d
  rw [← Std.ExtTreeMap.mem_toList_iff_getElem?_eq_some, List.lookup_eq_some_iff]
  constructor
  · rintro ⟨front, back, heq, -⟩
    rw [heq]
    simp
  · intro h
    obtain ⟨front, back, heq⟩ := List.append_of_mem h
    refine ⟨front, back, heq, fun p hp => ?_⟩
    have distinct := deals.distinct_keys_toList
    rw [heq, List.pairwise_append] at distinct
    have hne := distinct.2.2 p hp (id, d) List.mem_cons_self
    rw [Std.compare_eq_iff_eq] at hne
    exact bne_iff_ne.mpr (Ne.symm hne)

/-- The data set that stands in the way: of those with unregistered providers the first one. -/
structure Blocks (s : LegacyState) (providers : ProviderRegistry) (id : DataSetId) (d : Deal) :
    Prop where
  kept : s.dataSets[id]? = some d
  unknown : providers.id? d.serviceProvider = none
  first : ∀ (id' : DataSetId) (d' : Deal), s.dataSets[id']? = some d' →
    providers.id? d'.serviceProvider = none → id ≤ id'

structure MigratesTo (s : LegacyState) (providers : ProviderRegistry) (s' : ServiceState) :
    Prop where
  records : s'.toRecords = s.toRecords
  dataSets : ∀ id, Option.Rel (TakesOver s.config.versioning.cdnFlag providers)
    s.dataSets[id]? (s'.dataSet? id)
  approved : ∀ provider, provider ∈ s'.approvedProviders ↔
    ∃ a ∈ s.approvedProviders, providers.id? a = some provider

theorem blocks_of_firstUnknown? (h : firstUnknown? providers s.dataSets.toList = some (id, d)) :
    s.Blocks providers id d := by
  have ordered : s.dataSets.toList.Pairwise fun p q => p.1 < q.1 :=
    s.dataSets.ordered_keys_toList.imp Std.compare_eq_lt.mp
  obtain ⟨hmem, hunknown, hle⟩ := firstUnknown?_le ordered h
  refine ⟨Std.ExtTreeMap.mem_toList_iff_getElem?_eq_some.mp hmem, hunknown, ?_⟩
  intro id' d' hd'
  exact hle (id', d') (Std.ExtTreeMap.mem_toList_iff_getElem?_eq_some.mpr hd')

theorem Blocks.firstUnknown? (h : s.Blocks providers id d) :
    firstUnknown? providers s.dataSets.toList = some (id, d) := by
  cases hfirst : LegacyState.firstUnknown? providers s.dataSets.toList with
  | none =>
    have hmem := Std.ExtTreeMap.mem_toList_iff_getElem?_eq_some.mpr h.kept
    have hknown := List.find?_eq_none.mp hfirst _ hmem
    rw [h.unknown] at hknown
    contradiction
  | some p =>
    obtain ⟨id', d'⟩ := p
    have h' := blocks_of_firstUnknown? hfirst
    obtain rfl : id' = id :=
      UInt64.le_antisymm (h'.first id d h.kept h.unknown) (h.first id' d' h'.kept h'.unknown)
    rw [Option.some.inj (h'.kept.symm.trans h.kept)]

theorem firstUnknown?_eq_none_iff : firstUnknown? providers s.dataSets.toList = none ↔
    ∀ (id : DataSetId) (d : Deal), s.dataSets[id]? = some d →
      (providers.id? d.serviceProvider).isSome = true := by
  rw [firstUnknown?, List.find?_eq_none]
  constructor
  · intro h id d hd
    have hknown := h (id, d) (Std.ExtTreeMap.mem_toList_iff_getElem?_eq_some.mpr hd)
    exact Option.isNone_eq_false_iff.mp (Bool.not_eq_true _ ▸ hknown)
  · rintro h ⟨id, d⟩ hp
    have hknown := h id d (Std.ExtTreeMap.mem_toList_iff_getElem?_eq_some.mp hp)
    rw [Option.isNone_iff_eq_none]
    exact Option.isSome_iff_ne_none.mp hknown

theorem migrate_of_firstUnknown? (h : firstUnknown? providers s.dataSets.toList = some (id, d)) :
    s.migrate providers = .error (.migrationUnknownProvider id d.serviceProvider) := by
  rw [migrate, migrateDataSets_of_firstUnknown? h]
  rfl

theorem exists_migrate_iff : (∃ s', s.migrate providers = .ok s') ↔
    firstUnknown? providers s.dataSets.toList = none := by
  constructor
  · rintro ⟨s', h⟩
    cases hfirst : firstUnknown? providers s.dataSets.toList with
    | none => rfl
    | some p =>
      rw [migrate_of_firstUnknown? hfirst] at h
      contradiction
  · intro h
    obtain ⟨m, hm⟩ := exists_migrateDataSets s.config.versioning.cdnFlag h
    exact ⟨_, bind_eq_ok_iff.mpr ⟨m, hm, rfl⟩⟩

theorem migrate_eq_error_iff : s.migrate providers = .error e ↔
    ∃ id d, s.Blocks providers id d ∧ e = .migrationUnknownProvider id d.serviceProvider := by
  constructor
  · intro h
    cases hfirst : firstUnknown? providers s.dataSets.toList with
    | none =>
      obtain ⟨s', hs'⟩ := exists_migrate_iff.mpr hfirst
      rw [hs'] at h
      contradiction
    | some p =>
      obtain ⟨id, d⟩ := p
      rw [migrate_of_firstUnknown? hfirst] at h
      exact ⟨id, d, blocks_of_firstUnknown? hfirst, Except.error.inj h.symm⟩
  · rintro ⟨id, d, hblocks, rfl⟩
    exact migrate_of_firstUnknown? hblocks.firstUnknown?

theorem migratesTo_of_migrate (h : s.migrate providers = .ok s') : s.MigratesTo providers s' := by
  obtain ⟨m, hm, h⟩ := bind_eq_ok_iff.mp h
  cases h
  refine ⟨rfl, fun id => ?_, fun provider => ?_⟩
  · have hrel := rel_lookup_migrateDataSets id hm
    rwa [lookup_toList] at hrel
  · rw [← Std.ExtTreeSet.insertMany_list_eq_foldl, Std.ExtTreeSet.mem_insertMany_list]
    simp

end LegacyState

structure Records.IndexesAt (r : Records) (id : DataSetId) (d : Deal) : Prop where
  id_eq : d.id = id
  clientId : r.replay.dataSet? d.payer d.clientDataSetId = some id
  egress : d.cacheMissRail.isSome = d.cdnRail.isSome
  distinct : d.railIds.Nodup

structure Records.Indexes (r : Records) (deal? : DataSetId → Option Deal) : Prop where
  deal : ∀ id d, deal? id = some d → r.IndexesAt id d
  proving : ∀ id, (r.proving[id]?).isSome = (deal? id).isSome
  railOwners : ∀ (rail : RailId) id, r.railOwners[rail]? = some id ↔
    ∃ d, deal? id = some d ∧ rail ∈ d.railIds
  payerDataSets : ∀ payer id, id ∈ r.payerDataSets.getD payer [] ↔
    ∃ d, deal? id = some d ∧ d.payer = payer
  nodup : ∀ payer, (r.payerDataSets.getD payer []).Nodup
  nonempty : ∀ payer : Address, r.payerDataSets[payer]? ≠ some []

def Deal.SameTerms (d d' : Deal) : Prop :=
  ∃ entries, d' = { d with metadata := entries }

theorem Deal.SameTerms.cases {x x' : Option Deal} (h : Option.Rel Deal.SameTerms x x') :
    x = none ∧ x' = none ∨ ∃ d entries, x = some d ∧ x' = some { d with metadata := entries } := by
  cases h with
  | none => exact .inl ⟨rfl, rfl⟩
  | some h =>
    obtain ⟨entries, rfl⟩ := h
    exact .inr ⟨_, entries, rfl, rfl⟩

theorem Records.Indexes.of_sameTerms {r : Records} {deal? deal'? : DataSetId → Option Deal}
    (h : r.Indexes deal?) (same : ∀ id, Option.Rel Deal.SameTerms (deal? id) (deal'? id)) :
    r.Indexes deal'? := by
  have exists_iff {id} {p : Deal → Prop}
      (hp : ∀ d entries, p { d with metadata := entries } ↔ p d) :
      (∃ d, deal? id = some d ∧ p d) ↔ ∃ d, deal'? id = some d ∧ p d := by
    obtain ⟨hnone, hnone'⟩ | ⟨d, entries, hd, hd'⟩ := Deal.SameTerms.cases (same id)
    · simp [hnone, hnone']
    · simp [hd, hd', hp]
  refine ⟨?_, ?_, ?_, ?_, h.nodup, h.nonempty⟩
  · intro id d' heq
    obtain ⟨-, hnone⟩ | ⟨d, entries, hd, hd'⟩ := Deal.SameTerms.cases (same id)
    · rw [hnone] at heq
      contradiction
    · obtain rfl := Option.some.inj (hd'.symm.trans heq)
      obtain ⟨hid, hclientId, hegress, hdistinct⟩ := h.deal id d hd
      exact ⟨hid, hclientId, hegress, hdistinct⟩
  · intro id
    apply (h.proving id).trans
    obtain ⟨hnone, hnone'⟩ | ⟨d, entries, hd, hd'⟩ := Deal.SameTerms.cases (same id)
    · rw [hnone, hnone']
    · rw [hd, hd', Option.isSome_some, Option.isSome_some]
  · exact fun rail id => (h.railOwners rail id).trans (exists_iff fun _ _ => Iff.rfl)
  · exact fun payer id => (h.payerDataSets payer id).trans (exists_iff fun _ _ => Iff.rfl)

namespace ServiceState

def deal? (s : ServiceState) (id : DataSetId) : Option Deal :=
  (s.dataSet? id).map (·.toDeal)

theorem exists_deal?_iff {s : ServiceState} {id : DataSetId} (p : Deal → Prop) :
    (∃ d, s.deal? id = some d ∧ p d) ↔ ∃ d, s.dataSet? id = some d ∧ p d.toDeal := by
  simp [deal?]

theorem indexesAt_iff {s : ServiceState} {id : DataSetId} {d : DataSet} :
    s.IndexesAt id d.toDeal ↔ s.IndexedAt id d :=
  ⟨fun h => ⟨h.id_eq, h.clientId, h.egress, h.distinct⟩,
    fun h => ⟨h.id_eq, h.clientId, h.egress, h.distinct⟩⟩

theorem indexes_iff {s : ServiceState} : s.Indexes s.deal? ↔
    s.Indexed ∧ ∀ rail id, s.dataSetOfRail? rail = some id ↔ s.HasRail id rail := by
  have hproving id : (s.deal? id).isSome = (s.dataSet? id).isSome := Option.isSome_map
  constructor
  · intro h
    refine ⟨⟨?_, ?_, ?_, h.nodup, h.nonempty⟩, ?_⟩
    · intro id d hd
      refine indexesAt_iff.mp (h.deal id d.toDeal ?_)
      rw [deal?, hd, Option.map_some]
    · exact fun id => (h.proving id).trans (hproving id)
    · exact fun payer id => (h.payerDataSets payer id).trans (exists_deal?_iff (·.payer = payer))
    · exact fun rail id => (h.railOwners rail id).trans (exists_deal?_iff (rail ∈ ·.railIds))
  · rintro ⟨h, howner⟩
    refine ⟨?_, ?_, ?_, ?_, h.nodup, h.nonempty⟩
    · intro id d hd
      obtain ⟨d', hd', rfl⟩ := Option.map_eq_some_iff.mp hd
      exact indexesAt_iff.mpr (h.dataSet id d' hd')
    · exact fun id => (h.proving id).trans (hproving id).symm
    · exact fun rail id => (howner rail id).trans (exists_deal?_iff (rail ∈ ·.railIds)).symm
    · exact fun payer id =>
        (h.mem_dataSetsOf_iff payer id).trans (exists_deal?_iff (·.payer = payer)).symm

end ServiceState

namespace LegacyState

variable {s : LegacyState} {providers : ProviderRegistry} {s' : ServiceState}

def Indexed (s : LegacyState) : Prop :=
  s.Indexes (s.dataSets[·]?)

theorem MigratesTo.dataSet {id : DataSetId} {d : Deal} (h : s.MigratesTo providers s')
    (hd : s.dataSets[id]? = some d) :
    ∃ d', s'.dataSet? id = some d' ∧ TakesOver s.config.versioning.cdnFlag providers d d' := by
  have hrel := h.dataSets id
  rw [hd] at hrel
  generalize s'.dataSet? id = x' at hrel
  cases hrel with
  | some h => exact ⟨_, rfl, h⟩

theorem MigratesTo.sameTerms (h : s.MigratesTo providers s') (id : DataSetId) :
    Option.Rel Deal.SameTerms s.dataSets[id]? (s'.deal? id) := by
  have hrel := h.dataSets id
  rw [ServiceState.deal?]
  generalize s.dataSets[id]? = x at hrel
  generalize s'.dataSet? id = x' at hrel
  cases hrel with
  | none => exact .none
  | some h => exact .some ⟨_, h.toDeal_eq⟩

theorem MigratesTo.indexed (h : s.MigratesTo providers s') (indexed : s.Indexed) :
    s'.Indexed ∧ ∀ rail id, s'.dataSetOfRail? rail = some id ↔ s'.HasRail id rail := by
  apply ServiceState.indexes_iff.mp
  rw [h.records]
  exact Records.Indexes.of_sameTerms indexed h.sameTerms

end LegacyState

/--
A state of schema 1 is brought up to date unless the provider of a data set is not registered; the
first such data set is named then. Nothing is lost and nothing is invented: records are taken over
as they stand, data sets under their numbers, with the numbers of their providers, and approvals of
registered providers. What the indexes said of the old data sets they say of the new ones.
-/
theorem Snapshot.intoState_legacy (s : LegacyState) (providers : ProviderRegistry) :
    ((∃ s', (legacy s).intoState providers = .ok s') ↔
      ∀ (id : DataSetId) (d : Deal), s.dataSets[id]? = some d →
        (providers.id? d.serviceProvider).isSome = true) ∧
    (∀ e, (legacy s).intoState providers = .error e ↔
      ∃ id d, s.Blocks providers id d ∧ e = .migrationUnknownProvider id d.serviceProvider) ∧
    ∀ s', (legacy s).intoState providers = .ok s' →
      s.MigratesTo providers s' ∧
      (s.Indexed →
        s'.Indexed ∧ ∀ rail id, s'.dataSetOfRail? rail = some id ↔ s'.HasRail id rail) := by
  refine ⟨LegacyState.exists_migrate_iff.trans LegacyState.firstUnknown?_eq_none_iff,
    fun e => LegacyState.migrate_eq_error_iff, ?_⟩
  intro s' h
  have hmigrates := LegacyState.migratesTo_of_migrate h
  exact ⟨hmigrates, hmigrates.indexed⟩

/-! A state of schema 1 in which a data set takes the CDN add-on without a mark of it. -/

namespace LegacyState

open Service (cdnService reachable_cdnService)
open ServiceM (sampleConfig)

def unmarkedState : LegacyState where
  toRecords := { cdnService.state.toRecords with config := sampleConfig }
  dataSets := cdnService.state.dataSets.map fun _ d => d.toDeal
  approvedProviders := (∅ : Std.ExtTreeSet Address).insert 7 |>.insert 9

theorem indexed_unmarkedState : unmarkedState.Indexed := by
  have howner := (reachable_cdnService.railsIndexed (by decide +kernel)).owner_iff
  obtain ⟨hdeal, hproving, hrails, hpayers, hnodup, hnonempty⟩ :=
    ServiceState.indexes_iff.mpr ⟨reachable_cdnService.indexed, howner⟩
  have hdeals (id : DataSetId) : unmarkedState.dataSets[id]? = cdnService.state.deal? id :=
    Std.ExtTreeMap.getElem?_map
  rw [Indexed, funext hdeals]
  refine ⟨fun id d hd => ?_, hproving, hrails, hpayers, hnodup, hnonempty⟩
  obtain ⟨hid, hclientId, hegress, hdistinct⟩ := hdeal id d hd
  exact ⟨hid, hclientId, hegress, hdistinct⟩

theorem intoState_unmarkedState :
    (∃ s', (Snapshot.legacy unmarkedState).intoState cdnService.providers = .ok s' ∧
      s'.railOwners = unmarkedState.railOwners ∧ s'.Indexed ∧ 1 ∈ s'.approvedProviders ∧
      ∃ d', s'.dataSet? 1 = some d' ∧ d'.providerId = 1 ∧ d'.metadata = [⟨withCdnKey, ""⟩]) ∧
    (Snapshot.legacy unmarkedState).intoState .empty = .error (.migrationUnknownProvider 1 7) := by
  have hkept : unmarkedState.dataSets[(1 : DataSetId)]?.map
      (fun d => (d.serviceProvider, d.withCdn, d.metadata)) = some (7, true, []) := by
    decide +kernel
  obtain ⟨d, hd, hterms⟩ := Option.map_eq_some_iff.mp hkept
  simp only [Prod.mk.injEq] at hterms
  obtain ⟨hprovider, hcdn, hmetadata⟩ := hterms
  have hid : cdnService.providers.id? 7 = some 1 := by
    decide +kernel
  have hknown : (firstUnknown? cdnService.providers unmarkedState.dataSets.toList).isNone := by
    decide +kernel
  have hunknown : (firstUnknown? .empty unmarkedState.dataSets.toList).map Prod.fst = some 1 := by
    decide +kernel
  have lacks : LacksMark unmarkedState.config.versioning.cdnFlag d := by
    refine ⟨rfl, hcdn, ?_⟩
    simp [hmetadata]
  constructor
  · obtain ⟨hok, -, hmigrated⟩ := Snapshot.intoState_legacy unmarkedState cdnService.providers
    obtain ⟨s', hs'⟩ := hok.mpr (firstUnknown?_eq_none_iff.mp (Option.isNone_iff_eq_none.mp hknown))
    obtain ⟨hmigrates, hindexed⟩ := hmigrated s' hs'
    refine ⟨s', hs', ?_, (hindexed indexed_unmarkedState).1,
      (hmigrates.approved 1).mpr ⟨7, ?_, hid⟩, ?_⟩
    · rw [hmigrates.records]
    · decide +kernel
    · obtain ⟨d', hd', htakes⟩ := hmigrates.dataSet hd
      refine ⟨d', hd', ?_, ?_⟩
      · exact Option.some.inj (htakes.providerId.symm.trans (hprovider ▸ hid))
      · rw [htakes.marked lacks, hmetadata, List.nil_append]
  · obtain ⟨-, herror, -⟩ := Snapshot.intoState_legacy unmarkedState .empty
    obtain ⟨p, hp, hfirst⟩ := Option.map_eq_some_iff.mp hunknown
    obtain ⟨id, d₁⟩ := p
    cases hfirst
    have hblocks := blocks_of_firstUnknown? hp
    obtain rfl := Option.some.inj (hd.symm.trans hblocks.kept)
    rw [← hprovider]
    exact (herror _).mpr ⟨1, d, hblocks, rfl⟩

end LegacyState

end WarmStorage

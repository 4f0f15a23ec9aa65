import WarmStorage.Proofs.Metadata
import WarmStorage.Proofs.Migration

/-!
Metadata that a state of schema 1 brings along. It stays within the limits, except that the mark of
the CDN add-on is put at its end without asking whether there is room for one more entry, and
whether keys may be as long as the one of the mark.
-/

namespace WarmStorage

namespace LegacyState

variable {s : LegacyState} {s' : ServiceState} {providers : ProviderRegistry} {id : DataSetId}
  {flag : CdnFlag} {limits : MetadataLimits} {d : Deal} {d' : DataSet} {e : MetadataError}

inductive MarkRefused (limits : MetadataLimits) (d : Deal) : MetadataError → Prop where
  | count (full : limits.dataSetKeys.toNat ≤ d.metadata.length) :
      MarkRefused limits d (.tooManyKeys (d.metadata.length + 1) limits.dataSetKeys)
  | key (room : d.metadata.length < limits.dataSetKeys.toNat)
      (long : limits.keyLength.toNat < withCdnKey.utf8ByteSize) :
      MarkRefused limits d (.keyTooLong withCdnKey.utf8ByteSize limits.keyLength)

theorem checkEntry_mark {seen : List String} (fresh : withCdnKey ∉ seen) :
    limits.checkEntry seen ⟨withCdnKey, ""⟩ =
      if limits.keyLength.toNat < withCdnKey.utf8ByteSize then
        .error (.keyTooLong withCdnKey.utf8ByteSize limits.keyLength)
      else
        .ok () := by
  unfold MetadataLimits.checkEntry
  split
  · rfl
  · rw [if_neg, if_neg]
    · rwa [List.contains_iff_mem]
    · exact Nat.not_lt_zero _

theorem validate_mark (valid : limits.validate d.metadata .dataSet = .ok ())
    (lacks : LacksMark flag d) : limits.validate (d.metadata ++ [⟨withCdnKey, ""⟩]) .dataSet =
      if d.metadata.length < limits.dataSetKeys.toNat then
        if limits.keyLength.toNat < withCdnKey.utf8ByteSize then
          .error (.keyTooLong withCdnKey.utf8ByteSize limits.keyLength)
        else
          .ok ()
      else
        .error (.tooManyKeys (d.metadata.length + 1) limits.dataSetKeys) := by
  have fresh : withCdnKey ∉ d.metadata.keys.reverse := by
    rw [List.mem_reverse, Metadata.keys, List.mem_map]
    rintro ⟨entry, hentry, hkey⟩
    exact lacks.2.2 entry hentry hkey
  rw [MetadataLimits.validate_concat valid, checkEntry_mark fresh]
  rfl

theorem validate_mark_eq_ok_iff (valid : limits.validate d.metadata .dataSet = .ok ())
    (lacks : LacksMark flag d) :
    limits.validate (d.metadata ++ [⟨withCdnKey, ""⟩]) .dataSet = .ok () ↔
      d.metadata.length < limits.dataSetKeys.toNat ∧
        withCdnKey.utf8ByteSize ≤ limits.keyLength.toNat := by
  rw [validate_mark valid lacks, ← Nat.not_lt (a := limits.keyLength.toNat)]
  split
  · rename_i hroom
    split
    · rename_i hlong
      simp [hlong]
    · rename_i hshort
      simp [hroom, hshort]
  · rename_i hfull
    simp [hfull]

theorem validate_mark_eq_error_iff (valid : limits.validate d.metadata .dataSet = .ok ())
    (lacks : LacksMark flag d) :
    limits.validate (d.metadata ++ [⟨withCdnKey, ""⟩]) .dataSet = .error e ↔
      MarkRefused limits d e := by
  rw [validate_mark valid lacks]
  constructor
  · intro h
    split at h
    · rename_i hroom
      split at h
      · rename_i hlong
        cases h
        exact .key hroom hlong
      · contradiction
    · rename_i hfull
      cases h
      exact .count (Nat.le_of_not_lt hfull)
  · intro h
    cases h with
    | count full => rw [if_neg (Nat.not_lt.mpr full)]
    | key room long => rw [if_pos room, if_pos long]

theorem MigratesTo.exists_deal (h : s.MigratesTo providers s') (hd' : s'.dataSet? id = some d') :
    ∃ d, s.dataSets[id]? = some d ∧ TakesOver s.config.versioning.cdnFlag providers d d' := by
  have hrel := h.dataSets id
  rw [hd'] at hrel
  generalize s.dataSets[id]? = x at hrel
  cases hrel with
  | some h => exact ⟨_, rfl, h⟩

end LegacyState

open LegacyState

/--
If the metadata of all data sets in a state of schema 1 is within the limits, then that of a data
set that is brought up to date is so too, unless the mark of the CDN add-on was put to it for want
of one: then there has to be room for one more entry, and the key of the mark must not be too long.
-/
theorem Snapshot.validate_metadata_of_intoState {s : LegacyState} {s' : ServiceState}
    {providers : ProviderRegistry} {id : DataSetId} {d' : DataSet}
    (h : (Snapshot.legacy s).intoState providers = .ok s')
    (valid : ∀ (id : DataSetId) (d : Deal), s.dataSets[id]? = some d →
      s.config.metadata.validate d.metadata .dataSet = .ok ())
    (hd' : s'.dataSet? id = some d') :
    ∃ d, s.dataSets[id]? = some d ∧ s'.config.metadata = s.config.metadata ∧
      (s'.config.metadata.validate d'.metadata .dataSet = .ok () ↔
        (LacksMark s.config.versioning.cdnFlag d →
          d.metadata.length < s.config.metadata.dataSetKeys.toNat ∧
            withCdnKey.utf8ByteSize ≤ s.config.metadata.keyLength.toNat)) ∧
      ∀ e, s'.config.metadata.validate d'.metadata .dataSet = .error e ↔
        LacksMark s.config.versioning.cdnFlag d ∧ MarkRefused s.config.metadata d e := by
  have hmigrates := migratesTo_of_migrate h
  obtain ⟨d, hd, htakes⟩ := hmigrates.exists_deal hd'
  have hvalid := valid id d hd
  have hlimits : s'.config.metadata = s.config.metadata := by
    rw [hmigrates.records]
  rw [hlimits]
  refine ⟨d, hd, rfl, ?_⟩
  -- only metadata that gets the mark can exceed a limit
  by_cases lacks : LacksMark s.config.versioning.cdnFlag d
  · rw [htakes.marked lacks, validate_mark_eq_ok_iff hvalid lacks]
    refine ⟨⟨fun h _ => h, fun h => h lacks⟩, fun e => ?_⟩
    rw [validate_mark_eq_error_iff hvalid lacks, and_iff_right lacks]
  · rw [htakes.unmarked lacks, hvalid]
    simp [lacks]

namespace LegacyState

open Service (cdnService)
open ServiceM (sampleConfig)

/-- A data set that takes the CDN add-on without a mark, where one entry is all there may be. -/
def limitedState (entries : Metadata) : LegacyState where
  toRecords := { unmarkedState.toRecords with
    config := { sampleConfig with metadata := { dataSetKeys := 1 } } }
  dataSets := unmarkedState.dataSets.map fun _ d => { d with metadata := entries }
  approvedProviders := unmarkedState.approvedProviders

variable {entries : Metadata}

theorem getElem?_limitedState (id : DataSetId) : (limitedState entries).dataSets[id]? =
    unmarkedState.dataSets[id]?.map fun d => { d with metadata := entries } :=
  Std.ExtTreeMap.getElem?_map

theorem validate_limitedState
    (valid : ({ dataSetKeys := 1 } : MetadataLimits).validate entries .dataSet = .ok ())
    (id : DataSetId) (d : Deal) (hd : (limitedState entries).dataSets[id]? = some d) :
    (limitedState entries).config.metadata.validate d.metadata .dataSet = .ok () := by
  rw [getElem?_limitedState] at hd
  obtain ⟨d₁, -, rfl⟩ := Option.map_eq_some_iff.mp hd
  exact valid

theorem exists_intoState_limitedState (entries : Metadata) (fresh : withCdnKey ∉ entries.keys) :
    ∃ s' d d', (Snapshot.legacy (limitedState entries)).intoState cdnService.providers = .ok s' ∧
      (limitedState entries).dataSets[(1 : DataSetId)]? = some d ∧ d.metadata = entries ∧
      LacksMark (limitedState entries).config.versioning.cdnFlag d ∧ s'.dataSet? 1 = some d' ∧
      s'.config.metadata = { dataSetKeys := 1 } ∧
      d'.metadata = entries ++ [⟨withCdnKey, ""⟩] := by
  have hkept : unmarkedState.dataSets[(1 : DataSetId)]?.map (·.withCdn) = some true := by
    decide +kernel
  obtain ⟨d, hd, hcdn⟩ := Option.map_eq_some_iff.mp hkept
  have hd₁ : (limitedState entries).dataSets[(1 : DataSetId)]? =
      some { d with metadata := entries } := by
    rw [getElem?_limitedState, hd, Option.map_some]
  have hknown : (firstUnknown? cdnService.providers unmarkedState.dataSets.toList).isNone := by
    decide +kernel
  have hok : ∃ s', (limitedState entries).migrate cdnService.providers = .ok s' := by
    rw [exists_migrate_iff, firstUnknown?_eq_none_iff]
    intro id d hd
    rw [getElem?_limitedState] at hd
    obtain ⟨d₁, hd₁, rfl⟩ := Option.map_eq_some_iff.mp hd
    exact firstUnknown?_eq_none_iff.mp (Option.isNone_iff_eq_none.mp hknown) id d₁ hd₁
  obtain ⟨s', hs'⟩ := hok
  have hmigrates := migratesTo_of_migrate hs'
  obtain ⟨d', hd', htakes⟩ := hmigrates.dataSet hd₁
  have lacks : LacksMark (limitedState entries).config.versioning.cdnFlag
      { d with metadata := entries } := by
    refine ⟨rfl, hcdn, fun e he heq => ?_⟩
    exact fresh (List.mem_map.mpr ⟨e, he, heq⟩)
  refine ⟨s', _, d', hs', hd₁, rfl, lacks, hd', ?_, htakes.marked lacks⟩
  rw [hmigrates.records]
  rfl

/-- The metadata was within its limits, and is not any more. -/
theorem mark_exceeds_limits :
    (limitedState [⟨"region", "eu"⟩]).config.validate = .ok () ∧
    (∀ (id : DataSetId) (d : Deal), (limitedState [⟨"region", "eu"⟩]).dataSets[id]? = some d →
      (limitedState [⟨"region", "eu"⟩]).config.metadata.validate d.metadata .dataSet = .ok ()) ∧
    ∃ s' d', (Snapshot.legacy (limitedState [⟨"region", "eu"⟩])).intoState cdnService.providers =
        .ok s' ∧ s'.dataSet? 1 = some d' ∧
      s'.config.metadata.validate d'.metadata .dataSet = .error (.tooManyKeys 2 1) := by
  refine ⟨rfl, validate_limitedState (by decide +kernel), ?_⟩
  obtain ⟨s', d, d', hs', -, -, -, hd', hlimits, hmetadata⟩ :=
    exists_intoState_limitedState [⟨"region", "eu"⟩] (by decide +kernel)
  refine ⟨s', d', hs', hd', ?_⟩
  rw [hlimits, hmetadata]
  decide +kernel

theorem validate_metadata_of_limitedState :
    ∃ s' d d', (Snapshot.legacy (limitedState [])).intoState cdnService.providers = .ok s' ∧
      (limitedState []).dataSets[(1 : DataSetId)]? = some d ∧
      LacksMark (limitedState []).config.versioning.cdnFlag d ∧ s'.dataSet? 1 = some d' ∧
      s'.config.metadata.validate d'.metadata .dataSet = .ok () := by
  obtain ⟨s', d, d', hs', hd, hentries, lacks, hd', -, -⟩ :=
    exists_intoState_limitedState [] List.not_mem_nil
  obtain ⟨d₁, hd₁, -, hvalid, -⟩ := Snapshot.validate_metadata_of_intoState hs'
    (validate_limitedState rfl) hd'
  cases hd.symm.trans hd₁
  refine ⟨s', d, d', hs', hd, lacks, hd', hvalid.mpr fun _ => ?_⟩
  rw [hentries]
  decide +kernel

end LegacyState

end WarmStorage

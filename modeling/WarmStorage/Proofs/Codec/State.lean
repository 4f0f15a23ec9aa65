import WarmStorage.Proofs.Codec.Record
import WarmStorage.Codec.State

/-!
Every part of the state is read back from the text it is written as.
-/

namespace WarmStorage

open Record (bind_fields? readsBack_ofFields)

namespace LawfulCodec

instance : LawfulCodec ProvingParams where
  readsBack_encode x := by
    apply readsBack_ofFields
    simp [readsBack_encode]
  decode?_encode x := by
    apply bind_fields? (by decide) rfl
    simp

instance : LawfulCodec Pricing where
  readsBack_encode x := by
    apply readsBack_ofFields
    simp [readsBack_encode]
  decode?_encode x := by
    apply bind_fields? (by decide) rfl
    simp

instance : LawfulCodec MetadataLimits where
  readsBack_encode x := by
    apply readsBack_ofFields
    simp [readsBack_encode]
  decode?_encode x := by
    apply bind_fields? (by decide) rfl
    simp

instance : LawfulCodec CdnFlag where
  readsBack_encode x := by
    cases x
    all_goals exact Json.readsBack_ofString
  decode?_encode x := by
    cases x
    all_goals rfl

instance : LawfulCodec ClientIdScheme where
  readsBack_encode x := by
    cases x
    all_goals exact Json.readsBack_ofString
  decode?_encode x := by
    cases x
    all_goals rfl

instance : LawfulCodec ProviderChangePolicy where
  readsBack_encode x := by
    cases x
    all_goals exact Json.readsBack_ofString
  decode?_encode x := by
    cases x
    all_goals rfl

instance : LawfulCodec Versioning where
  readsBack_encode x := by
    apply readsBack_ofFields
    simp [readsBack_encode]
  decode?_encode x := by
    apply bind_fields? (by decide) rfl
    simp

instance : LawfulCodec SigningDomain where
  readsBack_encode x := by
    apply readsBack_ofFields
    simp [readsBack_encode]
  decode?_encode x := by
    apply bind_fields? (by decide) rfl
    simp

instance : LawfulCodec Config where
  readsBack_encode x := by
    apply readsBack_ofFields
    simp [readsBack_encode]
  decode?_encode x := by
    apply bind_fields? (by decide) rfl
    simp

instance : LawfulCodec MetadataEntry where
  readsBack_encode x := by
    apply readsBack_ofFields
    simp [readsBack_encode]
  decode?_encode x := by
    apply bind_fields? (by decide) rfl
    simp

instance : LawfulCodec NonceUse where
  readsBack_encode x := by
    apply readsBack_ofFields
    simp [readsBack_encode]
  decode?_encode x := by
    apply bind_fields? (by decide) rfl
    simp

instance : LawfulCodec ReplayRegistry where
  readsBack_encode x := by
    apply readsBack_ofFields
    simp [readsBack_encode]
  decode?_encode x := by
    apply bind_fields? (by decide) rfl
    simp

instance : LawfulCodec ProvenPeriods where
  readsBack_encode s := readsBack_encode s.words
  decode?_encode s := by
    have hdecode := decode?_encode s.words
    simp only [Codec.encode, Codec.decode?] at hdecode ⊢
    rw [hdecode, Option.map_some]

instance : LawfulCodec ProvingState where
  readsBack_encode x := by
    apply readsBack_ofFields
    simp [readsBack_encode]
  decode?_encode x := by
    apply bind_fields? (by decide) rfl
    simp

instance : LawfulCodec Deal where
  readsBack_encode x := by
    apply readsBack_ofFields
    simp [readsBack_encode]
  decode?_encode x := by
    apply bind_fields? (by decide) rfl
    simp

instance : LawfulCodec DataSet where
  readsBack_encode x := by
    apply readsBack_ofFields
    simp [readsBack_encode]
  decode?_encode x := by
    apply bind_fields? (by decide) rfl
    simp

end LawfulCodec

variable {r : Records} {dataSets approvedProviders : Json}

theorem readsBack_encodeState (hdataSets : Json.ReadsBack .pretty dataSets)
    (hproviders : Json.ReadsBack .pretty approvedProviders) :
    Json.ReadsBack .pretty (Codec.encodeState r dataSets approvedProviders) := by
  apply readsBack_ofFields
  simp [LawfulCodec.readsBack_encode, hdataSets, hproviders]

theorem decodeState?_encodeState :
    Codec.decodeState? .text (Codec.encodeState r dataSets approvedProviders) =
      some (r, .given dataSets, .given approvedProviders) := by
  unfold Codec.decodeState? Codec.encodeState
  apply bind_fields? (by decide) rfl
  simp

theorem bind_decodeState? {α : Type} {decode? : Records × Field × Field → Option α} {x : α}
    (h : decode? (r, .given dataSets, .given approvedProviders) = some x) :
    (Codec.decodeState? .text (Codec.encodeState r dataSets approvedProviders)).bind decode? =
      some x := by
  rw [decodeState?_encodeState, Option.bind_some, h]

instance : LawfulCodec ServiceState where
  readsBack_encode s :=
    readsBack_encodeState (LawfulCodec.readsBack_encode s.dataSets)
      (LawfulCodec.readsBack_encode s.approvedProviders)
  decode?_encode s := by
    apply bind_decodeState?
    simp

end WarmStorage

import WarmStorage.Proofs.Codec.State
import WarmStorage.Snapshot

/-!
Snapshots are read back from their texts, in either schema. The version is written in front of the
state, so the state is read as it stands. A text that was written otherwise may be read too; what
is read from it is written in one way.
-/

namespace WarmStorage

instance : LawfulCodec LegacyState where
  readsBack_encode s :=
    readsBack_encodeState (LawfulCodec.readsBack_encode s.dataSets)
      (LawfulCodec.readsBack_encode s.approvedProviders)
  decode?_encode s := by
    apply bind_decodeState?
    simp

namespace Snapshot

theorem decode?_ofFields {version : String} {state : Json} :
    decode? (Record.ofFields ["version", "state"] [.ofString version, state]) =
      decodeState? .text version state := by
  have hname : Choice.name? .text (.ofString version) = some version :=
    Literal.text?_ofString version
  rw [decode?, Record.fields?_ofFields (by decide) rfl]
  simp only [List.map_cons, List.map_nil, Option.bind_eq_bind, Option.bind_some, hname]
  rfl

theorem decode?_encode (s : Snapshot) : decode? s.encode = some s := by
  cases s with
  | legacy s =>
    have hversion : (legacy s).encode =
      Record.ofFields ["version", "state"] [.ofString "1", Codec.encode s] := rfl
    rw [hversion, decode?_ofFields, decodeState?, if_pos rfl, LawfulCodec.decode?_encode,
      Option.map_some]
  | current s =>
    have hversion : (current s).encode =
      Record.ofFields ["version", "state"] [.ofString "2", Codec.encode s] := rfl
    rw [hversion, decode?_ofFields, decodeState?, if_neg (by decide), if_pos rfl,
      LawfulCodec.decode?_encode, Option.map_some]

theorem readsBack_encode (s : Snapshot) : Json.ReadsBack .pretty s.encode := by
  cases s with
  | legacy s =>
    have hencode : (legacy s).encode =
      Record.ofFields ["version", "state"] [.ofString "1", Codec.encode s] := rfl
    rw [hencode]
    apply Record.readsBack_ofFields
    simp [Json.readsBack_ofString, LawfulCodec.readsBack_encode]
  | current s =>
    have hencode : (current s).encode =
      Record.ofFields ["version", "state"] [.ofString "2", Codec.encode s] := rfl
    rw [hencode]
    apply Record.readsBack_ofFields
    simp [Json.readsBack_ofString, LawfulCodec.readsBack_encode]

theorem ofText_toText (s : Snapshot) : ofText s.toText = .ok s := by
  rw [ofText, toText, Json.parse?_pretty s.readsBack_encode, Option.bind_some, decode?_encode]

theorem ofText_toText_append (s : Snapshot) {blanks : List Char}
    (hblanks : ∀ c ∈ blanks, Json.isBlank c = true) :
    ofText (s.toText ++ String.ofList blanks) = .ok s := by
  rw [ofText, toText, Json.parse?_pretty_append s.readsBack_encode hblanks, Option.bind_some,
    decode?_encode]

/--
Writing and reading lose nothing, in either schema: a snapshot is read back from its text, and what
was read from a text that somebody else wrote has one text from then on.
-/
theorem text_round_trips :
    (∀ s : Snapshot, Json.parse? s.toText = some s.encode ∧ ofText s.toText = .ok s) ∧
    ∀ (text : String) (s : Snapshot), ofText text = .ok s →
      ofText s.toText = .ok s ∧
      ∀ s', ofText s.toText = .ok s' → s' = s ∧ s'.toText = s.toText := by
  constructor
  · exact fun s => ⟨Json.parse?_pretty s.readsBack_encode, s.ofText_toText⟩
  · intro text s _
    refine ⟨s.ofText_toText, fun s' h => ?_⟩
    obtain rfl : s = s' := Except.ok.inj (s.ofText_toText.symm.trans h)
    exact ⟨rfl, rfl⟩

def sampleDataSet : DataSet where
  id := 1
  payer := 5
  serviceProvider := 7
  payee := 8
  clientDataSetId := 3
  storageRail := 1
  cacheMissRail := some 2
  cdnRail := some 3
  commissionBps := 50
  withCdn := true
  metadata := [⟨withCdnKey, ""⟩, ⟨"région", "eu\n"⟩]
  pieceMetadata := (∅ : Std.ExtTreeMap PieceId Metadata).insert 4 [⟨"name", "\""⟩]
  piecesAdded := 5
  providerId := 1

def sampleProving : ProvingState where
  params := ⟨10, 4⟩
  activation := 10
  deadline := 670
  provenThisPeriod := true
  proven := (ProvenPeriods.empty.insert 0).insert 64

def sampleSnapshot : Snapshot :=
  .current {
    dataSets := (∅ : Std.ExtTreeMap DataSetId DataSet).insert 1 sampleDataSet
    proving := (∅ : Std.ExtTreeMap DataSetId ProvingState).insert 1 sampleProving
    replay := (ReplayRegistry.recordDataSet {} 5 3 1).recordNonce 5 9 ⟨1, 5⟩
    payerDataSets := (∅ : Std.ExtTreeMap Address (List DataSetId)).insert 5 [1]
    railOwners := (((∅ : Std.ExtTreeMap RailId DataSetId).insert 1 1).insert 2 1).insert 3 1
    approvedProviders := (∅ : Std.ExtTreeSet ProviderId).insert 1 }

/-- A line break behind the text, which is not written again. -/
theorem text_round_trips_sampleSnapshot :
    ofText (sampleSnapshot.toText ++ "\n") = .ok sampleSnapshot ∧
    sampleSnapshot.toText ≠ sampleSnapshot.toText ++ "\n" ∧
    ofText sampleSnapshot.toText = .ok sampleSnapshot := by
  have hread : ofText (sampleSnapshot.toText ++ "\n") = .ok sampleSnapshot :=
    sampleSnapshot.ofText_toText_append (List.forall_mem_singleton.mpr rfl)
  refine ⟨hread, fun h => ?_, (text_round_trips.2 _ _ hread).1⟩
  have hlength := congrArg String.length h
  rw [String.length_append] at hlength
  exact absurd (Nat.left_eq_add.mp hlength) (by decide)

end Snapshot

end WarmStorage

import WarmStorage.Proofs.Arbitration
import WarmStorage.Proofs.Proving.Exactness
import WarmStorage.Proofs.Service.Run

/-!
Arbitration by a service that was loaded from a text. Loading checks the configuration only, so
the service may hold any state whose configuration is valid, and what is said here of arbitration
holds in every state.
-/

namespace WarmStorage

variable {p : ProvingState} {s : ServiceState} {rail : RailId} {proposed amount : TokenAmount}
  {after upTo current : Epoch} {o : SettlementOutcome}

theorem provenShare_le {count total : UInt64} (h : provenShare proposed count total = .ok amount)
    (hle : count ≤ total) : amount ≤ proposed := by
  rw [BitVec.le_def, toNat_provenShare h]
  apply Nat.div_le_of_le_mul
  rw [Nat.mul_comm]
  exact Nat.mul_le_mul_right _ (UInt64.le_iff_toNat_le.mp hle)

namespace ProvingState

def exactArbitrate? (s : ProvingState) (proposed : TokenAmount) (after upTo current : Epoch) :
    Option (Except ServiceError SettlementOutcome) :=
  if !s.isActive then some (.ok ⟨0, after, "proving period not yet initialized"⟩)
  else do
    match ← s.exactProvenEpochs? after upTo current with
    | .error e => some (.error (.settlement e))
    | .ok proven =>
      let total ← Word.exactSub? upTo after
      if proven.count = 0 then
        some (.ok ⟨0, proven.settleUpTo, "no proven epochs in the requested range"⟩)
      else
        some do
          let amount ← provenShare proposed proven.count total
          return ⟨amount, proven.settleUpTo, s!"proven epochs: {proven.count} of {total}"⟩

theorem Unperiodic.arbitrate_eq (h : p.Unperiodic upTo current) : ∃ operation,
    p.arbitrate proposed after upTo current = .error (.settlement (.breakdown operation)) := by
  have active := isActive_iff.mpr h.active
  obtain ⟨operation, herror⟩ := h.provenEpochs_eq
  refine ⟨operation, ?_⟩
  rw [arbitrate, active, herror]
  rfl

theorem provenShare_ne_settlement {count total : UInt64} {e : SettlementError} :
    provenShare proposed count total ≠ .error (.settlement e) := by
  unfold provenShare
  split
  · simp
  split
  · simp
  · simp

/-- Arbitration breaks down where periods have no length, and only there. -/
theorem arbitrate_eq_breakdown_iff (hlt : after < upTo) :
    (∃ operation,
      p.arbitrate proposed after upTo current = .error (.settlement (.breakdown operation))) ↔
      p.Unperiodic upTo current := by
  refine ⟨fun ⟨operation, h⟩ => ?_, Unperiodic.arbitrate_eq⟩
  unfold arbitrate at h
  split at h
  · contradiction
  rename_i active
  rw [Bool.not_eq_true, Bool.not_eq_false', isActive_iff] at active
  by_contra hperiodic
  have hcount := provenEpochs_ne_breakdown active hlt hperiodic operation
  split at h
  · rename_i herror
    cases h
    exact hcount herror
  split at h
  · contradiction
  · obtain herror | ⟨amount, -, herror⟩ := Ledger.bind_eq_error_iff.mp h
    · exact provenShare_ne_settlement herror
    · contradiction

theorem exactArbitrate?_eq (hlt : after < upTo) (h : ¬ p.Unperiodic upTo current) :
    p.exactArbitrate? proposed after upTo current =
      some (p.arbitrate proposed after upTo current) := by
  unfold exactArbitrate? arbitrate
  split
  · rfl
  · rename_i active
    rw [Bool.not_eq_true, Bool.not_eq_false', isActive_iff] at active
    rw [exactProvenEpochs?_eq active hlt h, Option.bind_eq_bind, Option.bind_some,
      Word.exactSub?_eq (UInt64.le_of_lt hlt)]
    cases p.provenEpochs after upTo current with
    | error e => rfl
    | ok r =>
      dsimp only [Option.bind_eq_bind, Option.bind_some]
      split
      · rfl
      · rfl

theorem bounds_of_arbitrate (hlt : after < upTo)
    (h : p.arbitrate proposed after upTo current = .ok o) :
    o.amount ≤ proposed ∧ after ≤ o.settleUpTo ∧ o.settleUpTo ≤ upTo := by
  obtain ⟨-, hamount, hsettled⟩ | ⟨active, r, hr, hsettled, hamount⟩ := arbitrate_eq_ok h
  · rw [hamount, hsettled]
    exact ⟨BitVec.le_def.mpr (Nat.zero_le _), UInt64.le_refl _, UInt64.le_of_lt hlt⟩
  · have hrange := inRange_of_provenEpochs active hlt hr
    rw [hsettled]
    refine ⟨?_, hrange.le_settleUpTo, hrange.settleUpTo_le⟩
    obtain ⟨-, hamount⟩ | hamount := hamount
    · rw [hamount, BitVec.le_def]
      exact Nat.zero_le _
    · exact provenShare_le hamount hrange.count_le

end ProvingState

namespace ServiceState

def exactArbitrate? (s : ServiceState) (rail : RailId) (proposed : TokenAmount)
    (after upTo current : Epoch) : Option (Except ServiceError SettlementOutcome) :=
  match s.dataSetOfRail? rail with
  | none => some (.error (.railNotAssociated rail))
  | some id =>
    if upTo ≤ after then some (.error (.invalidEpochRange after upTo))
    else
      match s.dataSet? id with
      | none => some (.error (.dataSetNotFound id))
      | some d =>
        if rail ≠ d.storageRail then some (.ok ⟨proposed, upTo, ""⟩)
        else
          match s.proving? id with
          | none => some (.error (.dataSetNotFound id))
          | some p => p.exactArbitrate? proposed after upTo current

/-- A range of a storage rail past the activation of periods that have no length. -/
def Unperiodic (s : ServiceState) (rail : RailId) (after upTo current : Epoch) : Prop :=
  after < upTo ∧ ∃ p, s.storageProving? rail = some p ∧ p.Unperiodic upTo current

theorem arbitrate_eq (hp : s.storageProving? rail = some p) (hlt : after < upTo) :
    s.arbitrate rail proposed after upTo current = p.arbitrate proposed after upTo current := by
  obtain ⟨id, d, hid, hd, hrail, hproving⟩ := storageProving?_eq_some_iff.mp hp
  unfold arbitrate
  simp only [hid, hd, hproving, if_neg (UInt64.not_le.mpr hlt), if_neg (not_not.mpr hrail)]

theorem exactArbitrate?_of_storageProving? (hp : s.storageProving? rail = some p)
    (hlt : after < upTo) : s.exactArbitrate? rail proposed after upTo current =
      p.exactArbitrate? proposed after upTo current := by
  obtain ⟨id, d, hid, hd, hrail, hproving⟩ := storageProving?_eq_some_iff.mp hp
  unfold exactArbitrate?
  simp only [hid, hd, hproving, if_neg (UInt64.not_le.mpr hlt), if_neg (not_not.mpr hrail)]

theorem arbitrate_of_unproving (proposed : TokenAmount) (current : Epoch)
    (h : ∀ p, s.storageProving? rail = some p → upTo ≤ after) :
    s.exactArbitrate? rail proposed after upTo current =
      some (s.arbitrate rail proposed after upTo current) ∧
    ((∃ e, s.arbitrate rail proposed after upTo current = .error e ∧
        ∀ cause, e ≠ .settlement cause) ∨
      after < upTo ∧
        s.arbitrate rail proposed after upTo current = .ok ⟨proposed, upTo, ""⟩) := by
  unfold exactArbitrate? arbitrate
  cases hid : s.dataSetOfRail? rail with
  | none => simp
  | some id =>
    dsimp only
    split
    · simp
    rename_i hlt
    rw [UInt64.not_le] at hlt
    cases hd : s.dataSet? id with
    | none => simp
    | some d =>
      dsimp only
      split
      · simp [hlt]
      rename_i hrail
      cases hproving : s.proving? id with
      | none => simp
      | some p =>
        have hp := storageProving?_eq_some_iff.mpr ⟨id, d, hid, hd, not_not.mp hrail, hproving⟩
        exact absurd (h p hp) (UInt64.not_le.mpr hlt)

theorem eq_of_arbitrate_of_unproving
    (h : ∀ p, s.storageProving? rail = some p → upTo ≤ after)
    (ho : s.arbitrate rail proposed after upTo current = .ok o) :
    after < upTo ∧ o = ⟨proposed, upTo, ""⟩ := by
  obtain ⟨e, herror, -⟩ | ⟨hlt, hok⟩ := (arbitrate_of_unproving proposed current h).2
  · rw [ho] at herror
    contradiction
  · exact ⟨hlt, Except.ok.inj (ho.symm.trans hok)⟩

theorem proving_or_not (s : ServiceState) (rail : RailId) (after upTo : Epoch) :
    (after < upTo ∧ ∃ p, s.storageProving? rail = some p) ∨
      ∀ p, s.storageProving? rail = some p → upTo ≤ after := by
  by_cases hlt : after < upTo
  · cases hp : s.storageProving? rail with
    | none => exact .inr fun p hp' => nomatch hp'
    | some p => exact .inl ⟨hlt, p, rfl⟩
  · exact .inr fun p _ => UInt64.not_lt.mp hlt

theorem not_unperiodic_of_unproving
    (h : ∀ p, s.storageProving? rail = some p → upTo ≤ after) :
    ¬ s.Unperiodic rail after upTo current := by
  rintro ⟨hlt, p, hp, -⟩
  exact absurd (h p hp) (UInt64.not_le.mpr hlt)

theorem arbitrate_eq_breakdown_iff :
    (∃ operation, s.arbitrate rail proposed after upTo current =
      .error (.settlement (.breakdown operation))) ↔ s.Unperiodic rail after upTo current := by
  obtain ⟨hlt, p, hp⟩ | hunproving := s.proving_or_not rail after upTo
  · rw [arbitrate_eq hp hlt, ProvingState.arbitrate_eq_breakdown_iff hlt]
    simp only [Unperiodic, hp, hlt, Option.some.injEq, exists_eq_left', true_and]
  · refine ⟨fun ⟨operation, h⟩ => ?_, fun h => absurd h (not_unperiodic_of_unproving hunproving)⟩
    obtain ⟨e, herror, hne⟩ | ⟨-, hok⟩ := (arbitrate_of_unproving proposed current hunproving).2
    · rw [h] at herror
      exact absurd (Except.error.inj herror).symm (hne _)
    · rw [h] at hok
      contradiction

theorem exactArbitrate?_eq (h : ¬ s.Unperiodic rail after upTo current) :
    s.exactArbitrate? rail proposed after upTo current =
      some (s.arbitrate rail proposed after upTo current) := by
  obtain ⟨hlt, p, hp⟩ | hunproving := s.proving_or_not rail after upTo
  · rw [exactArbitrate?_of_storageProving? hp hlt, arbitrate_eq hp hlt]
    exact ProvingState.exactArbitrate?_eq hlt fun hunperiodic => h ⟨hlt, p, hp, hunperiodic⟩
  · exact (arbitrate_of_unproving proposed current hunproving).1

theorem bounds_of_arbitrate (h : s.arbitrate rail proposed after upTo current = .ok o) :
    o.amount ≤ proposed ∧ after ≤ o.settleUpTo ∧ o.settleUpTo ≤ upTo := by
  obtain ⟨hlt, p, hp⟩ | hunproving := s.proving_or_not rail after upTo
  · rw [arbitrate_eq hp hlt] at h
    exact ProvingState.bounds_of_arbitrate hlt h
  · obtain ⟨hlt, rfl⟩ := eq_of_arbitrate_of_unproving hunproving h
    exact ⟨BitVec.le_refl _, UInt64.le_of_lt hlt, UInt64.le_refl _⟩

end ServiceState

namespace Service

/--
Arbitration in a service that was loaded breaks down for the storage rail of a data set with
periods of no length when the range ends after the activation, and for no other request. For every
other request no step of it wraps, and what it answers is not more than was proposed and settles
no less than nothing and no more than was asked for.
-/
theorem arbitrate_of_snapshot {text : String} {snapshot : Snapshot} {ledger : Ledger}
    {providers : ProviderRegistry} {sessionKeys : SessionKeys} :
    Snapshot.ofText text = .ok snapshot → ∀ s : Service,
      ofSnapshot snapshot ledger providers sessionKeys = .ok s →
    ∀ rail proposed after upTo current,
      ((∃ operation, s.state.arbitrate rail proposed after upTo current =
          .error (.settlement (.breakdown operation))) ↔
        s.state.Unperiodic rail after upTo current) ∧
      (¬ s.state.Unperiodic rail after upTo current →
        s.state.exactArbitrate? rail proposed after upTo current =
          some (s.state.arbitrate rail proposed after upTo current)) ∧
      ∀ o, s.state.arbitrate rail proposed after upTo current = .ok o →
        o.amount ≤ proposed ∧ after ≤ o.settleUpTo ∧ o.settleUpTo ≤ upTo := by
  intro _ s _ rail proposed after upTo current
  refine ⟨ServiceState.arbitrate_eq_breakdown_iff, ServiceState.exactArbitrate?_eq, ?_⟩
  intro o ho
  exact ServiceState.bounds_of_arbitrate ho

def activatedProving (length : UInt64) : ProvingState where
  params := ⟨length, 4⟩
  activation := 10
  proven := ProvenPeriods.empty.insert 0

def activatedService (length : UInt64) : Service :=
  { ServiceM.createdService with
    state := { ServiceM.createdService.state with
      proving := (∅ : Std.ExtTreeMap DataSetId ProvingState).insert 1 (activatedProving length) }
    events := [] }

theorem ofSnapshot_activatedService (length : UInt64) :
    ofSnapshot (activatedService length).snapshot (activatedService length).ledger
      (activatedService length).providers (activatedService length).sessionKeys =
        .ok (activatedService length) := by
  have hvalid : (activatedService length).state.config.validate = .ok () := by rfl
  exact ofState_eq_ok_iff.mpr ⟨hvalid, rfl⟩

theorem storageProving?_activatedService (length : UInt64) :
    (activatedService length).state.storageProving? 1 = some (activatedProving length) := by
  rw [ServiceState.storageProving?_eq_some_iff]
  refine ⟨1, (ServiceM.createdService.state.dataSet? 1).get (by decide +kernel), ?_, ?_, ?_, ?_⟩
  · show ServiceM.createdService.state.dataSetOfRail? 1 = some 1
    decide +kernel
  · exact (Option.some_get _).symm
  · decide +kernel
  · simp [ServiceState.proving?, activatedService]

theorem unperiodic_activatedService {length : UInt64} {after upTo : Epoch} :
    (activatedService length).state.Unperiodic 1 after upTo upTo ↔
      after < upTo ∧ length = 0 ∧ 10 < upTo := by
  have hactive : (10 : Epoch) ≠ 0 := by decide
  unfold ServiceState.Unperiodic
  rw [storageProving?_activatedService]
  simp only [Option.some.injEq, exists_eq_left']
  constructor
  · exact fun ⟨hlt, h⟩ => ⟨hlt, h.length_eq, h.activation_lt⟩
  · exact fun ⟨hlt, hlength, hactivation⟩ =>
      ⟨hlt, hactive, hlength, hactivation, UInt64.le_refl _⟩

theorem arbitrate_activatedService {length : UInt64} {after upTo settled : Epoch}
    {proposed amount : TokenAmount} (hlt : after < upTo)
    (h : ((activatedProving length).arbitrate proposed after upTo upTo).toOption.map
      (fun o => (o.amount, o.settleUpTo)) = some (amount, settled)) :
    ∃ o, (activatedService length).state.arbitrate 1 proposed after upTo upTo = .ok o ∧
      o.amount = amount ∧ o.settleUpTo = settled := by
  rw [ServiceState.arbitrate_eq (storageProving?_activatedService length) hlt]
  cases ho : (activatedProving length).arbitrate proposed after upTo upTo with
  | error e =>
    rw [ho] at h
    contradiction
  | ok o =>
    rw [ho] at h
    simp only [Except.toOption, Option.map_some, Option.some.injEq, Prod.mk.injEq] at h
    exact ⟨o, rfl, h⟩

/-- Of the fifteen epochs after 10 the ten of the proven period are paid. -/
theorem arbitrate_of_snapshot_activatedService :
    (∃ o, (activatedService 10).state.exactArbitrate? 1 150 10 25 25 = some (.ok o) ∧
      o.amount = 100 ∧ o.amount ≤ 150 ∧ o.settleUpTo = 20 ∧ 10 ≤ o.settleUpTo ∧
        o.settleUpTo ≤ 25) ∧
    ∃ operation, (activatedService 0).state.arbitrate 1 150 10 25 25 =
      .error (.settlement (.breakdown operation)) := by
  have htext (length : UInt64) := Snapshot.ofText_toText (activatedService length).snapshot
  have hperiodic : ¬ (activatedService 10).state.Unperiodic 1 10 25 25 := fun h =>
    absurd (unperiodic_activatedService.mp h).2.1 (by decide)
  have hanswer : ∃ o, (activatedService 10).state.arbitrate 1 150 10 25 25 = .ok o ∧
      o.amount = 100 ∧ o.settleUpTo = 20 :=
    arbitrate_activatedService (by decide) (by decide +kernel)
  obtain ⟨o, ho, hamount, hsettled⟩ := hanswer
  obtain ⟨-, hexact, hbounds⟩ :=
    arbitrate_of_snapshot (htext 10) _ (ofSnapshot_activatedService 10) 1 150 10 25 25
  obtain ⟨hle, hafter, hupTo⟩ := hbounds o ho
  obtain ⟨hbreakdown, -, -⟩ :=
    arbitrate_of_snapshot (htext 0) _ (ofSnapshot_activatedService 0) 1 150 10 25 25
  refine ⟨⟨o, ?_, hamount, hle, hsettled, hafter, hupTo⟩, ?_⟩
  · rw [hexact hperiodic, ho]
  · exact hbreakdown.mpr (unperiodic_activatedService.mpr (by decide))

/-- With periods of no length a state is loaded on which arbitration breaks down. -/
theorem unperiodic_breaks_down :
    Snapshot.ofText (activatedService 0).snapshot.toText = .ok (activatedService 0).snapshot ∧
    ofSnapshot (activatedService 0).snapshot (activatedService 0).ledger
      (activatedService 0).providers (activatedService 0).sessionKeys =
        .ok (activatedService 0) ∧
    (activatedService 0).state.exactArbitrate? 1 100 20 21 21 = none ∧
    (activatedService 0).state.arbitrate 1 100 20 21 21 =
      .error (.settlement (.breakdown "add")) := by
  have hanswer : (activatedProving 0).arbitrate 100 20 21 21 =
      .error (.settlement (.breakdown "add")) := by decide +kernel
  have hexact : (activatedProving 0).exactArbitrate? 100 20 21 21 = none := by decide +kernel
  have hp := storageProving?_activatedService 0
  refine ⟨Snapshot.ofText_toText _, ofSnapshot_activatedService 0, ?_, ?_⟩
  · rw [ServiceState.exactArbitrate?_of_storageProving? hp (by decide), hexact]
  · rw [ServiceState.arbitrate_eq hp (by decide), hanswer]

end Service

end WarmStorage

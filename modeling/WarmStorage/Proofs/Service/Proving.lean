import WarmStorage.Proofs.Service.Failure

/-!
The calls of the verifier about proofs and proving periods. Both change the proving state of one
data set, by a step that its checks accept; a refused call leaves the service as it was.
-/

namespace WarmStorage.ServiceM

variable {ctx : CallContext} {id : DataSetId} {d : DataSet} {s s' : Service} {e : ServiceError}
  {u : Unit} {count leafCount : UInt64} {challenge : Epoch} {rate : Option TokenAmount}
  {R : Service → Service → Prop} [Std.Refl R] [IsTrans Service R]

theorem succeeds_possessionProven : Succeeds (possessionProven ctx id count) s u s' ↔
    ctx.caller = s.state.config.verifier ∧ ∃ d p period, s.state.dataSet? id = some d ∧
      d.isPastEnd ctx.epoch = false ∧ s.state.proving? id = some p ∧
      p.checkProof ctx.epoch count = .ok period ∧
      s' = { s with
        state := { s.state with proving := s.state.proving.insert id (p.recordProof period) }
        events := s.events ++ [.possessionProven id period ctx.epoch] } := by
  simp [possessionProven, and_assoc]

theorem refusedWithin_possessionProven : RefusedWithin R (possessionProven ctx id count) :=
  within_requireVerifier.bind_refused fun _ => within_dataSet.bind_refused fun _ =>
    within_requireNotPastEnd.bind_refused fun _ => within_proving.bind_refused fun _ =>
    within_ofExcept.bind_refused fun _ => (total_modifyState.bind fun _ => total_emit).refusedWithin

def RateUpdated (s : Service) (d : DataSet) (leafCount : UInt64) (rate : Option TokenAmount)
    (l : Ledger) : Prop :=
  d.isTerminated = true ∧ rate = none ∧ l = s.ledger ∨
    d.isTerminated = false ∧ ∃ r, (∃ bytes, Word.exactMul? leafCount bytesPerLeaf = some bytes ∧
      s.state.config.pricing.storageRate bytes = .ok r) ∧ rate = some r ∧
      s.ledger.modifyPayment d.storageRail r 0 = .ok l

theorem RateUpdated.reaches {l : Ledger} (h : RateUpdated s d leafCount rate l) :
    s.ledger.Reaches l := by
  obtain ⟨-, -, rfl⟩ | ⟨-, r, -, -, hl⟩ := h
  · exact .refl
  · exact Ledger.reaches_of_modifyPayment hl

theorem succeeds_storageRate {r : TokenAmount} : Succeeds (storageRate leafCount) s r s' ↔
    (∃ bytes, Word.exactMul? leafCount bytesPerLeaf = some bytes ∧
      s.state.config.pricing.storageRate bytes = .ok r) ∧ s' = s := by
  unfold storageRate
  cases Word.exactMul? leafCount bytesPerLeaf with
  | none => simp
  | some bytes => simp [and_assoc, and_comm]

theorem succeeds_updateRate : Succeeds (updateRate d leafCount) s rate s' ↔
    ∃ l, RateUpdated s d leafCount rate l ∧ s' = { s with ledger := l } := by
  simp only [updateRate, succeeds_ite, succeeds_pure, succeeds_bind, succeeds_storageRate,
    succeeds_ledgerChange, RateUpdated]
  constructor
  · rintro (⟨hterminated, rfl, rfl⟩ | ⟨hlive, r, _, ⟨hrate, rfl⟩, _, _, ⟨l, hl, rfl⟩, rfl, rfl⟩)
    · exact ⟨_, .inl ⟨hterminated, rfl, rfl⟩, rfl⟩
    · exact ⟨l, .inr ⟨Bool.not_eq_true _ ▸ hlive, r, hrate, rfl, hl⟩, rfl⟩
  · rintro ⟨l, ⟨hterminated, rfl, rfl⟩ | ⟨hlive, r, hrate, rfl, hl⟩, rfl⟩
    · exact .inl ⟨hterminated, rfl, rfl⟩
    · rw [← Bool.not_eq_true] at hlive
      exact .inr ⟨hlive, r, s, ⟨hrate, rfl⟩, (), _, ⟨l, hl, rfl⟩, rfl, rfl⟩

theorem within_storageRate : Within R (storageRate leafCount) := by
  unfold storageRate
  cases Word.exactMul? leafCount bytesPerLeaf with
  | none => exact within_throw
  | some bytes => exact within_config.bind fun _ => within_ofExcept

theorem refusedWithin_updateRate : RefusedWithin R (updateRate d leafCount) :=
  within_pure.refused.ite (within_storageRate.bind_refused fun _ =>
    refusedWithin_ledgerChange.bind_total fun _ => total_pure)

def advanceEvents (id : DataSetId) (d : DataSet) (a : Advance) (challenge : Epoch)
    (leafCount : UInt64) (rate : Option TokenAmount) : List Event :=
  (if a.faultedPeriods > 0 then [.faultRecorded id a.faultedPeriods a.previousDeadline] else []) ++
    .nextProvingPeriod id challenge a.nextDeadline leafCount ::
      (rate.map fun rate => Event.railRateUpdated id d.storageRail rate).toList

theorem succeeds_emit_rate : Succeeds (match rate with
      | some rate => emit (.railRateUpdated id d.storageRail rate)
      | _ => pure ()) s u s' ↔
    s' = { s with events := s.events ++
      (rate.map fun rate => Event.railRateUpdated id d.storageRail rate).toList } := by
  cases rate with
  | none => simp
  | some rate => simp

theorem succeeds_nextProvingPeriod :
    Succeeds (nextProvingPeriod ctx id challenge leafCount) s u s' ↔
      ctx.caller = s.state.config.verifier ∧ ∃ d p a rate l, s.state.dataSet? id = some d ∧
        d.isPastEnd ctx.epoch = false ∧ s.state.proving? id = some p ∧
        p.checkAdvance ctx.epoch challenge = .ok a ∧ RateUpdated s d leafCount rate l ∧
        s' = { s with
          state := { s.state with proving := s.state.proving.insert id (p.applyAdvance a) }
          ledger := l
          events := s.events ++ advanceEvents id d a challenge leafCount rate } := by
  simp only [nextProvingPeriod, succeeds_bind, succeeds_requireVerifier, succeeds_dataSet,
    succeeds_requireNotPastEnd, succeeds_proving, succeeds_ofExcept, succeeds_updateRate,
    succeeds_setProving, succeeds_ite, succeeds_emit, and_assoc, exists_and_left, exists_eq_left,
    exists_const]
  refine and_congr_right fun _ => exists_congr fun d => and_congr_right fun _ =>
    and_congr_right fun _ => exists_congr fun p => and_congr_right fun _ => exists_congr fun a =>
    and_congr_right fun _ => exists_congr fun rate => ?_
  constructor
  · rintro ⟨t, ⟨l, hrate, rfl⟩, ⟨hfaults, h⟩ | ⟨hfaults, h⟩⟩
    · rw [succeeds_emit_rate.mp h]
      refine ⟨l, hrate, ?_⟩
      simp [advanceEvents, hfaults]
    · rw [succeeds_emit_rate.mp h]
      refine ⟨l, hrate, ?_⟩
      simp [advanceEvents, hfaults]
  · rintro ⟨l, hrate, rfl⟩
    refine ⟨_, ⟨l, hrate, rfl⟩, ?_⟩
    by_cases hfaults : a.faultedPeriods > 0
    · refine .inl ⟨hfaults, succeeds_emit_rate.mpr ?_⟩
      simp [advanceEvents, hfaults]
    · refine .inr ⟨hfaults, succeeds_emit_rate.mpr ?_⟩
      simp [advanceEvents, hfaults]

theorem refusedWithin_nextProvingPeriod :
    RefusedWithin R (nextProvingPeriod ctx id challenge leafCount) := by
  refine within_requireVerifier.bind_refused fun _ => within_dataSet.bind_refused fun d =>
    within_requireNotPastEnd.bind_refused fun _ => within_proving.bind_refused fun p =>
    within_ofExcept.bind_refused fun a => refusedWithin_updateRate.bind_total fun rate =>
    total_modifyState.bind fun _ => ?_
  have hevents : Total (emit (.nextProvingPeriod id challenge a.nextDeadline leafCount) >>= fun _ =>
      match rate with
      | some rate => emit (.railRateUpdated id d.storageRail rate)
      | _ => pure ()) := by
    refine total_emit.bind fun _ => ?_
    cases rate with
    | none => exact total_pure
    | some rate => exact total_emit
  exact Total.ite (total_emit.bind fun _ => hevents) hevents

end WarmStorage.ServiceM

import WarmStorage.Proofs.Proving.Alignment
import WarmStorage.Proofs.Service.Endings
import WarmStorage.Proofs.Service.Rails

/-!
What stays of a data set whose storage has an end, until it is deleted. Its provider may change and
nothing else about it. Proofs and advances are accepted up to the end, and none after it, also when
calls come at epochs in another order.
-/

namespace WarmStorage

def DataSet.SameButProvider (d d' : DataSet) : Prop :=
  d' = { d with serviceProvider := d'.serviceProvider, providerId := d'.providerId }

theorem DataSet.SameButProvider.trans {d d' d'' : DataSet} (h : d.SameButProvider d')
    (h' : d'.SameButProvider d'') : d.SameButProvider d'' := by
  unfold SameButProvider at *
  rw [h', h]

namespace Service

open ServiceM ServiceState

variable {s s' : Service} {id : DataSetId} {d d' : DataSet} {m : Move} {moves : List Move}
  {ctx : CallContext} {c : Call} {reply : Reply} {epoch : Epoch} {count : UInt64}

structure ProvingAligned (s : ServiceState) : Prop where
  params : s.config.proving.Valid
  proving : ∀ id p, s.proving? id = some p → p.Aligned

theorem Effect.provingAligned (heffect : Effect epoch s s') (h : ProvingAligned s.state) :
    ProvingAligned s'.state := by
  cases heffect with
  | quiet quiet =>
    refine ⟨quiet.params h.params, fun id p hp => h.proving id p ?_⟩
    rwa [proving?, quiet.proving] at hp
  | stepped hp accepted _ eq =>
    rw [eq]
    refine ⟨h.params, fun id q hq => ?_⟩
    rw [proving?_insert] at hq
    split at hq
    · cases hq
      exact (h.proving _ _ hp).apply accepted
    · exact h.proving id q hq
  | created _ _ _ eq =>
    rw [eq]
    refine ⟨h.params, fun id q hq => ?_⟩
    rw [proving?_registered] at hq
    split at hq
    · cases hq
      exact ProvingState.aligned_fresh (UInt64.lt_trans h.params.1 h.params.2)
    · exact h.proving id q hq
  | deleted _ eq =>
    rw [eq]
    refine ⟨h.params, fun id q hq => ?_⟩
    rw [proving?_withoutDataSet] at hq
    split at hq
    · contradiction
    · exact h.proving id q hq

theorem Reachable.provingAligned (h : Reachable s) : ProvingAligned s.state := by
  induction h with
  | new h =>
    obtain ⟨hstate, hvalid⟩ := state_of_new h
    rw [hstate]
    refine ⟨hvalid, fun id p hp => ?_⟩
    simp [ServiceState.ofConfig, ServiceState.proving?] at hp
  | call _ hcall ih => exact (effect_of_call hcall).provingAligned ih
  | operate op _ ih => exact ih
  | outside providers sessionKeys _ ih => exact ih
  | takeEvents _ ih => exact ih

inductive ProvingGoesOn (epoch : Epoch) (s s' : Service) (id : DataSetId) (d : DataSet) : Prop where
  | kept (eq : s'.state.proving? id = s.state.proving? id)
  | stepped {p : ProvingState} {step : ProvingState.Step} (hp : s.state.proving? id = some p)
      (accepted : p.Accepts step) (epoch_eq : step.epoch = epoch)
      (unended : d.isPastEnd epoch = false)
      (eq : s'.state.proving? id = some (step.apply p))

theorem Effect.provingGoesOn (heffect : Effect epoch s s') (hd : s.state.dataSet? id = some d)
    (hd' : s'.state.dataSet? id = some d') : ProvingGoesOn epoch s s' id d := by
  cases heffect with
  | quiet quiet => exact .kept (by rw [proving?, quiet.proving, proving?])
  | @stepped other p step hp accepted epoch_eq eq unended =>
    by_cases heq : other = id
    · subst heq
      refine .stepped hp accepted epoch_eq (unended d hd) ?_
      rw [eq, proving?_insert, if_pos rfl]
    · refine .kept ?_
      rw [eq, proving?_insert, if_neg heq]
  | created unused _ _ eq =>
    refine .kept ?_
    rw [eq, proving?_registered, if_neg]
    rintro rfl
    rw [hd] at unused
    contradiction
  | deleted _ eq =>
    rw [eq, dataSet?_withoutDataSet] at hd'
    split at hd'
    · contradiction
    · rename_i hne
      refine .kept ?_
      rw [eq, proving?_withoutDataSet, if_neg hne]

theorem le_endEpoch (hended : d.endEpoch ≠ 0) (h : d.isPastEnd epoch = false) :
    epoch ≤ d.endEpoch := by
  rw [Deal.isPastEnd, Deal.isTerminated, bne_iff_ne.mpr hended, Bool.true_and,
    decide_eq_false_iff_not] at h
  exact UInt64.not_lt.mp h

theorem sameButProvider_of_call (hended : d.endEpoch ≠ 0) (hd : s.state.dataSet? id = some d)
    (hd' : (s.call ctx c).2.state.dataSet? id = some d') : d.SameButProvider d' := by
  have hended : d.isTerminated = true := bne_iff_ne.mpr hended
  cases continues_of_call hd hd' with
  | moved heq =>
    rw [heq]
    rfl
  | grown hlive =>
    rw [hended] at hlive
    contradiction
  | reported hlive =>
    rw [hended] at hlive
    contradiction
  | ended hlive =>
    rw [hended] at hlive
    contradiction

theorem frozen_move (hended : d.endEpoch ≠ 0) (hd : s.state.dataSet? id = some d)
    (hd' : (s.move m).state.dataSet? id = some d') :
    d.SameButProvider d' ∧ ∃ epoch, ProvingGoesOn epoch s (s.move m) id d := by
  have of_same (hstate : (s.move m).state = s.state) :
      d.SameButProvider d' ∧ ∃ epoch, ProvingGoesOn epoch s (s.move m) id d := by
    rw [hstate] at hd'
    cases hd.symm.trans hd'
    exact ⟨rfl, 0, .kept (by rw [hstate])⟩
  obtain ⟨ctx, c, rfl⟩ | ⟨op, rfl⟩ | ⟨hstate, -⟩ := move_cases (s := s) m
  · rw [move_call] at hd' ⊢
    exact ⟨sameButProvider_of_call hended hd hd', ctx.epoch,
      (effect_of_call rfl).provingGoesOn hd hd'⟩
  · exact of_same rfl
  · exact of_same hstate

/-- The schedule is kept, and no period is proven whose challenge window starts after `last`. -/
def ProvenUpTo (last : Epoch) (p p' : ProvingState) : Prop :=
  (p.activation ≠ 0 → p'.schedule = p.schedule) ∧
    ∀ q, last < p'.schedule.windowStart (p'.schedule.deadline q) →
      p'.isPeriodProven q = p.isPeriodProven q

theorem frozen_run (hs : Reachable s) (hended : d.endEpoch ≠ 0)
    (hd : s.state.dataSet? id = some d) (lives : s.Lives id moves) :
    (∃ d', (s.run moves).state.dataSet? id = some d' ∧ d.SameButProvider d') ∧
    ∀ p', (s.run moves).state.proving? id = some p' →
      ∃ p, s.state.proving? id = some p ∧ ProvenUpTo d.endEpoch p p' := by
  induction moves generalizing s d with
  | nil => exact ⟨⟨d, hd, rfl⟩, fun p' hp' => ⟨p', hp', fun _ => rfl, fun _ _ => rfl⟩⟩
  | cons m moves ih =>
    obtain ⟨d₁, hd₁⟩ := lives.2.exists_dataSet
    obtain ⟨hsame, epoch, hgoes⟩ := frozen_move hended hd hd₁
    have hend : d₁.endEpoch = d.endEpoch := by rw [hsame]
    obtain ⟨⟨d', hd', hsame'⟩, hproving⟩ := ih hs.move (hend ▸ hended) hd₁ lives.2
    refine ⟨⟨d', hd', hsame.trans hsame'⟩, fun p' hp' => ?_⟩
    obtain ⟨p₁, hp₁, hschedule, hbits⟩ := hproving p' hp'
    rw [hend] at hbits
    cases hgoes with
    | kept heq => exact ⟨p₁, heq ▸ hp₁, hschedule, hbits⟩
    | @stepped p step hp accepted epoch_eq unended heq =>
      cases hp₁.symm.trans heq
      refine ⟨p, hp, fun active => ?_, fun q hq => ?_⟩
      · rw [hschedule (by rwa [accepted.activation_apply active]), accepted.schedule_apply active]
      · rw [hbits q hq]
        refine (hs.provingAligned.proving id p hp).isPeriodProven_apply accepted fun active => ?_
        rw [← accepted.schedule_apply active,
          ← hschedule (by rwa [accepted.activation_apply active]), epoch_eq]
        exact UInt64.lt_of_le_of_lt (le_endEpoch hended unended) hq

/--
A data set whose storage ends at an epoch is frozen until it is deleted, at whatever epochs calls
come. Nothing about it changes but its provider, and of its periods none becomes proven whose
challenge window starts after the end. No call changes its storage rail, no call after the end
changes its proving state as long as the data set is there, and no proof is accepted after the end.
The ledger must hold fewer rails than there are numbers for them, as any does.
-/
theorem Reachable.ended_data_set_frozen (hs : Reachable s) (hd : s.state.dataSet? id = some d)
    (hended : d.endEpoch ≠ 0) (lives : s.Lives id moves) :
    (∃ d', (s.run moves).state.dataSet? id = some d' ∧
      d' = { d with serviceProvider := d'.serviceProvider, providerId := d'.providerId }) ∧
    (∀ p', (s.run moves).state.proving? id = some p' → ∃ p, s.state.proving? id = some p ∧
      ∀ q, d.endEpoch < p'.schedule.windowStart (p'.schedule.deadline q) →
        p'.isPeriodProven q = p.isPeriodProven q) ∧
    ∀ ctx c answer t, (s.run moves).call ctx c = (answer, t) →
      (t.ledger.rails.size < UInt64.size →
        t.ledger.rail? d.storageRail = (s.run moves).ledger.rail? d.storageRail) ∧
      (d.endEpoch < ctx.epoch → (t.state.dataSet? id).isSome →
        t.state.proving? id = (s.run moves).state.proving? id) ∧
      ∀ count reply, c = .possessionProven id count → answer = .ok reply →
        ctx.epoch ≤ d.endEpoch := by
  obtain ⟨⟨d₁, hd₁, hsame⟩, hproving⟩ := frozen_run hs hended hd lives
  have hend : d₁.endEpoch = d.endEpoch := by rw [hsame]
  have hstorage : d₁.storageRail = d.storageRail := by rw [hsame]
  have hended₁ : d₁.endEpoch ≠ 0 := by rwa [hend]
  refine ⟨⟨d₁, hd₁, hsame⟩, fun p' hp' => ?_, fun ctx c answer t hcall => ⟨?_, ?_, ?_⟩⟩
  · obtain ⟨p, hp, -, hbits⟩ := hproving p' hp'
    exact ⟨p, hp, hbits⟩
  · intro room
    have ht : t = ((s.run moves).call ctx c).2 := by rw [hcall]
    subst ht
    rw [← hstorage]
    exact hs.run.storageRail_frozen room hd₁ (bne_iff_ne.mpr hended₁)
  · intro late remains
    obtain ⟨d', hd'⟩ := Option.isSome_iff_exists.mp remains
    -- a step would have been taken before the end
    cases (effect_of_call hcall).provingGoesOn hd₁ hd' with
    | kept heq => exact heq
    | stepped _ _ _ unended =>
      rw [← hend] at late
      exact absurd (le_endEpoch hended₁ unended) (UInt64.not_le.mpr late)
  · rintro count reply rfl rfl
    obtain ⟨-, h⟩ := succeeds_done.mp (call_eq_ok_iff.mp hcall)
    obtain ⟨-, d₂, _, _, hd₂, unended, -⟩ := succeeds_possessionProven.mp h
    cases hd₁.symm.trans hd₂
    rw [← hend]
    exact le_endEpoch hended₁ unended

/-- Proving starts after the termination of the service. -/
def provingAfterTermination : List Move :=
  [.call ⟨3, 30⟩ (.nextProvingPeriod 1 38 0), .call ⟨3, 38⟩ (.possessionProven 1 5)]

theorem ended_data_set_frozen_endedCdnService :
    (endedCdnService 20).Lives 1 provingAfterTermination ∧
    (∃ p, ((endedCdnService 20).run provingAfterTermination).state.proving? 1 = some p ∧
      p.isPeriodProven 0 = true ∧ p.isPeriodProven 9000 = false) ∧
    ∃ d answer t, (endedCdnService 20).state.dataSet? 1 = some d ∧
      ((endedCdnService 20).run provingAfterTermination).call ⟨3, 21 + epochsPerMonth⟩
        (.nextProvingPeriod 1 0 0) = (answer, t) ∧
      t.ledger.rail? d.storageRail =
        ((endedCdnService 20).run provingAfterTermination).ledger.rail? d.storageRail ∧
      t.state.proving? 1 =
        ((endedCdnService 20).run provingAfterTermination).state.proving? 1 := by
  have hs : Reachable (endedCdnService 20) := by
    show Reachable (cdnService.call _ _).2
    exact reachable_cdnService.call (call_eq_of_answer rfl)
  have lives : (endedCdnService 20).Lives 1 provingAfterTermination := by decide +kernel
  have hends : ((endedCdnService 20).state.dataSet? 1).map (·.endEpoch) =
      some (20 + epochsPerMonth) := by
    decide +kernel
  have hstart : ((endedCdnService 20).state.proving? 1).any (!·.isPeriodProven 9000) = true := by
    decide +kernel
  have hlater : (((endedCdnService 20).run provingAfterTermination).state.proving? 1).any
      (fun p => p.isPeriodProven 0 && decide (20 + epochsPerMonth <
        p.schedule.windowStart (p.schedule.deadline 9000))) = true := by
    decide +kernel
  obtain ⟨d, hd, hend⟩ := Option.map_eq_some_iff.mp hends
  obtain ⟨p, hp, hunproven⟩ := (Option.any_eq_true _ _).mp hstart
  obtain ⟨p', hp', hlater⟩ := (Option.any_eq_true _ _).mp hlater
  rw [Bool.and_eq_true, decide_eq_true_iff] at hlater
  obtain ⟨-, hproving, hcalls⟩ :=
    Reachable.ended_data_set_frozen hs hd (by rw [hend]; decide) lives
  obtain ⟨q, hq, hbits⟩ := hproving p' hp'
  cases hp.symm.trans hq
  obtain ⟨hrail, hkept, -⟩ :=
    hcalls ⟨3, 21 + epochsPerMonth⟩ (.nextProvingPeriod 1 0 0) _ _ Prod.mk.eta.symm
  refine ⟨lives, ⟨p', hp', hlater.1, ?_⟩, d, _, _, hd, Prod.mk.eta.symm,
    hrail (by decide +kernel), hkept (by rw [hend]; decide) (by decide +kernel)⟩
  rw [hbits 9000 (by rw [hend]; exact hlater.2)]
  simpa using hunproven

end Service

end WarmStorage

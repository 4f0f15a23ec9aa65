import WarmStorage.Proofs.Service.Soundness

/-!
Settlement of a storage rail over a whole run. The ledger asks for one range after the other, each
from where the last one was settled up to, while other calls report proofs, open and close periods,
or create and delete data sets. What is paid in all is a constant rate for every epoch of a proven
period: an epoch that settlement has passed was paid, or the period it lies in is over.
-/

namespace WarmStorage

structure Settlement where
  clock : Epoch
  upTo : Epoch
  paid : Nat
  /-- The proving state that decides what is paid; that of a deleted data set is kept. -/
  proving : Option ProvingState

/--
The settlement of `rail` after a call. A rail of a data set that the call created is a new one,
whatever was settled under its number before.
-/
def Settlement.follow (t : Settlement) (rail : RailId) (start epoch : Epoch) (s s' : ServiceState) :
    Settlement :=
  match s'.dataSetOfRail? rail with
  | none => { t with clock := epoch }
  | some id =>
    if (s.dataSet? id).isSome then { t with clock := epoch, proving := s'.storageProving? rail }
    else ⟨epoch, start, 0, s'.storageProving? rail⟩

/--
Runs of the service in which the ledger settles `rail` from `start` on and proposes `rate` for every
epoch. Between calls the ledger, the registry and the session keys may change in any way.
-/
inductive Settles (rail : RailId) (rate : Nat) (start : Epoch) : Service → Settlement → Prop where
  | new {config : Config} {ledger : Ledger} {providers : ProviderRegistry}
      {sessionKeys : SessionKeys} {s : Service}
      (h : Service.new config ledger providers sessionKeys = .ok s) :
      Settles rail rate start s ⟨0, start, 0, none⟩
  | call {s s' : Service} {t : Settlement} {ctx : CallContext} {c : Call}
      {r : Except ServiceError Reply} (h : Settles rail rate start s t)
      (later : t.clock ≤ ctx.epoch) (hcall : s.call ctx c = (r, s')) :
      Settles rail rate start s' (t.follow rail start ctx.epoch s.state s'.state)
  | outside {s s' : Service} {t : Settlement} (h : Settles rail rate start s t)
      (same : s'.state = s.state) : Settles rail rate start s' t
  | settle {s s' : Service} {t : Settlement} {ctx : CallContext} {proposed : TokenAmount}
      {upTo : Epoch} {o : SettlementOutcome} (h : Settles rail rate start s t)
      (later : t.clock ≤ ctx.epoch)
      (hproposed : proposed.toNat = rate * (upTo.toNat - t.upTo.toNat))
      (hcall : s.call ctx (.arbitrate rail proposed t.upTo upTo) = (.ok (.outcome o), s')) :
      Settles rail rate start s'
        { t with clock := ctx.epoch, upTo := o.settleUpTo, paid := t.paid + o.amount.toNat }

structure Settlement.Agrees (t : Settlement) (rate : Nat) (start : Epoch) (p : ProvingState) :
    Prop where
  invariant : ∃ last, last ≤ t.clock ∧ p.Invariant last
  start_le : start ≤ t.upTo
  inactive : p.activation = 0 → t.upTo = start
  paid : t.paid = rate * (p.paidEpochs start.toNat t.upTo.toNat).card
  settled : ∀ e, start < e → e ≤ t.upTo → p.activation ≤ e → e ≤ t.clock ∧
    (p.isPeriodProven (p.schedule.periodContaining e) = true ∨
      p.schedule.periodContaining e < p.schedule.periodContaining t.clock)

namespace Settlement.Agrees

variable {t : Settlement} {rate : Nat} {start clock epoch e : Epoch} {p : ProvingState}
  {step : ProvingState.Step} {o : SettlementOutcome} {count period : UInt64}

theorem of_start (hp : ∃ last, last ≤ clock ∧ p.Invariant last) {current : Option ProvingState} :
    Agrees ⟨clock, start, 0, current⟩ rate start p := by
  refine ⟨hp, UInt64.le_refl _, fun _ => rfl, ?_, ?_⟩
  · simp [ProvingState.paidEpochs]
  · intro e hlo hhi
    exact absurd hhi (UInt64.not_le.mpr hlo)

theorem active (h : t.Agrees rate start p) (hlo : start < e) (hhi : e ≤ t.upTo) :
    p.activation ≠ 0 := by
  intro inactive
  rw [h.inactive inactive] at hhi
  exact UInt64.not_le.mpr hlo hhi

theorem length_pos (h : t.Agrees rate start p) : 0 < p.params.periodLength := by
  obtain ⟨last, -, hinv⟩ := h.invariant
  exact hinv.length_pos

theorem covers (h : t.Agrees rate start p) (hlo : start < e) (hhi : e ≤ t.upTo)
    (hactivation : p.activation ≤ e) : p.schedule.covers e = true :=
  ProvingState.covers_of_le h.length_pos (h.active hlo hhi) hactivation

theorem tick (h : t.Agrees rate start p) (later : t.clock ≤ epoch) {current : Option ProvingState} :
    Agrees { t with clock := epoch, proving := current } rate start p := by
  obtain ⟨last, hlast, hinv⟩ := h.invariant
  refine ⟨⟨last, UInt64.le_trans hlast later, hinv⟩, h.start_le, h.inactive, h.paid, ?_⟩
  intro e hlo hhi hactivation
  obtain ⟨hclock, hsettled⟩ := h.settled e hlo hhi hactivation
  refine ⟨UInt64.le_trans hclock later, hsettled.imp_right ?_⟩
  intro hover
  apply UInt64.lt_of_lt_of_le hover
  apply Schedule.periodContaining_mono _ later
  exact ProvingState.covers_of_le h.length_pos (h.active hlo hhi)
    (UInt64.le_trans hactivation hclock)

theorem period_ne (h : t.Agrees rate start p) (later : t.clock ≤ epoch)
    (hproof : p.checkProof epoch count = .ok period) (hlo : start < e) (hhi : e ≤ t.upTo)
    (hactivation : p.activation ≤ e) : p.schedule.periodContaining e ≠ period := by
  obtain ⟨last, hlast, hinv⟩ := h.invariant
  obtain ⟨hclock, hsettled⟩ := h.settled e hlo hhi hactivation
  -- a proven period is not proven again, and a period that is over is not proven any more
  cases hsettled with
  | inl hproven =>
    rintro rfl
    have hperiod := hinv.not_proven_of_checkProof hproof
    rw [hproven] at hperiod
    contradiction
  | inr hover =>
    apply UInt64.ne_of_lt
    apply UInt64.lt_of_lt_of_le hover
    apply hinv.periodContaining_le_of_checkProof hproof _ later
    exact ProvingState.covers_of_le h.length_pos (h.active hlo hhi)
      (UInt64.le_trans hactivation hclock)

theorem of_proven {q : ProvingState} (h : t.Agrees rate start p)
    (hinv : ∃ last, last ≤ t.clock ∧ q.Invariant last) (hschedule : q.schedule = p.schedule)
    (hproven : ∀ e, start < e → e ≤ t.upTo → p.activation ≤ e →
      q.isPeriodProven (p.schedule.periodContaining e) =
        p.isPeriodProven (p.schedule.periodContaining e)) : t.Agrees rate start q := by
  have hactivation : q.activation = p.activation := congrArg Schedule.activation hschedule
  refine ⟨hinv, h.start_le, ?_, ?_, ?_⟩
  · rw [hactivation]
    exact h.inactive
  · rw [h.paid, ProvingState.paidEpochs_congr]
    intro e hlo hhi
    unfold ProvingState.Pays
    rw [hactivation, hschedule]
    refine and_congr_right fun _ => and_congr_right fun hle => ?_
    rw [hproven e (UInt64.lt_iff_toNat_lt.mpr hlo) hhi hle]
  · intro e hlo hhi hle
    rw [hactivation] at hle
    rw [hschedule, hproven e hlo hhi hle]
    exact h.settled e hlo hhi hle

theorem recordProof (h : t.Agrees rate start p) (later : t.clock ≤ epoch)
    {current : Option ProvingState} (hproof : p.checkProof epoch count = .ok period) :
    Agrees { t with clock := epoch, proving := current } rate start (p.recordProof period) := by
  obtain ⟨last, hlast, hinv⟩ := h.invariant
  apply (h.tick later).of_proven
  · exact ⟨epoch, UInt64.le_refl _, hinv.recordProof (UInt64.le_trans hlast later) hproof⟩
  · rfl
  · intro e hlo hhi hactivation
    have hne := h.period_ne later hproof hlo hhi hactivation
    rw [ProvingState.isPeriodProven_recordProof, beq_eq_false_iff_ne.mpr hne.symm, Bool.or_false]

theorem applyAdvance {challenge : Epoch} {a : Advance} (h : t.Agrees rate start p)
    (later : t.clock ≤ epoch) {current : Option ProvingState}
    (hadvance : p.checkAdvance epoch challenge = .ok a) :
    Agrees { t with clock := epoch, proving := current } rate start (p.applyAdvance a) := by
  obtain ⟨last, hlast, hinv⟩ := h.invariant
  have hinv := hinv.applyAdvance (UInt64.le_trans hlast later) hadvance
  by_cases inactive : p.activation = 0
  · -- an activation, before which nothing was settled
    have hupTo := h.inactive inactive
    refine ⟨⟨epoch, UInt64.le_refl _, hinv⟩, h.start_le, fun _ => hupTo, ?_, ?_⟩
    · have hpaid := h.paid
      rw [hupTo] at hpaid
      dsimp only
      rw [hpaid, hupTo]
      simp [ProvingState.paidEpochs]
    · intro e hlo hhi
      rw [hupTo] at hhi
      exact absurd hhi (UInt64.not_le.mpr hlo)
  · have hactivation := (ProvingState.Accepts.advance hadvance).activation_apply inactive
    apply (h.tick later).of_proven
    · exact ⟨epoch, UInt64.le_refl _, hinv⟩
    · unfold ProvingState.schedule
      rw [← hactivation]
      rfl
    · intro e _ _ _
      rfl

theorem accept (h : t.Agrees rate start p) (later : t.clock ≤ step.epoch)
    {current : Option ProvingState} (accepted : p.Accepts step) :
    Agrees { t with clock := step.epoch, proving := current } rate start (step.apply p) := by
  cases accepted with
  | proof hproof => exact h.recordProof later hproof
  | advance hadvance => exact h.applyAdvance later hadvance

theorem settle (h : t.Agrees rate start p) (later : t.clock ≤ epoch)
    (ho : p.Arbitrated rate t.upTo epoch o) :
    Agrees ⟨epoch, o.settleUpTo, t.paid + o.amount.toNat, t.proving⟩ rate start p := by
  obtain ⟨last, hlast, hinv⟩ := h.invariant
  refine ⟨⟨last, UInt64.le_trans hlast later, hinv⟩, UInt64.le_trans h.start_le ho.le, ?_, ?_, ?_⟩
  · intro inactive
    rw [ho.inactive inactive]
    exact h.inactive inactive
  · dsimp only
    rw [h.paid, ho.amount, ← Nat.mul_add, ProvingState.card_paidEpochs_split p
      (UInt64.le_iff_toNat_le.mp h.start_le) (UInt64.le_iff_toNat_le.mp ho.le)]
  · have hbefore : Agrees { t with clock := epoch } rate start p := h.tick later
    intro e hlo hhi hactivation
    by_cases hle : e ≤ t.upTo
    · exact hbefore.settled e hlo hle hactivation
    · exact ho.settled e (UInt64.not_le.mp hle) hhi hactivation

end Settlement.Agrees

theorem Service.arbitrate_of_call {s s' : Service} {ctx : CallContext} {rail : RailId}
    {proposed : TokenAmount} {after upTo : Epoch} {o : SettlementOutcome}
    (h : s.call ctx (.arbitrate rail proposed after upTo) = (.ok (.outcome o), s')) :
    s.state.arbitrate rail proposed after upTo ctx.epoch = .ok o ∧ s'.state = s.state := by
  obtain ⟨_, _, ho, hreply⟩ := ServiceM.succeeds_bind.mp (ServiceM.call_eq_ok_iff.mp h)
  obtain ⟨-, ho, rfl⟩ := ServiceM.succeeds_arbitrate.mp ho
  obtain ⟨hreply, rfl⟩ := ServiceM.succeeds_pure.mp hreply
  cases hreply
  exact ⟨ho, rfl⟩

theorem Service.call_arbitrate_of_eval {s : Service} {ctx : CallContext} {rail : RailId}
    {proposed amount : TokenAmount} {after upTo settled : Epoch}
    (hcaller : ctx.caller = s.state.config.payments)
    (h : (s.state.arbitrate rail proposed after upTo ctx.epoch).toOption.map
      (fun o => (o.amount, o.settleUpTo)) = some (amount, settled)) :
    ∃ o, s.call ctx (.arbitrate rail proposed after upTo) = (.ok (.outcome o), s) ∧
      o.amount = amount ∧ o.settleUpTo = settled := by
  cases ho : s.state.arbitrate rail proposed after upTo ctx.epoch with
  | error e =>
    rw [ho] at h
    contradiction
  | ok o =>
    rw [ho] at h
    simp only [Except.toOption, Option.map_some, Option.some.injEq, Prod.mk.injEq] at h
    refine ⟨o, ServiceM.call_eq_ok_iff.mpr ?_, h⟩
    refine ServiceM.succeeds_bind.mpr ⟨o, s, ?_, ServiceM.succeeds_pure.mpr ⟨rfl, rfl⟩⟩
    exact ServiceM.succeeds_arbitrate.mpr ⟨hcaller, ho, rfl⟩

namespace Settles

variable {rail : RailId} {rate : Nat} {start : Epoch} {s : Service} {t : Settlement}
  {p : ProvingState} {id : DataSetId}

theorem clock_follow {epoch : Epoch} {s s' : ServiceState} :
    (t.follow rail start epoch s s').clock = epoch := by
  unfold Settlement.follow
  split
  · rfl
  split
  · rfl
  · rfl

theorem follow_of_known {epoch : Epoch} {s s' : ServiceState}
    (hid : s'.dataSetOfRail? rail = some id) (hd : (s.dataSet? id).isSome = true) :
    t.follow rail start epoch s s' =
      { t with clock := epoch, proving := s'.storageProving? rail } := by
  unfold Settlement.follow
  rw [hid]
  exact if_pos hd

theorem next (h : Settles rail rate start s t) (ctx : CallContext) (c : Call)
    (later : t.clock ≤ ctx.epoch) :
    Settles rail rate start (s.call ctx c).2
      (t.follow rail start ctx.epoch s.state (s.call ctx c).2.state) :=
  h.call later rfl

theorem sound (h : Settles rail rate start s t) : s.state.Sound t.clock := by
  induction h with
  | new h => exact Service.sound_of_new h
  | call _ later hcall ih =>
    rw [clock_follow]
    exact (Service.effect_of_call hcall).sound ih later
  | outside _ same ih =>
    rw [same]
    exact ih
  | settle _ later _ hcall ih =>
    rw [(Service.arbitrate_of_call hcall).2]
    exact ih.mono later

theorem proving_eq (h : Settles rail rate start s t)
    (hid : s.state.dataSetOfRail? rail = some id) : t.proving = s.state.storageProving? rail := by
  induction h with
  | new h =>
    rw [(Service.state_of_new h).1] at hid
    simp [ServiceState.ofConfig, ServiceState.dataSetOfRail?] at hid
  | call =>
    unfold Settlement.follow
    rw [hid]
    dsimp only
    split
    · rfl
    · rfl
  | outside _ same ih =>
    rw [same] at hid ⊢
    exact ih hid
  | settle _ _ _ hcall ih =>
    rw [(Service.arbitrate_of_call hcall).2] at hid ⊢
    exact ih hid

theorem agrees (h : Settles rail rate start s t) (hp : t.proving = some p) :
    t.Agrees rate start p := by
  induction h generalizing p with
  | new => contradiction
  | @call s s' t ctx c r h later hcall ih =>
    have heffect := Service.effect_of_call hcall
    unfold Settlement.follow at hp ⊢
    cases hid : s'.state.dataSetOfRail? rail with
    | none =>
      -- the data set was deleted, or there was none yet
      rw [hid] at hp
      exact (ih hp).tick later
    | some id =>
      rw [hid] at hp
      dsimp only at hp ⊢
      by_cases hd : (s.state.dataSet? id).isSome = true
      · rw [if_pos hd] at hp ⊢
        obtain ⟨hbefore, hsame | ⟨q, step, hq, accepted, hepoch, rfl⟩⟩ :=
          heffect.storageProving? h.sound hid hd hp
        · rw [← h.proving_eq hbefore] at hsame
          exact (ih hsame).tick later
        · rw [← h.proving_eq hbefore] at hq
          rw [← hepoch] at later ⊢
          exact (ih hq).accept later accepted
      · -- a rail that the call opened
        rw [if_neg hd] at hp ⊢
        obtain ⟨other, -, -, -, -, hproving⟩ := ServiceState.storageProving?_eq_some_iff.mp hp
        exact .of_start ((heffect.sound h.sound later).proving other p hproving)
  | outside _ _ ih => exact ih hp
  | @settle s s' t ctx proposed upTo o h later hproposed hcall ih =>
    have ho := (Service.arbitrate_of_call hcall).1
    have hagrees := ih hp
    cases hid : s.state.dataSetOfRail? rail with
    | none =>
      rw [ServiceState.arbitrate, hid] at ho
      contradiction
    | some id =>
      have hstorage := (h.proving_eq hid).symm.trans hp
      obtain ⟨hlt, ho⟩ := ServiceState.arbitrate_of_storageProving? hstorage ho
      exact hagrees.settle later
        (ProvingState.arbitrated_of_arbitrate hagrees.length_pos hlt hproposed ho)

/--
What is paid in all is the rate for every epoch that was settled, at or after the activation, whose
period is proven at the end; and no proof that is accepted from then on is for one of the periods
that settlement has passed.
-/
theorem pays_proven_epochs (h : Settles rail rate start s t) (hp : t.proving = some p) :
    (s.state.storageProving? rail = some p ∨ s.state.dataSetOfRail? rail = none) ∧
    t.paid = rate * (p.paidEpochs start.toNat t.upTo.toNat).card ∧
    ∀ epoch count period e, t.clock ≤ epoch → p.checkProof epoch count = .ok period →
      start < e → e ≤ t.upTo → p.activation ≤ e → p.schedule.periodContaining e ≠ period := by
  have hagrees := h.agrees hp
  refine ⟨?_, hagrees.paid, ?_⟩
  · cases hid : s.state.dataSetOfRail? rail with
    | none => exact .inr rfl
    | some id =>
      left
      rw [← h.proving_eq hid]
      exact hp
  · intro epoch count period e later hproof hlo hhi hactivation
    exact hagrees.period_ne later hproof hlo hhi hactivation

/-- The data set proven in its first period, at the epoch 17 of the periods that start at 10. -/
def provedService : Service :=
  let activated := (ServiceM.createdService.call ⟨3, 10⟩ (.nextProvingPeriod 1 18 0)).2
  (activated.call ⟨3, 17⟩ (.possessionProven 1 5)).2

theorem settles_provedService : ∃ t, Settles 1 5 8 provedService t ∧ t.clock = 17 ∧ t.upTo = 8 ∧
    t.paid = 0 ∧ t.proving.isSome = true := by
  have new : Settles 1 5 8 ServiceM.sampleService _ := .new ServiceM.new_sampleService
  have approved := new.next ⟨2, 10⟩ (.approveProvider 1) UInt64.zero_le
  have created := approved.call (by decide +kernel) ServiceM.call_sampleRequest
  have activated := created.next ⟨3, 10⟩ (.nextProvingPeriod 1 18 0) (by decide +kernel)
  have proved := activated.next ⟨3, 17⟩ (.possessionProven 1 5) (by decide +kernel)
  exact ⟨_, proved, by decide +kernel, by decide +kernel, by decide +kernel, by decide +kernel⟩

theorem arbitrate_provedService : ∃ o,
    provedService.call ⟨4, 18⟩ (.arbitrate 1 50 8 18) = (.ok (.outcome o), provedService) ∧
      o.amount = 45 ∧ o.settleUpTo = 18 :=
  Service.call_arbitrate_of_eval (by decide +kernel) (by decide +kernel)

/-- The period that ends at 30 is passed over, and the one that ends at 40 is proven at 37. -/
def openedService : Service :=
  (provedService.call ⟨3, 35⟩ (.nextProvingPeriod 1 38 0)).2

def laterProvedService : Service :=
  (openedService.call ⟨3, 37⟩ (.possessionProven 1 5)).2

theorem arbitrate_laterProvedService : ∃ o,
    laterProvedService.call ⟨4, 38⟩ (.arbitrate 1 100 18 38) =
        (.ok (.outcome o), laterProvedService) ∧
      o.amount = 50 ∧ o.settleUpTo = 38 :=
  Service.call_arbitrate_of_eval (by decide +kernel) (by decide +kernel)

theorem settles_laterProvedService (h : Settles 1 5 8 provedService t) (later : t.clock ≤ 35) :
    Settles 1 5 8 laterProvedService
      { t with clock := 37, proving := laterProvedService.state.storageProving? 1 } := by
  have hd : (provedService.state.dataSet? 1).isSome = true := by decide +kernel
  have hopened : openedService.state.dataSetOfRail? 1 = some 1 ∧
      (openedService.state.dataSet? 1).isSome = true := by decide +kernel
  have hproved : laterProvedService.state.dataSetOfRail? 1 = some 1 := by decide +kernel
  have opened : Settles 1 5 8 openedService
      (t.follow 1 8 35 provedService.state openedService.state) :=
    h.next ⟨3, 35⟩ (.nextProvingPeriod 1 38 0) later
  rw [follow_of_known hopened.1 hd] at opened
  have hlater : (35 : Epoch) ≤ 37 := by decide
  have proved : Settles 1 5 8 laterProvedService
      (Settlement.follow _ 1 8 37 openedService.state laterProvedService.state) :=
    opened.next ⟨3, 37⟩ (.possessionProven 1 5) hlater
  rwa [follow_of_known hproved hopened.2] at proved

/--
Of the ten epochs after 8 the nine from the activation on are paid, and of the twenty after these
the two that end the first period and the eight of the third one.
-/
theorem pays_proven_epochs_of_laterProvedService : ∃ t p, Settles 1 5 8 laterProvedService t ∧
    t.proving = some p ∧ t.upTo = 38 ∧ t.paid = 45 + 50 ∧ (p.paidEpochs 8 38).card = 19 := by
  obtain ⟨t, hproved, hclock, hupTo, hpaid, -⟩ := settles_provedService
  obtain ⟨o, ho, hamount, hsettled⟩ := arbitrate_provedService
  rw [← hupTo] at ho
  have hfirst := hproved.settle (by rw [hclock]; decide) (by rw [hupTo]; decide) ho
  have hclock' : (18 : Epoch) ≤ 35 ∧ (37 : Epoch) ≤ 38 := by decide
  have hlater := settles_laterProvedService hfirst hclock'.1
  obtain ⟨o', ho', hamount', hsettled'⟩ := arbitrate_laterProvedService
  rw [← hsettled] at ho'
  have hproposed : (100 : TokenAmount).toNat =
      5 * ((38 : Epoch).toNat - o.settleUpTo.toNat) := by
    rw [hsettled]
    decide
  have hsecond := hlater.settle hclock'.2 hproposed ho'
  have hisSome : (laterProvedService.state.storageProving? 1).isSome = true := by decide +kernel
  obtain ⟨p, hp⟩ := Option.isSome_iff_exists.mp hisSome
  have hpays := hsecond.pays_proven_epochs hp
  rw [hsettled', hpaid, hamount, hamount'] at hpays
  refine ⟨_, p, hsecond, hp, hsettled', ?_, ?_⟩
  · rw [hpaid, hamount, hamount']
    rfl
  · have heq : 0 + 45 + 50 = 5 * (p.paidEpochs 8 38).card := hpays.2.1
    omega

end Settles

end WarmStorage

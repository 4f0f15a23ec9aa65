import WarmStorage.Proofs.Proving.Share
import WarmStorage.Proofs.Service.Frozen
import WarmStorage.Proofs.Service.Loading
import WarmStorage.Proofs.Service.Settlement

/-!
Arbitration in the services that calls lead to: it is refused only when the ledger asks for what it
may not or cannot be told, more proven periods are paid no less, and a range of proven periods is
paid in full.
-/

namespace WarmStorage

variable {s t : Service} {u v : ServiceState} {id : DataSetId} {d : DataSet} {p q : ProvingState}
  {rail : RailId} {proposed : TokenAmount} {after upTo current e : Epoch}
  {o o' : SettlementOutcome} {err : ServiceError} {ctx : CallContext}

theorem ProvingState.Aligned.active_apply {step : ProvingState.Step} (h : p.Aligned)
    (accepted : p.Accepts step)
    (active : ∀ period, p.isPeriodProven period = true → p.activation ≠ 0) :
    ∀ period, (step.apply p).isPeriodProven period = true → (step.apply p).activation ≠ 0 := by
  intro period hproven
  cases accepted with
  | proof hproof =>
    -- a proof is for an open period
    obtain ⟨-, -, unshut, -⟩ := checkProof_eq_ok_iff.mp hproof
    exact (h.open_of_deadline unshut).1
  | advance hadvance =>
    have active := active period hproven
    rw [(Accepts.advance hadvance).activation_apply active]
    exact active

namespace Service

open ServiceState

theorem Effect.active_of_proven {epoch : Epoch} (heffect : Effect epoch s t)
    (aligned : ProvingAligned s.state)
    (h : ∀ id p, s.state.proving? id = some p →
      ∀ period, p.isPeriodProven period = true → p.activation ≠ 0) :
    ∀ id p, t.state.proving? id = some p →
      ∀ period, p.isPeriodProven period = true → p.activation ≠ 0 := by
  intro id q hq
  cases heffect with
  | quiet quiet =>
    rw [proving?, quiet.proving] at hq
    exact h id q hq
  | stepped hp accepted _ eq =>
    rw [eq, proving?_insert] at hq
    split at hq
    · cases hq
      exact (aligned.proving _ _ hp).active_apply accepted (h _ _ hp)
    · exact h id q hq
  | created _ _ _ eq =>
    rw [eq, proving?_registered] at hq
    split at hq
    · cases hq
      intro period hproven
      simp [ProvingState.isPeriodProven] at hproven
    · exact h id q hq
  | deleted _ eq =>
    rw [eq, proving?_withoutDataSet] at hq
    split at hq
    · contradiction
    · exact h id q hq

theorem Reachable.active_of_proven (h : Reachable s) : ∀ id p, s.state.proving? id = some p →
    ∀ period, p.isPeriodProven period = true → p.activation ≠ 0 := by
  induction h with
  | new h =>
    intro id p hp
    rw [(state_of_new h).1] at hp
    simp [ServiceState.ofConfig, ServiceState.proving?] at hp
  | call h hcall ih => exact (effect_of_call hcall).active_of_proven h.provingAligned ih
  | operate op _ ih => exact ih
  | outside providers sessionKeys _ ih => exact ih
  | takeEvents _ ih => exact ih

theorem Reachable.pays_iff (h : Reachable s) (hp : s.state.proving? id = some p) :
    p.Pays e ↔
      p.activation ≤ e ∧ p.isPeriodProven (p.schedule.periodContaining e) = true := by
  constructor
  · exact fun hpays => hpays.2
  · exact fun hproven => ⟨h.active_of_proven id p hp _ hproven.2, hproven⟩

end Service

namespace ServiceState

/-- The state with periods added to the proven ones of its data sets. -/
structure ProvenMore (u v : ServiceState) : Prop where
  same : v = { u with proving := v.proving }
  proving : ∀ id, Option.Rel ProvingState.ProvenMore (u.proving? id) (v.proving? id)

theorem ProvenMore.refl : u.ProvenMore u := by
  refine ⟨rfl, fun id => ?_⟩
  cases u.proving? id with
  | none => exact .none
  | some p => exact .some .refl

theorem provenMore_insert (hp : u.proving? id = some p) (h : p.ProvenMore q) :
    u.ProvenMore { u with proving := u.proving.insert id q } := by
  refine ⟨rfl, fun other => ?_⟩
  rw [proving?_insert]
  split
  · rename_i heq
    rw [← heq, hp]
    exact .some h
  · cases u.proving? other with
    | none => exact .none
    | some p => exact .some .refl

theorem ProvenMore.storageProving? (h : u.ProvenMore v) : Option.Rel ProvingState.ProvenMore
    (u.storageProving? rail) (v.storageProving? rail) := by
  have howner : v.dataSetOfRail? rail = u.dataSetOfRail? rail := by
    rw [h.same]
    rfl
  have hdataSet (id : DataSetId) : v.dataSet? id = u.dataSet? id := by
    rw [h.same]
    rfl
  simp only [ServiceState.storageProving?, Option.bind_eq_bind, howner, hdataSet]
  cases u.dataSetOfRail? rail with
  | none => exact .none
  | some id =>
    rw [Option.bind_some, Option.bind_some]
    cases u.dataSet? id with
    | none => exact .none
    | some d =>
      rw [Option.bind_some, Option.bind_some]
      split
      · exact h.proving id
      · exact .none

theorem ProvenMore.exists_storageProving? (h : u.ProvenMore v)
    (hp : u.storageProving? rail = some p) :
    ∃ q, v.storageProving? rail = some q ∧ p.ProvenMore q := by
  have hrel : Option.Rel _ (u.storageProving? rail) (v.storageProving? rail) := h.storageProving?
  rw [hp] at hrel
  generalize v.storageProving? rail = q? at hrel
  cases hrel with
  | some hmore => exact ⟨_, rfl, hmore⟩

theorem ProvenMore.exists_of_storageProving? (h : u.ProvenMore v)
    (hq : v.storageProving? rail = some q) :
    ∃ p, u.storageProving? rail = some p ∧ p.ProvenMore q := by
  have hrel : Option.Rel _ (u.storageProving? rail) (v.storageProving? rail) := h.storageProving?
  rw [hq] at hrel
  generalize u.storageProving? rail = p? at hrel
  cases hrel with
  | some hmore => exact ⟨_, rfl, hmore⟩

theorem ProvenMore.arbitrate_le (h : u.ProvenMore v)
    (hlen : ∀ p, u.storageProving? rail = some p → 0 < p.params.periodLength)
    (ho : u.arbitrate rail proposed after upTo current = .ok o)
    (ho' : v.arbitrate rail proposed after upTo current = .ok o') :
    o.amount ≤ o'.amount ∧ o.settleUpTo ≤ o'.settleUpTo := by
  obtain ⟨hlt, p, hp⟩ | hunproving := u.proving_or_not rail after upTo
  · obtain ⟨q, hq, hmore⟩ := h.exists_storageProving? hp
    rw [arbitrate_eq hp hlt] at ho
    rw [arbitrate_eq hq hlt] at ho'
    exact hmore.arbitrate_le (hlen p hp) hlt ho ho'
  · -- everything is paid, whatever is proven
    have hunproving' : ∀ q, v.storageProving? rail = some q → upTo ≤ after := by
      intro q hq
      obtain ⟨p, hp, -⟩ := h.exists_of_storageProving? hq
      exact hunproving p hp
    obtain ⟨-, rfl⟩ := eq_of_arbitrate_of_unproving hunproving ho
    obtain ⟨-, rfl⟩ := eq_of_arbitrate_of_unproving hunproving' ho'
    exact ⟨BitVec.le_refl _, UInt64.le_refl _⟩

end ServiceState

namespace Service

open ServiceState

theorem Reachable.length_pos (h : Reachable s) (hp : s.state.storageProving? rail = some p) :
    0 < p.params.periodLength := by
  obtain ⟨id, -, -, -, -, hproving⟩ := storageProving?_eq_some_iff.mp hp
  exact (h.provingAligned.proving id p hproving).length_pos

/--
Proven periods decide what arbitration answers. When periods are added to the proven ones, no less
is paid and no less is settled. A range of a storage rail whose epochs all lie in proven periods
after the activation is paid in full and settled to its end, and nothing is paid for a range
without such epochs.
-/
theorem Reachable.arbitrate_of_provenMore (h : Reachable s) :
    (∀ id p, s.state.proving? id = some p → ∀ e, p.Pays e ↔
      p.activation ≤ e ∧ p.isPeriodProven (p.schedule.periodContaining e) = true) ∧
    ∀ v, s.state.ProvenMore v → ∀ ctx rail proposed after upTo o' t,
      ({ s with state := v } : Service).call ctx (.arbitrate rail proposed after upTo) =
        (.ok (.outcome o'), t) →
      (∀ o s', s.call ctx (.arbitrate rail proposed after upTo) = (.ok (.outcome o), s') →
        o.amount ≤ o'.amount ∧ o.settleUpTo ≤ o'.settleUpTo) ∧
      ∀ q, v.storageProving? rail = some q → q.PaysInFull proposed after upTo o' := by
  refine ⟨fun id p hp e => h.pays_iff hp, ?_⟩
  intro v hmore ctx rail proposed after upTo o' t hcall'
  have ho' : v.arbitrate rail proposed after upTo ctx.epoch = .ok o' :=
    (arbitrate_of_call hcall').1
  constructor
  · intro o s' hcall
    exact hmore.arbitrate_le (fun p => h.length_pos) (arbitrate_of_call hcall).1 ho'
  · intro q hq
    obtain ⟨p, hp, hpq⟩ := hmore.exists_of_storageProving? hq
    obtain ⟨hlt, ho'⟩ := arbitrate_of_storageProving? hq ho'
    have hlen : 0 < q.params.periodLength := by
      rw [hpq.params_eq]
      exact h.length_pos hp
    exact ProvingState.paysInFull_of_arbitrate hlen hlt ho'

theorem reachable_provedService : Reachable Settles.provedService :=
  (reachable_createdService.call (call_eq_of_answer rfl)).call (call_eq_of_answer rfl)

def provenTwice : ServiceState :=
  let p := (Settles.provedService.state.proving? 1).get (by decide +kernel)
  { Settles.provedService.state with
    proving := Settles.provedService.state.proving.insert 1
      { p with proven := p.proven.insert 1 } }

theorem provenMore_provenTwice : Settles.provedService.state.ProvenMore provenTwice := by
  apply provenMore_insert (Option.some_get _).symm
  refine ⟨rfl, fun period hproven => ?_⟩
  rw [ProvingState.isPeriodProven] at hproven ⊢
  rw [ProvenPeriods.contains_insert, hproven, Bool.true_or]

/--
Of the 20 epochs after 8 eleven are paid first, and then 19. Those after 12 are all paid then, and
those of the second period were not.
-/
theorem arbitrate_of_provenMore_provenTwice :
    (∃ o o', Settles.provedService.call ⟨4, 28⟩ (.arbitrate 1 100 8 28) =
        (.ok (.outcome o), Settles.provedService) ∧
      ({ Settles.provedService with state := provenTwice } : Service).call ⟨4, 28⟩
        (.arbitrate 1 100 8 28) =
          (.ok (.outcome o'), { Settles.provedService with state := provenTwice }) ∧
      o.amount = 55 ∧ o'.amount = 95 ∧ o.amount ≤ o'.amount ∧
      o.settleUpTo = 20 ∧ o'.settleUpTo = 28 ∧ o.settleUpTo ≤ o'.settleUpTo) ∧
    (∃ o, ({ Settles.provedService with state := provenTwice } : Service).call ⟨4, 28⟩
        (.arbitrate 1 100 12 28) =
          (.ok (.outcome o), { Settles.provedService with state := provenTwice }) ∧
      o.amount = 100 ∧ o.settleUpTo = 28) ∧
    ∃ o, Settles.provedService.call ⟨4, 28⟩ (.arbitrate 1 100 20 28) =
      (.ok (.outcome o), Settles.provedService) ∧ o.amount = 0 := by
  have hbefore (after : Epoch) (amount : TokenAmount) (h : (Settles.provedService.state.arbitrate 1
      100 after 28 28).toOption.map (fun o => (o.amount, o.settleUpTo)) = some (amount, 20)) :
      ∃ o, Settles.provedService.call ⟨4, 28⟩ (.arbitrate 1 100 after 28) =
        (.ok (.outcome o), Settles.provedService) ∧ o.amount = amount ∧ o.settleUpTo = 20 :=
    call_arbitrate_of_eval (by decide +kernel) h
  have hafter (after : Epoch) (amount : TokenAmount) (h : (provenTwice.arbitrate 1 100 after 28
      28).toOption.map (fun o => (o.amount, o.settleUpTo)) = some (amount, 28)) :
      ∃ o, ({ Settles.provedService with state := provenTwice } : Service).call ⟨4, 28⟩
        (.arbitrate 1 100 after 28) =
          (.ok (.outcome o), { Settles.provedService with state := provenTwice }) ∧
        o.amount = amount ∧ o.settleUpTo = 28 :=
    call_arbitrate_of_eval (by decide +kernel) h
  obtain ⟨p, hp⟩ : ∃ p, Settles.provedService.state.storageProving? 1 = some p :=
    Option.isSome_iff_exists.mp (by decide +kernel)
  obtain ⟨q, hq⟩ : ∃ q, provenTwice.storageProving? 1 = some q :=
    Option.isSome_iff_exists.mp (by decide +kernel)
  have hpays : ∀ n ∈ Finset.Ioc 12 28,
      (provenTwice.storageProving? 1).all (·.Pays (UInt64.ofNat n)) = true := by
    decide +kernel
  have hunpaid : ∀ n ∈ Finset.Ioc 20 28,
      (Settles.provedService.state.storageProving? 1).all (¬ ·.Pays (UInt64.ofNat n)) = true := by
    decide +kernel
  have mem_Ioc {after upTo e : Epoch} (hlo : after < e) (hhi : e ≤ upTo) :
      e.toNat ∈ Finset.Ioc after.toNat upTo.toNat :=
    Finset.mem_Ioc.mpr ⟨UInt64.lt_iff_toNat_lt.mp hlo, UInt64.le_iff_toNat_le.mp hhi⟩
  obtain ⟨o, ho, hamount, hsettled⟩ := hbefore 8 55 (by decide +kernel)
  obtain ⟨o', ho', hamount', hsettled'⟩ := hafter 8 95 (by decide +kernel)
  obtain ⟨o₂, ho₂, -, -⟩ := hafter 12 100 (by decide +kernel)
  obtain ⟨o₃, ho₃, -, -⟩ := hbefore 20 0 (by decide +kernel)
  obtain ⟨-, h⟩ := Reachable.arbitrate_of_provenMore reachable_provedService
  have hle := (h provenTwice provenMore_provenTwice _ _ _ _ _ _ _ ho').1 o _ ho
  have hfull := (h provenTwice provenMore_provenTwice _ _ _ _ _ _ _ ho₂).2 q hq
  have hnone := (h Settles.provedService.state .refl _ _ _ _ _ _ _ ho₃).2 p hp
  refine ⟨⟨o, o', ho, ho', hamount, hamount', hle.1, hsettled, hsettled', hle.2⟩,
    ⟨o₂, ho₂, ?_⟩, o₃, ho₃, ?_⟩
  · apply hfull.all
    intro e hlo hhi
    have he := hpays e.toNat (mem_Ioc hlo hhi)
    rw [hq, UInt64.ofNat_toNat] at he
    simpa using he
  · apply hnone.none
    intro e hlo hhi
    have he := hunpaid e.toNat (mem_Ioc hlo hhi)
    rw [hp, UInt64.ofNat_toNat] at he
    simpa using he

end Service

namespace ServiceState

theorem arbitrate_eq_error_iff
    (howned : ∀ id, u.dataSetOfRail? rail = some id →
      ∃ d p, u.dataSet? id = some d ∧ u.proving? id = some p) :
    u.arbitrate rail proposed after upTo current = .error err ↔
      u.dataSetOfRail? rail = none ∧ err = .railNotAssociated rail ∨
        (∃ id, u.dataSetOfRail? rail = some id) ∧ upTo ≤ after ∧
          err = .invalidEpochRange after upTo ∨
        after < upTo ∧ ∃ p, u.storageProving? rail = some p ∧
          p.arbitrate proposed after upTo current = .error err := by
  unfold arbitrate
  cases hid : u.dataSetOfRail? rail with
  | none =>
    have hproving : u.storageProving? rail = none := by simp [ServiceState.storageProving?, hid]
    simp [hproving, eq_comm]
  | some id =>
    obtain ⟨d, p, hd, hp⟩ := howned id hid
    by_cases hle : upTo ≤ after
    · simp [hle, UInt64.not_lt.mpr hle, eq_comm]
    have hlt := UInt64.not_le.mp hle
    by_cases hrail : rail = d.storageRail
    · have hproving : u.storageProving? rail = some p :=
        storageProving?_eq_some_iff.mpr ⟨id, d, hid, hd, hrail, hp⟩
      simp [hle, hlt, hd, hp, hproving, ← hrail]
    · simp [storageProving?_eq_some_iff, hid, hle, hlt, hd, hrail]

end ServiceState

namespace Service

open ServiceM ServiceState

/-- Why the ledger is not answered. A reason counts when none of those before it does. -/
inductive ArbitrationRefused (s : Service) (ctx : CallContext) (rail : RailId)
    (proposed : TokenAmount) (after upTo : Epoch) : ServiceError → Prop
  | notPayments (hcaller : ctx.caller ≠ s.state.config.payments) :
    ArbitrationRefused s ctx rail proposed after upTo (.notPayments ctx.caller)
  | notAssociated (hcaller : ctx.caller = s.state.config.payments)
      (hrail : ∀ id, ¬ s.state.HasRail id rail) :
    ArbitrationRefused s ctx rail proposed after upTo (.railNotAssociated rail)
  | emptyRange {id : DataSetId} (hcaller : ctx.caller = s.state.config.payments)
      (hrail : s.state.HasRail id rail) (hle : upTo ≤ after) :
    ArbitrationRefused s ctx rail proposed after upTo (.invalidEpochRange after upTo)
  | beforeActivation {p : ProvingState} (hcaller : ctx.caller = s.state.config.payments)
      (hp : s.state.storageProving? rail = some p) (hlt : after < upTo)
      (active : p.activation ≠ 0) (hbefore : upTo < p.activation) :
    ArbitrationRefused s ctx rail proposed after upTo
      (.settlement (.beforeActivation upTo p.activation))
  | inFuture {p : ProvingState} (hcaller : ctx.caller = s.state.config.payments)
      (hp : s.state.storageProving? rail = some p) (hlt : after < upTo)
      (active : p.activation ≠ 0) (hafter : p.activation ≤ upTo) (hfuture : ctx.epoch < upTo) :
    ArbitrationRefused s ctx rail proposed after upTo (.settlement (.inFuture upTo ctx.epoch))
  | tooMuch {p : ProvingState} (hcaller : ctx.caller = s.state.config.payments)
      (hp : s.state.storageProving? rail = some p) (hlt : after < upTo)
      (active : p.activation ≠ 0) (hafter : p.activation ≤ upTo) (hpast : upTo ≤ ctx.epoch)
      (hlarge : UInt256.size ≤ proposed.toNat * p.paidCount after upTo) :
    ArbitrationRefused s ctx rail proposed after upTo (.overflow "modified amount")

theorem Reachable.dataSetOfRail?_eq_none_iff (h : Reachable s)
    (room : s.ledger.rails.size < UInt64.size) :
    s.state.dataSetOfRail? rail = none ↔ ∀ id, ¬ s.state.HasRail id rail := by
  rw [Option.eq_none_iff_forall_ne_some]
  exact forall_congr' fun id => not_congr ((h.railsIndexed room).owner_iff rail id)

theorem Reachable.storageProving?_eq_some_iff (h : Reachable s)
    (room : s.ledger.rails.size < UInt64.size) : s.state.storageProving? rail = some p ↔
      ∃ id d, s.state.dataSet? id = some d ∧ rail = d.storageRail ∧
        s.state.proving? id = some p := by
  rw [ServiceState.storageProving?_eq_some_iff]
  refine exists_congr fun id => exists_congr fun d => ⟨And.right, fun hproving => ⟨?_, hproving⟩⟩
  obtain ⟨hd, hrail, -⟩ := hproving
  rw [(h.railsIndexed room).owner_iff]
  exact ⟨d, hd, hrail ▸ List.mem_cons_self ..⟩

theorem Reachable.arbitrate_eq_error_iff (h : Reachable s)
    (room : s.ledger.rails.size < UInt64.size) (hcaller : ctx.caller = s.state.config.payments) :
    s.state.arbitrate rail proposed after upTo ctx.epoch = .error err ↔
      s.ArbitrationRefused ctx rail proposed after upTo err := by
  have howned (id : DataSetId) (hid : s.state.dataSetOfRail? rail = some id) :
      ∃ d p, s.state.dataSet? id = some d ∧ s.state.proving? id = some p := by
    obtain ⟨d, hd, -⟩ := ((h.railsIndexed room).owner_iff rail id).mp hid
    have hproving := h.indexed.proving id
    rw [hd, Option.isSome_some] at hproving
    obtain ⟨p, hp⟩ := Option.isSome_iff_exists.mp hproving
    exact ⟨d, p, hd, hp⟩
  rw [ServiceState.arbitrate_eq_error_iff howned, h.dataSetOfRail?_eq_none_iff room]
  simp only [(h.railsIndexed room).owner_iff]
  constructor
  · rintro (⟨hrail, rfl⟩ | ⟨⟨id, hrail⟩, hle, rfl⟩ | ⟨hlt, p, hp, herr⟩)
    · exact .notAssociated hcaller hrail
    · exact .emptyRange hcaller hrail hle
    · obtain ⟨active, hrefused⟩ :=
        (ProvingState.arbitrate_eq_error_iff (h.length_pos hp) hlt).mp herr
      obtain ⟨hbefore, rfl⟩ | ⟨hafter, hfuture, rfl⟩ | ⟨hafter, hpast, hlarge, rfl⟩ := hrefused
      · exact .beforeActivation hcaller hp hlt active hbefore
      · exact .inFuture hcaller hp hlt active hafter hfuture
      · exact .tooMuch hcaller hp hlt active hafter hpast hlarge
  · intro hrefused
    cases hrefused with
    | notPayments hother => exact absurd hcaller hother
    | notAssociated _ hrail => exact .inl ⟨hrail, rfl⟩
    | emptyRange _ hrail hle => exact .inr (.inl ⟨⟨_, hrail⟩, hle, rfl⟩)
    | beforeActivation _ hp hlt active hbefore =>
      refine .inr (.inr ⟨hlt, _, hp, ?_⟩)
      rw [ProvingState.arbitrate_eq_error_iff (h.length_pos hp) hlt]
      exact ⟨active, .inl ⟨hbefore, rfl⟩⟩
    | inFuture _ hp hlt active hafter hfuture =>
      refine .inr (.inr ⟨hlt, _, hp, ?_⟩)
      rw [ProvingState.arbitrate_eq_error_iff (h.length_pos hp) hlt]
      exact ⟨active, .inr (.inl ⟨hafter, hfuture, rfl⟩)⟩
    | tooMuch _ hp hlt active hafter hpast hlarge =>
      refine .inr (.inr ⟨hlt, _, hp, ?_⟩)
      rw [ProvingState.arbitrate_eq_error_iff (h.length_pos hp) hlt]
      exact ⟨active, .inr (.inr ⟨hafter, hpast, hlarge, rfl⟩)⟩

theorem Reachable.call_arbitrate_eq_error_iff (h : Reachable s)
    (room : s.ledger.rails.size < UInt64.size) :
    s.call ctx (.arbitrate rail proposed after upTo) = (.error err, t) ↔
      t = s ∧ s.ArbitrationRefused ctx rail proposed after upTo err := by
  have hanswer : s.call ctx (.arbitrate rail proposed after upTo) = (.error err, t) ↔
      Fails (ServiceM.arbitrate ctx rail proposed after upTo) s err t := by
    rw [call_eq_error_iff, perform, fails_bind]
    simp
  rw [hanswer, fails_arbitrate]
  refine and_congr_right fun _ => ?_
  by_cases hcaller : ctx.caller = s.state.config.payments
  · simp only [hcaller, not_true, ne_eq, false_and, false_or, true_and]
    exact h.arbitrate_eq_error_iff room hcaller
  · simp only [hcaller, not_false_eq_true, ne_eq, true_and, false_and, or_false]
    constructor
    · rintro rfl
      exact .notPayments hcaller
    · intro hrefused
      cases hrefused with
      | notPayments => rfl
      | _ => contradiction

theorem ArbitrationRefused.avoids
    (h : s.ArbitrationRefused ctx rail proposed after upTo err) :
    (∀ id, err ≠ .dataSetNotFound id) ∧ (∀ quantity, err ≠ .divisionByZero quantity) ∧
      err ≠ .settlement .provenEpochsOverflow ∧ err ≠ .overflow "proven epochs" ∧
      ∀ operation, err ≠ .settlement (.breakdown operation) := by
  cases h with
  | tooMuch => simp
  | _ => simp

theorem exists_arbitrationRefused_iff :
    (∃ err, s.ArbitrationRefused ctx rail proposed after upTo err) ↔
      ctx.caller ≠ s.state.config.payments ∨ (∀ id, ¬ s.state.HasRail id rail) ∨ upTo ≤ after ∨
        ∃ p, s.state.storageProving? rail = some p ∧ p.activation ≠ 0 ∧
          (upTo < p.activation ∨ ctx.epoch < upTo ∨
            UInt256.size ≤ proposed.toNat * p.paidCount after upTo) := by
  constructor
  · rintro ⟨err, hrefused⟩
    cases hrefused with
    | notPayments hcaller => exact .inl hcaller
    | notAssociated _ hrail => exact .inr (.inl hrail)
    | emptyRange _ _ hle => exact .inr (.inr (.inl hle))
    | beforeActivation _ hp _ active hbefore =>
      exact .inr (.inr (.inr ⟨_, hp, active, .inl hbefore⟩))
    | inFuture _ hp _ active _ hfuture =>
      exact .inr (.inr (.inr ⟨_, hp, active, .inr (.inl hfuture)⟩))
    | tooMuch _ hp _ active _ _ hlarge =>
      exact .inr (.inr (.inr ⟨_, hp, active, .inr (.inr hlarge)⟩))
  · -- the first reason that counts is the one that is given
    intro hreason
    by_cases hcaller : ctx.caller = s.state.config.payments
    case neg => exact ⟨_, .notPayments hcaller⟩
    by_cases hrail : ∃ id, s.state.HasRail id rail
    case neg => exact ⟨_, .notAssociated hcaller (not_exists.mp hrail)⟩
    by_cases hle : upTo ≤ after
    case pos => exact ⟨_, .emptyRange hcaller hrail.choose_spec hle⟩
    obtain hother | hnone | hempty | ⟨p, hp, active, hreason⟩ := hreason
    · exact absurd hcaller hother
    · exact absurd hrail (not_exists.mpr hnone)
    · exact absurd hempty hle
    have hlt := UInt64.not_le.mp hle
    by_cases hbefore : upTo < p.activation
    case pos => exact ⟨_, .beforeActivation hcaller hp hlt active hbefore⟩
    have hafter := UInt64.not_lt.mp hbefore
    by_cases hfuture : ctx.epoch < upTo
    case pos => exact ⟨_, .inFuture hcaller hp hlt active hafter hfuture⟩
    have hlarge := (hreason.resolve_left hbefore).resolve_left hfuture
    exact ⟨_, .tooMuch hcaller hp hlt active hafter (UInt64.not_lt.mp hfuture) hlarge⟩

/--
Arbitration is refused exactly when someone else than the ledger asks, the rail belongs to no data
set, the range is empty, or it is a range of the storage rail of a data set whose proving was
activated that ends before the activation or in the future, or for which the product of the amount
and the paid epochs is no amount. A data set is never missing, the epochs are always counted, and
nothing is divided by zero or breaks down. The ledger must hold fewer rails than there are numbers
for them, as any does.
-/
theorem Reachable.arbitrate_refused_iff (h : Reachable s)
    (room : s.ledger.rails.size < UInt64.size) :
    ((∃ err t, s.call ctx (.arbitrate rail proposed after upTo) = (.error err, t)) ↔
      ctx.caller ≠ s.state.config.payments ∨ (∀ id, ¬ s.state.HasRail id rail) ∨ upTo ≤ after ∨
        ∃ id d p, s.state.dataSet? id = some d ∧ rail = d.storageRail ∧
          s.state.proving? id = some p ∧ p.activation ≠ 0 ∧
          (upTo < p.activation ∨ ctx.epoch < upTo ∨
            UInt256.size ≤ proposed.toNat * (p.paidEpochs after.toNat upTo.toNat).card)) ∧
    ∀ err t, s.call ctx (.arbitrate rail proposed after upTo) = (.error err, t) →
      t = s ∧ (∀ id, err ≠ .dataSetNotFound id) ∧ (∀ quantity, err ≠ .divisionByZero quantity) ∧
        err ≠ .settlement .provenEpochsOverflow ∧ err ≠ .overflow "proven epochs" ∧
        ∀ operation, err ≠ .settlement (.breakdown operation) := by
  simp only [h.call_arbitrate_eq_error_iff room]
  refine ⟨?_, fun err t hrefused => ⟨hrefused.1, hrefused.2.avoids⟩⟩
  have hexists : (∃ err t, t = s ∧ s.ArbitrationRefused ctx rail proposed after upTo err) ↔
      ∃ err, s.ArbitrationRefused ctx rail proposed after upTo err := by
    simp
  rw [hexists, exists_arbitrationRefused_iff]
  simp only [h.storageProving?_eq_some_iff room]
  refine or_congr_right (or_congr_right (or_congr_right ?_))
  constructor
  · rintro ⟨p, ⟨id, d, hd, hrail, hproving⟩, hreason⟩
    exact ⟨id, d, p, hd, hrail, hproving, hreason⟩
  · rintro ⟨id, d, p, hd, hrail, hproving, hreason⟩
    exact ⟨p, ⟨id, d, hd, hrail, hproving⟩, hreason⟩

/-- Nine epochs are paid after 8 and up to 18, and nine times the largest amount is no amount. -/
theorem arbitrate_refused_iff_provedService :
    Settles.provedService.ledger.rails.size < UInt64.size ∧
    ∃ err, Settles.provedService.call ⟨4, 18⟩ (.arbitrate 1 UInt256.largest 8 18) =
        (.error err, Settles.provedService) ∧
      ∀ id, err ≠ .dataSetNotFound id := by
  have room : Settles.provedService.ledger.rails.size < UInt64.size := by decide +kernel
  have hlarge : (Settles.provedService.state.proving? 1).any (fun p => p.activation != 0 &&
      decide (UInt256.size ≤ UInt256.largest.toNat * (p.paidEpochs 8 18).card)) = true := by
    decide +kernel
  have hrail : (Settles.provedService.state.dataSet? 1).any (·.storageRail = 1) = true := by
    decide +kernel
  obtain ⟨p, hp, hlarge⟩ := (Option.any_eq_true _ _).mp hlarge
  obtain ⟨d, hd, hrail⟩ := (Option.any_eq_true _ _).mp hrail
  rw [Bool.and_eq_true, bne_iff_ne, decide_eq_true_iff] at hlarge
  rw [decide_eq_true_iff] at hrail
  obtain ⟨hiff, hrefused⟩ := Reachable.arbitrate_refused_iff reachable_provedService room
  obtain ⟨err, t, hcall⟩ : ∃ err t,
      Settles.provedService.call ⟨4, 18⟩ (.arbitrate 1 UInt256.largest 8 18) = (.error err, t) :=
    hiff.mpr (.inr (.inr (.inr ⟨1, d, p, hd, hrail.symm, hp, hlarge.1, .inr (.inr hlarge.2)⟩)))
  obtain ⟨rfl, hfound, -⟩ := hrefused err t hcall
  exact ⟨room, err, hcall, hfound⟩

end Service

end WarmStorage

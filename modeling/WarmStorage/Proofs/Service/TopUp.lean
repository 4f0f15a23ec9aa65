import WarmStorage.Proofs.Ledger.Conservation
import WarmStorage.Proofs.Service.Contracts

/-!
Top-ups of the lockups for egress. The rails over and past the CDN take from the same allowance and
the same account, and each raise is only examined when it is made. So a top-up goes through exactly
if both raises are covered together, and if the first is covered and the second is not after it, the
top-up is refused and the first one stays.
-/

namespace WarmStorage

namespace Ledger

variable {l l' : Ledger} {id : RailId} {r q : Rail} {amount lockup amount' lockup' : TokenAmount}
  {taken : Nat}

def CoversRaise (l : Ledger) (taken : Nat) (r : Rail) (amount lockup : TokenAmount) : Prop :=
  amount = 0 ∨ l.Affords r.token r.payer r.operator r.lockupPeriod (taken + r.growth lockup)

theorem exists_lockupRaised_iff (hr : l.rail? id = some r) (live : r.isTerminated = false) :
    (∃ l', ServiceM.LockupRaised l id r amount lockup l') ↔ l.CoversRaise 0 r amount lockup := by
  unfold ServiceM.LockupRaised CoversRaise
  rw [Nat.zero_add, ← exists_modifyLockup_iff hr live]
  by_cases hamount : amount = 0
  · simp [hamount]
  · simp only [hamount, ne_eq, not_false_eq_true, true_and, false_and, false_or]

theorem eq_lockupFixed (h : UInt256.exactAdd? r.lockupFixed 0 = some lockup) :
    lockup = r.lockupFixed := by
  apply BitVec.eq_of_toNat_eq
  simpa using UInt256.fit?_eq_some_iff.mp h

theorem coversRaise_of_lockupRaised (covered : l.Counted (· ≤ ·)) (hr : l.rail? id = some r)
    (hlockup : UInt256.exactAdd? r.lockupFixed amount = some lockup)
    (same : q.token = r.token ∧ q.payer = r.payer ∧ q.operator = r.operator)
    (h : ServiceM.LockupRaised l id r amount lockup l') :
    l'.CoversRaise 0 q amount' lockup' ↔ l.CoversRaise (r.growth lockup) q amount' lockup' := by
  obtain ⟨htoken, hpayer, hoperator⟩ := same
  unfold CoversRaise
  rw [htoken, hpayer, hoperator, Nat.zero_add]
  refine or_congr_right ?_
  obtain ⟨rfl, rfl⟩ | ⟨-, h⟩ := h
  · -- nothing is added, so nothing is taken
    rw [eq_lockupFixed hlockup, r.growth_lockupFixed, Nat.zero_add]
  · apply affords_modifyLockup_iff covered hr _ h
    rw [BitVec.le_def, UInt256.fit?_eq_some_iff.mp hlockup]
    exact Nat.le_add_right _ _

theorem rails_of_lockupRaised (hr : l.rail? id = some r)
    (hlockup : UInt256.exactAdd? r.lockupFixed amount = some lockup)
    (h : ServiceM.LockupRaised l id r amount lockup l') (other : RailId) :
    l'.rail? other = if id = other then some (r.withFixed lockup) else l.rail? other := by
  obtain ⟨rfl, rfl⟩ | ⟨-, h⟩ := h
  · split
    · rename_i hid
      rw [← hid, hr, eq_lockupFixed hlockup]
      rfl
    · rfl
  · obtain ⟨old, hold, -, hrails⟩ := rail?_of_modifyLockup h
    rw [hr, Option.some.injEq] at hold
    rw [hrails other, hold]
    rfl

end Ledger

namespace Service

open ServiceM

variable {s s' t : Service} {id : DataSetId} {d d' : DataSet} {rail cdnRail cacheMissRail : RailId}
  {r cdn cacheMiss : Rail} {ctx : CallContext}
  {cdnAmount cacheMissAmount cdnLockup cacheMissLockup : TokenAmount}
  {answer : Except ServiceError Reply} {e : ServiceError}

def OperatesEgress (s : Service) (d : DataSet) : Prop :=
  ∀ rail ∈ d.egressRails, ∃ r, s.ledger.rail? rail = some r ∧
    r.operator = s.state.config.serviceAddress

theorem OperatesEgress.of_keepsRails (h : s.OperatesEgress d) (contract : d'.contract = d.contract)
    (parties : s.state.config.SameParties s'.state.config)
    (rails : s.ledger.KeepsRails s'.ledger) : s'.OperatesEgress d' := by
  intro rail hrail
  rw [DataSet.egressRails_of_contract contract] at hrail
  obtain ⟨r, hr, hoperator⟩ := h rail hrail
  obtain ⟨r', hr', hsame, -⟩ := rails _ r hr
  refine ⟨r', hr', ?_⟩
  rw [hsame, hoperator, parties]

theorem operatesEgress_of_railsOpened {withCdn : Bool}
    (parties : s.state.config.SameParties s'.state.config)
    (h : RailsOpened s.ledger s.state.config (storageTerms s.state.config d.payer d.payee) withCdn
      d.storageRail (d.cacheMissRail, d.cdnRail) s'.ledger) : s'.OperatesEgress d := by
  intro rail hrail
  obtain ⟨payee, fixed, hr⟩ := h.exists_egress hrail
  refine ⟨_, hr, ?_⟩
  rw [parties]
  rfl

theorem Reachable.operatesEgress (h : Reachable s) (room : s.ledger.rails.size < UInt64.size)
    (hd : s.state.dataSet? id = some d) : s.OperatesEgress d := by
  induction h generalizing id d with
  | new h =>
    rw [dataSet?_of_new h] at hd
    contradiction
  | call h hcall ih =>
    have reaches := reaches_of_call hcall
    have room' := Nat.lt_of_le_of_lt reaches.size_le room
    obtain ⟨parties, -, dataSets⟩ := outcome_of_call h.indexed hcall
    obtain ⟨d', hd', contract⟩ | ⟨_, -, hrails⟩ := (dataSets id d hd).contract_or_created
    · exact (ih room' hd').of_keepsRails contract parties (h.keepsRails reaches room)
    · exact operatesEgress_of_railsOpened parties hrails
  | operate op h ih =>
    have room' := Nat.lt_of_le_of_lt Ledger.reaches_operate.size_le room
    have rails := Ledger.reaches_operate.keepsRails (h.numbered room') room
    exact (ih room' hd).of_keepsRails rfl rfl rails
  | outside providers sessionKeys _ ih => exact (ih room hd).of_keepsRails rfl rfl .refl
  | takeEvents _ ih => exact (ih room hd).of_keepsRails rfl rfl .refl

theorem Reachable.egress_terms (h : Reachable s) (room : s.ledger.rails.size < UInt64.size)
    (hd : s.state.dataSet? id = some d) (hrail : rail ∈ d.egressRails)
    (hr : s.ledger.rail? rail = some r) :
    r.token = s.state.config.token ∧ r.payer = d.payer ∧
      r.operator = s.state.config.serviceAddress := by
  obtain ⟨q, hq, htoken, hpayer⟩ := (h.contracted room hd).egress rail hrail
  obtain ⟨q', hq', hoperator⟩ := h.operatesEgress room hd rail hrail
  rw [hr, Option.some.injEq] at hq hq'
  subst hq hq'
  exact ⟨htoken, hpayer, hoperator⟩

theorem Reachable.exists_lockupRaised_iff (hs : Reachable s)
    (room : s.ledger.rails.size < UInt64.size)
    (h : TopUpChecked ctx id cdnAmount cacheMissAmount s d cdnRail cacheMissRail cdn cacheMiss
      cdnLockup cacheMissLockup) {l : Ledger}
    (hl : LockupRaised s.ledger cdnRail cdn cdnAmount cdnLockup l) :
    (∃ l', LockupRaised l cacheMissRail cacheMiss cacheMissAmount cacheMissLockup l') ↔
      s.ledger.CoversRaise (cdn.growth cdnLockup) cacheMiss cacheMissAmount cacheMissLockup := by
  obtain ⟨hcdn, hcacheMiss, hne⟩ := egressRails_of_indexed hs.indexed h.dataSet_eq h.cdnRail_eq
    h.cacheMissRail_eq
  obtain ⟨htoken, hpayer, hoperator⟩ := hs.egress_terms room h.dataSet_eq hcdn h.cdn_eq
  obtain ⟨htoken', hpayer', hoperator'⟩ :=
    hs.egress_terms room h.dataSet_eq hcacheMiss h.cacheMiss_eq
  have hr : l.rail? cacheMissRail = some cacheMiss := by
    rw [rail?_of_lockupRaised hl hne]
    exact h.cacheMiss_eq
  rw [Ledger.exists_lockupRaised_iff hr h.cacheMiss_live]
  exact Ledger.coversRaise_of_lockupRaised hs.ledger.covered h.cdn_eq h.cdnLockup_eq
    ⟨htoken'.trans htoken.symm, hpayer'.trans hpayer.symm, hoperator'.trans hoperator.symm⟩ hl

structure TopUpCovered (ctx : CallContext) (id : DataSetId)
    (cdnAmount cacheMissAmount : TokenAmount) (s : Service) (d : DataSet)
    (cdnRail cacheMissRail : RailId) (cdn cacheMiss : Rail)
    (cdnLockup cacheMissLockup : TokenAmount) : Prop where
  checked : TopUpChecked ctx id cdnAmount cacheMissAmount s d cdnRail cacheMissRail cdn cacheMiss
    cdnLockup cacheMissLockup
  first : s.ledger.CoversRaise 0 cdn cdnAmount cdnLockup
  both : s.ledger.CoversRaise (cdn.growth cdnLockup) cacheMiss cacheMissAmount cacheMissLockup

structure TopUpHalfCovered (ctx : CallContext) (id : DataSetId)
    (cdnAmount cacheMissAmount : TokenAmount) (s : Service) (d : DataSet)
    (cdnRail cacheMissRail : RailId) (cdn cacheMiss : Rail)
    (cdnLockup cacheMissLockup : TokenAmount) : Prop where
  checked : TopUpChecked ctx id cdnAmount cacheMissAmount s d cdnRail cacheMissRail cdn cacheMiss
    cdnLockup cacheMissLockup
  cdnAmount_ne : cdnAmount ≠ 0
  first : s.ledger.CoversRaise 0 cdn cdnAmount cdnLockup
  not_both : ¬ s.ledger.CoversRaise (cdn.growth cdnLockup) cacheMiss cacheMissAmount
    cacheMissLockup

theorem Reachable.succeeds_topUpEgress_iff (hs : Reachable s)
    (room : s.ledger.rails.size < UInt64.size) :
    (∃ t, Succeeds (topUpEgress ctx id cdnAmount cacheMissAmount) s () t) ↔
      ∃ d cdnRail cacheMissRail cdn cacheMiss cdnLockup cacheMissLockup,
        TopUpCovered ctx id cdnAmount cacheMissAmount s d cdnRail cacheMissRail cdn cacheMiss
          cdnLockup cacheMissLockup := by
  constructor
  · rintro ⟨t, h⟩
    obtain ⟨d, cdnRail, cacheMissRail, cdn, cacheMiss, cdnLockup, cacheMissLockup, l, l', h, hl,
      hl', -⟩ := succeeds_topUpEgress.mp h
    refine ⟨d, cdnRail, cacheMissRail, cdn, cacheMiss, cdnLockup, cacheMissLockup, h, ?_, ?_⟩
    · exact (Ledger.exists_lockupRaised_iff h.cdn_eq h.cdn_live).mp ⟨l, hl⟩
    · exact (hs.exists_lockupRaised_iff room h hl).mp ⟨l', hl'⟩
  · rintro ⟨d, cdnRail, cacheMissRail, cdn, cacheMiss, cdnLockup, cacheMissLockup, h, hfirst,
      hboth⟩
    obtain ⟨l, hl⟩ := (Ledger.exists_lockupRaised_iff h.cdn_eq h.cdn_live).mpr hfirst
    obtain ⟨l', hl'⟩ := (hs.exists_lockupRaised_iff room h hl).mpr hboth
    exact ⟨_, succeeds_topUpEgress.mpr ⟨d, cdnRail, cacheMissRail, cdn, cacheMiss, cdnLockup,
      cacheMissLockup, l, l', h, hl, hl', rfl⟩⟩

structure HalfToppedUp (cdnRail : RailId) (cdn : Rail) (cdnLockup : TokenAmount)
    (s t : Service) : Prop where
  raised : s.ledger.modifyLockup cdnRail cdn.lockupPeriod cdnLockup = .ok t.ledger
  rails : ∀ other, t.ledger.rail? other =
    if cdnRail = other then some (cdn.withFixed cdnLockup) else s.ledger.rail? other
  recounted : s.ledger.Recounted cdn (cdn.withFixed cdnLockup) t.ledger

theorem TopUpHalfCovered.ne (h : TopUpHalfCovered ctx id cdnAmount cacheMissAmount s d cdnRail
    cacheMissRail cdn cacheMiss cdnLockup cacheMissLockup)
    (half : HalfToppedUp cdnRail cdn cdnLockup s t) : t ≠ s := by
  rintro rfl
  have hrail := half.rails cdnRail
  rw [if_pos rfl, h.checked.cdn_eq, Option.some.injEq] at hrail
  have hsame : cdn.lockupFixed = cdnLockup := congrArg Rail.lockupFixed hrail
  have hlockup := h.checked.toNat_lockups.1
  rw [← hsame] at hlockup
  apply h.cdnAmount_ne
  apply BitVec.eq_of_toNat_eq
  simpa using hlockup

theorem Reachable.halfToppedUp (hs : Reachable s) (h : TopUpHalfCovered ctx id cdnAmount
    cacheMissAmount s d cdnRail cacheMissRail cdn cacheMiss cdnLockup cacheMissLockup)
    (hfails : Fails (topUpEgress ctx id cdnAmount cacheMissAmount) s e t) :
    HalfToppedUp cdnRail cdn cdnLockup s t := by
  have hcdn := h.checked.cdn_eq
  obtain hfails | ⟨l, hl, hfails⟩ := (fails_topUpEgress h.checked).mp hfails
  · -- the first raise is covered, and would not have been refused
    obtain ⟨l, hl⟩ := (Ledger.exists_lockupRaised_iff hcdn h.checked.cdn_live).mpr h.first
    exact absurd (succeeds_raiseLockup.mpr ⟨l, hl, rfl⟩) (hfails.not_succeeds (a := ()))
  · obtain ⟨-, -, -, -, rfl⟩ := fails_raiseLockup.mp hfails
    have hrails := Ledger.rails_of_lockupRaised hcdn h.checked.cdnLockup_eq hl
    obtain ⟨hzero, -⟩ | ⟨-, hok⟩ := hl
    · exact absurd hzero h.cdnAmount_ne
    obtain ⟨old, hold, -, hchange⟩ := Ledger.modifyLockup_eq_ok_iff.mp hok
    rw [hcdn, Option.some.injEq] at hold
    subst hold
    exact ⟨hok, hrails,
      Ledger.recounted_of_changeRail (by rfl) (hs.ledger.covered.counts hcdn) hchange⟩

theorem Reachable.eq_of_not_halfCovered (hs : Reachable s)
    (room : s.ledger.rails.size < UInt64.size)
    (hnone : ¬ ∃ d cdnRail cacheMissRail cdn cacheMiss cdnLockup cacheMissLockup,
      TopUpHalfCovered ctx id cdnAmount cacheMissAmount s d cdnRail cacheMissRail cdn cacheMiss
        cdnLockup cacheMissLockup)
    (hfails : Fails (topUpEgress ctx id cdnAmount cacheMissAmount) s e t) : t = s := by
  obtain heq | ⟨d, cdnRail, cacheMissRail, cdn, cacheMiss, cdnLockup, cacheMissLockup, l, h, hl,
    rfl⟩ := refusedTo_topUpEgress e t hfails
  · exact heq
  have hfirst := (Ledger.exists_lockupRaised_iff h.cdn_eq h.cdn_live).mp ⟨l, hl⟩
  by_cases hamount : cdnAmount = 0
  · obtain ⟨-, rfl⟩ | ⟨hne, -⟩ := hl
    · rfl
    · exact absurd hamount hne
  by_cases hboth : s.ledger.CoversRaise (cdn.growth cdnLockup) cacheMiss cacheMissAmount
    cacheMissLockup
  · obtain ⟨t, hsucceeds⟩ := (hs.succeeds_topUpEgress_iff room).mpr ⟨d, cdnRail, cacheMissRail,
      cdn, cacheMiss, cdnLockup, cacheMissLockup, h, hfirst, hboth⟩
    exact absurd hsucceeds hfails.not_succeeds
  · exact absurd ⟨d, cdnRail, cacheMissRail, cdn, cacheMiss, cdnLockup, cacheMissLockup, h,
      hamount, hfirst, hboth⟩ hnone

structure ToppedUp (id : DataSetId) (cdnAmount cacheMissAmount : TokenAmount)
    (cdnRail cacheMissRail : RailId) (cdn cacheMiss : Rail)
    (cdnLockup cacheMissLockup : TokenAmount) (s t : Service) : Prop where
  cdnLockup_eq : cdnLockup.toNat = cdn.lockupFixed.toNat + cdnAmount.toNat
  cacheMissLockup_eq : cacheMissLockup.toNat = cacheMiss.lockupFixed.toNat + cacheMissAmount.toNat
  rails : ∀ other, t.ledger.rail? other =
    if cdnRail = other then some (cdn.withFixed cdnLockup)
    else if cacheMissRail = other then some (cacheMiss.withFixed cacheMissLockup)
    else s.ledger.rail? other
  events : t.events = s.events ++ [.cdnRailsToppedUp id cdnLockup cacheMissLockup]

theorem toppedUp_of_raised (hne : cdnRail ≠ cacheMissRail)
    (h : TopUpChecked ctx id cdnAmount cacheMissAmount s d cdnRail cacheMissRail cdn cacheMiss
      cdnLockup cacheMissLockup) {l l' : Ledger}
    (hl : LockupRaised s.ledger cdnRail cdn cdnAmount cdnLockup l)
    (hl' : LockupRaised l cacheMissRail cacheMiss cacheMissAmount cacheMissLockup l') :
    ToppedUp id cdnAmount cacheMissAmount cdnRail cacheMissRail cdn cacheMiss cdnLockup
      cacheMissLockup s { s with
        ledger := l'
        events := s.events ++ [.cdnRailsToppedUp id cdnLockup cacheMissLockup] } := by
  have hr : l.rail? cacheMissRail = some cacheMiss := by
    rw [rail?_of_lockupRaised hl hne]
    exact h.cacheMiss_eq
  refine ⟨h.toNat_lockups.1, h.toNat_lockups.2, ?_, rfl⟩
  exact Ledger.rails_of_both hne (Ledger.rails_of_lockupRaised h.cdn_eq h.cdnLockup_eq hl)
    (Ledger.rails_of_lockupRaised hr h.cacheMissLockup_eq hl')

/--
A top-up goes through exactly if it is checked and both raises are covered together. Then both
lockups are raised by what was asked for, no other rail changes and the new lockups are announced.
A refused top-up announces nothing, and changes nothing unless the raise over the CDN is covered and
the other one is not covered after it. In that case the raise over the CDN stays, on the rail and in
what is counted for the payer and for the operator. The ledger must hold fewer rails than there are
numbers for them, as any does.
-/
theorem Reachable.topUpEgress_outcome (hs : Reachable s) (room : s.ledger.rails.size < UInt64.size)
    (hcall : s.call ctx (.topUpEgress id cdnAmount cacheMissAmount) = (answer, t)) :
    t.state = s.state ∧
    match answer with
    | .ok _ => ∃ d cdnRail cacheMissRail cdn cacheMiss cdnLockup cacheMissLockup,
        TopUpCovered ctx id cdnAmount cacheMissAmount s d cdnRail cacheMissRail cdn cacheMiss
          cdnLockup cacheMissLockup ∧
        ToppedUp id cdnAmount cacheMissAmount cdnRail cacheMissRail cdn cacheMiss cdnLockup
          cacheMissLockup s t
    | .error _ =>
        (¬ ∃ d cdnRail cacheMissRail cdn cacheMiss cdnLockup cacheMissLockup,
          TopUpCovered ctx id cdnAmount cacheMissAmount s d cdnRail cacheMissRail cdn cacheMiss
            cdnLockup cacheMissLockup) ∧
        t.events = s.events ∧
        (t = s ↔ ¬ ∃ d cdnRail cacheMissRail cdn cacheMiss cdnLockup cacheMissLockup,
          TopUpHalfCovered ctx id cdnAmount cacheMissAmount s d cdnRail cacheMissRail cdn cacheMiss
            cdnLockup cacheMissLockup) ∧
        ∀ d cdnRail cacheMissRail cdn cacheMiss cdnLockup cacheMissLockup,
          TopUpHalfCovered ctx id cdnAmount cacheMissAmount s d cdnRail cacheMissRail cdn cacheMiss
            cdnLockup cacheMissLockup → HalfToppedUp cdnRail cdn cdnLockup s t := by
  cases answer with
  | ok reply =>
    obtain ⟨-, hcall⟩ := succeeds_done.mp (call_eq_ok_iff.mp hcall)
    obtain ⟨d, cdnRail, cacheMissRail, cdn, cacheMiss, cdnLockup, cacheMissLockup, l, l', h, hl,
      hl', rfl⟩ := succeeds_topUpEgress.mp hcall
    obtain ⟨-, -, hne⟩ := egressRails_of_indexed hs.indexed h.dataSet_eq h.cdnRail_eq
      h.cacheMissRail_eq
    have hfirst := (Ledger.exists_lockupRaised_iff h.cdn_eq h.cdn_live).mp ⟨l, hl⟩
    -- both raises take from one account and one allowance
    have hboth := (hs.exists_lockupRaised_iff room h hl).mp ⟨l', hl'⟩
    exact ⟨rfl, d, cdnRail, cacheMissRail, cdn, cacheMiss, cdnLockup, cacheMissLockup,
      ⟨h, hfirst, hboth⟩, toppedUp_of_raised hne h hl hl'⟩
  | error e =>
    have hfails := fails_done.mp (call_eq_error_iff.mp hcall)
    obtain ⟨hstate, -, -, hevents, -⟩ := refusedWithin_topUpEgress s e t hfails
    refine ⟨hstate, ?_, hevents, ?_, ?_⟩
    · rw [← hs.succeeds_topUpEgress_iff room]
      rintro ⟨t, hsucceeds⟩
      exact hfails.not_succeeds hsucceeds
    · constructor
      · rintro heq ⟨d, cdnRail, cacheMissRail, cdn, cacheMiss, cdnLockup, cacheMissLockup, h⟩
        exact h.ne (hs.halfToppedUp h hfails) heq
      · intro hnone
        exact hs.eq_of_not_halfCovered room hnone hfails
    · intro d cdnRail cacheMissRail cdn cacheMiss cdnLockup cacheMissLockup h
      exact hs.halfToppedUp h hfails

def cdnServiceRail : Rail :=
  (cdnService.ledger.rail? 3).get (by decide +kernel)

theorem halfCovered_cdnService :
    TopUpHalfCovered ⟨cdnPayer, 20⟩ 1 300 300 cdnService
      ((cdnService.state.dataSet? 1).get (by decide +kernel)) 3 2 cdnServiceRail
      ((cdnService.ledger.rail? 2).get (by decide +kernel)) 370 330 where
  checked := {
    dataSet_eq := (Option.some_get _).symm
    caller := by decide +kernel
    cdnRail_eq := by decide +kernel
    cacheMissRail_eq := by decide +kernel
    cdn_eq := (Option.some_get _).symm
    cdn_live := by decide +kernel
    cacheMiss_eq := (Option.some_get _).symm
    cacheMiss_live := by decide +kernel
    cdnLockup_eq := by decide +kernel
    cacheMissLockup_eq := by decide +kernel }
  cdnAmount_ne := by decide
  first := .inr
    ⟨by decide +kernel, by decide +kernel, by decide +kernel, by decide +kernel⟩
  not_both := by
    rintro (hzero | ⟨-, -, hallowance, -⟩)
    · exact absurd hzero (by decide)
    · exact absurd hallowance (by decide +kernel)

theorem topUpEgress_outcome_cdnService :
    cdnService.ledger.rails.size < UInt64.size ∧
    (∃ t, cdnService.call ⟨cdnPayer, 20⟩ (.topUpEgress 1 5 5) = (.ok .done, t) ∧
      t.state = cdnService.state ∧ t.events.length = cdnService.events.length + 1) ∧
    ∃ t, cdnService.call ⟨cdnPayer, 20⟩ (.topUpEgress 1 300 300) =
        (.error (.ledger (.lockupAllowanceExceeded 300 100)), t) ∧
      t.events = cdnService.events ∧ t ≠ cdnService ∧
      t.ledger.rail? 3 = some (cdnServiceRail.withFixed 370) ∧
      t.ledger.rail? 2 = cdnService.ledger.rail? 2 := by
  have room : cdnService.ledger.rails.size < UInt64.size := by decide +kernel
  obtain ⟨t, hok⟩ : ∃ t, cdnService.call ⟨cdnPayer, 20⟩ (.topUpEgress 1 5 5) = (.ok .done, t) :=
    ⟨_, call_eq_of_answer (by decide +kernel)⟩
  obtain ⟨u, herror⟩ : ∃ u, cdnService.call ⟨cdnPayer, 20⟩ (.topUpEgress 1 300 300) =
      (.error (.ledger (.lockupAllowanceExceeded 300 100)), u) :=
    ⟨_, call_eq_of_answer (by decide +kernel)⟩
  obtain ⟨hstate, _, _, _, _, _, _, _, -, htoppedUp⟩ :=
    reachable_cdnService.topUpEgress_outcome room hok
  obtain ⟨-, -, hevents, hsame, hhalf⟩ := reachable_cdnService.topUpEgress_outcome room herror
  have hrails := (hhalf _ _ _ _ _ _ _ halfCovered_cdnService).rails
  refine ⟨room, ⟨t, hok, hstate, ?_⟩, u, herror, hevents, ?_, hrails 3, hrails 2⟩
  · rw [htoppedUp.events, List.length_append, List.length_singleton]
  · intro heq
    exact hsame.mp heq ⟨_, _, _, _, _, _, _, halfCovered_cdnService⟩

/-- A refused top-up leaves more locked up than there was. -/
theorem refused_topUp_locks :
    Reachable cdnService ∧
    (cdnService.call ⟨cdnPayer, 20⟩ (.topUpEgress 1 300 300)).1 =
      .error (.ledger (.lockupAllowanceExceeded 300 100)) ∧
    ((cdnService.ledger.rail? 3).map (·.lockupFixed) = some 70 ∧
      (cdnService.ledger.account 5 cdnPayer).locked = 100 ∧
      (cdnService.ledger.approval 5 cdnPayer 1).lockupUsage = 100) ∧
    (((cdnService.call ⟨cdnPayer, 20⟩ (.topUpEgress 1 300 300)).2.ledger.rail? 3).map
        (·.lockupFixed) = some 370 ∧
      ((cdnService.call ⟨cdnPayer, 20⟩ (.topUpEgress 1 300 300)).2.ledger.account 5
        cdnPayer).locked = 400 ∧
      ((cdnService.call ⟨cdnPayer, 20⟩ (.topUpEgress 1 300 300)).2.ledger.approval 5
        cdnPayer 1).lockupUsage = 400) := by
  refine ⟨reachable_cdnService, by decide +kernel, ?_, ?_⟩
  · decide +kernel
  · decide +kernel

end Service

end WarmStorage

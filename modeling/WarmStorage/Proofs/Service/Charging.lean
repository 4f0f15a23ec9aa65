import WarmStorage.Proofs.Service.TopUp

/-!
Charges for egress. Each charge is taken from what its rail holds and from the funds of the payer,
goes to the payee of the rail, and needs that the rail is live and its operator approved. Before a
settlement charges the two rails it only asks what they hold. So when one of them has ended, the
other may be charged alone.
-/

namespace WarmStorage

def RailTerms.charged (t : RailTerms) (token owner : Address) (amount : TokenAmount) :
    TokenAmount :=
  if t.token = token ∧ t.payer = owner then amount else 0

def RailTerms.received (t : RailTerms) (token payee : Address) (amount : TokenAmount) :
    TokenAmount :=
  if t.token = token ∧ t.payee = payee then amount else 0

namespace Ledger

open ServiceM

variable {l l' m : Ledger} {id cdnRail cacheMissRail : RailId} {r q cdn cacheMiss : Rail}
  {amount rate cdnAmount cacheMissAmount : TokenAmount} {token owner payee : Address}

def AllowsCharge (l : Ledger) (r : Rail) (amount : TokenAmount) : Prop :=
  amount = 0 ∨ l.Chargeable r

theorem exists_charged_iff (hr : l.rail? id = some r) (hpaid : amount ≤ r.lockupFixed) :
    (∃ l', Charged l id r.rate amount l') ↔ l.AllowsCharge r amount := by
  unfold Charged AllowsCharge
  rw [← exists_modifyPayment_iff hr hpaid]
  by_cases hamount : amount = 0
  · simp [hamount]
  · simp only [hamount, ne_eq, not_false_eq_true, true_and, false_and, false_or]

theorem allowsCharge_of_charged (h : Charged l id rate amount l') :
    l'.AllowsCharge q cdnAmount ↔ l.AllowsCharge q cdnAmount := by
  obtain ⟨-, rfl⟩ | ⟨-, h⟩ := h
  · rfl
  obtain ⟨old, m, -, -, -, hchange, rfl⟩ := modifyPayment_eq_ok_iff.mp h
  have happroval : m.approval q.token q.payer q.operator = _ := approval_of_changeRail hchange
  refine or_congr_right ?_
  constructor
  · rintro ⟨live, approved, period⟩
    rw [approval_pay, happroval] at approved period
    exact ⟨live, approved, period⟩
  · rintro ⟨live, approved, period⟩
    refine ⟨live, ?_, ?_⟩
    · rw [approval_pay, happroval]
      exact approved
    · rw [approval_pay, happroval]
      exact period

theorem rails_of_charged (hr : l.rail? id = some r) (h : Charged l id r.rate amount l')
    (other : RailId) : l'.rail? other =
      if id = other then some (r.withFixed (r.lockupFixed - amount)) else l.rail? other := by
  obtain ⟨rfl, rfl⟩ | ⟨-, h⟩ := h
  · split
    · rename_i hid
      rw [← hid, hr]
      simp [Rail.withFixed]
    · rfl
  · obtain ⟨old, hold, -, hrails⟩ := rail?_of_modifyPayment h
    rw [hr, Option.some.injEq] at hold
    rw [hrails other, hold]
    rfl

theorem funds_of_charged (hr : l.rail? id = some r) (h : Charged l id rate amount l') :
    (l'.account token owner).funds.toNat =
      (l.account token owner).funds.toNat - (r.charged token owner amount).toNat := by
  unfold RailTerms.charged
  obtain ⟨rfl, rfl⟩ | ⟨-, h⟩ := h
  · rw [ite_self]
    rfl
  · obtain ⟨old, m, hold, -, -, hchange, rfl⟩ := modifyPayment_eq_ok_iff.mp h
    rw [hr, Option.some.injEq] at hold
    subst hold
    rw [account_pay]
    split
    · rw [UInt256.toNat_clampSub, funds_of_changeRail _ _ hchange]
    · rw [funds_of_changeRail _ _ hchange]
      rfl

theorem payout_of_charged (hr : l.rail? id = some r) (h : Charged l id rate amount l') :
    l'.payout token payee =
      UInt256.clampAdd (l.payout token payee) (r.received token payee amount) := by
  unfold RailTerms.received
  obtain ⟨rfl, rfl⟩ | ⟨-, h⟩ := h
  · rw [ite_self, UInt256.clampAdd_zero]
  · obtain ⟨old, m, hold, -, -, hchange, rfl⟩ := modifyPayment_eq_ok_iff.mp h
    rw [hr, Option.some.injEq] at hold
    subst hold
    obtain ⟨-, -, _, _, _, -, -, rfl⟩ := changeRail_eq_ok_iff.mp hchange
    exact payout_pay

structure ChargedBoth (l : Ledger) (cdnRail cacheMissRail : RailId) (cdn cacheMiss : Rail)
    (cdnAmount cacheMissAmount : TokenAmount) (l' : Ledger) : Prop where
  rails : ∀ other, l'.rail? other =
    if cdnRail = other then some (cdn.withFixed (cdn.lockupFixed - cdnAmount))
    else if cacheMissRail = other then
      some (cacheMiss.withFixed (cacheMiss.lockupFixed - cacheMissAmount))
    else l.rail? other
  funds : ∀ token owner, (l'.account token owner).funds.toNat =
    (l.account token owner).funds.toNat - ((cdn.charged token owner cdnAmount).toNat +
      (cacheMiss.charged token owner cacheMissAmount).toNat)
  payouts : ∀ token payee, (l'.payout token payee).toNat =
    min ((l.payout token payee).toNat + (cdn.received token payee cdnAmount).toNat +
      (cacheMiss.received token payee cacheMissAmount).toNat) UInt256.largest.toNat

theorem chargedBoth_of_charged (hne : cdnRail ≠ cacheMissRail)
    (hcdn : l.rail? cdnRail = some cdn) (hcacheMiss : l.rail? cacheMissRail = some cacheMiss)
    (h : Charged l cdnRail cdn.rate cdnAmount m)
    (h' : Charged m cacheMissRail cacheMiss.rate cacheMissAmount l') :
    l.ChargedBoth cdnRail cacheMissRail cdn cacheMiss cdnAmount cacheMissAmount l' := by
  have hr : m.rail? cacheMissRail = some cacheMiss := by
    rw [Service.rail?_of_charged h hne]
    exact hcacheMiss
  refine ⟨rails_of_both hne (rails_of_charged hcdn h) (rails_of_charged hr h'), ?_, ?_⟩
  · intro token owner
    rw [funds_of_charged hr h', funds_of_charged hcdn h, Nat.sub_sub]
  · intro token payee
    rw [payout_of_charged hr h', payout_of_charged hcdn h]
    simp only [UInt256.toNat_clampAdd, UInt256.toNat_largest]
    omega

theorem add_le_locked (covered : l.Counted (· ≤ ·)) (hne : cdnRail ≠ cacheMissRail)
    (hcdn : l.rail? cdnRail = some cdn) (hcacheMiss : l.rail? cacheMissRail = some cacheMiss)
    (hcdnAmount : cdnAmount ≤ cdn.lockupFixed)
    (hcacheMissAmount : cacheMissAmount ≤ cacheMiss.lockupFixed)
    (same : cacheMiss.token = cdn.token ∧ cacheMiss.payer = cdn.payer) :
    cdnAmount.toNat + cacheMissAmount.toNat ≤ (l.account cdn.token cdn.payer).locked.toNat := by
  have hsum := add_le_railSum (p := (·.isPaidBy cdn.token cdn.payer)) Rail.lockup hne hcdn
    hcacheMiss (by simp [RailTerms.isPaidBy]) (by simp [RailTerms.isPaidBy, same])
  have hlocked := covered.locked cdn.token cdn.payer
  have hcdnFixed := cdn.lockupFixed_le_lockup
  have hcacheMissFixed := cacheMiss.lockupFixed_le_lockup
  rw [BitVec.le_def] at hcdnAmount hcacheMissAmount
  omega

end Ledger

namespace Service

open ServiceM

variable {s t : Service} {id : DataSetId} {d : DataSet} {cdnRail cacheMissRail : RailId}
  {cdn cacheMiss : Rail} {ctx : CallContext} {cdnAmount cacheMissAmount : TokenAmount}
  {answer : Except ServiceError Reply} {e : ServiceError}

structure ChargeAllowed (ctx : CallContext) (id : DataSetId)
    (cdnAmount cacheMissAmount : TokenAmount) (s : Service) (d : DataSet)
    (cdnRail cacheMissRail : RailId) (cdn cacheMiss : Rail) : Prop where
  checked : ChargeChecked ctx id cdnAmount cacheMissAmount s d cdnRail cacheMissRail cdn cacheMiss
  first : s.ledger.AllowsCharge cdn cdnAmount
  second : s.ledger.AllowsCharge cacheMiss cacheMissAmount

structure ChargeHalfAllowed (ctx : CallContext) (id : DataSetId)
    (cdnAmount cacheMissAmount : TokenAmount) (s : Service) (d : DataSet)
    (cdnRail cacheMissRail : RailId) (cdn cacheMiss : Rail) : Prop where
  checked : ChargeChecked ctx id cdnAmount cacheMissAmount s d cdnRail cacheMissRail cdn cacheMiss
  cdnAmount_ne : cdnAmount ≠ 0
  first : s.ledger.AllowsCharge cdn cdnAmount
  not_second : ¬ s.ledger.AllowsCharge cacheMiss cacheMissAmount

theorem exists_second_charged_iff (hs : s.state.Indexed)
    (h : ChargeChecked ctx id cdnAmount cacheMissAmount s d cdnRail cacheMissRail cdn cacheMiss)
    {l : Ledger} (hl : Charged s.ledger cdnRail cdn.rate cdnAmount l) :
    (∃ l', Charged l cacheMissRail cacheMiss.rate cacheMissAmount l') ↔
      s.ledger.AllowsCharge cacheMiss cacheMissAmount := by
  obtain ⟨-, -, hne⟩ := egressRails_of_indexed hs h.dataSet_eq h.cdnRail_eq h.cacheMissRail_eq
  have hr : l.rail? cacheMissRail = some cacheMiss := by
    rw [rail?_of_charged hl hne]
    exact h.cacheMiss_eq
  rw [Ledger.exists_charged_iff hr h.cacheMissAmount_le, Ledger.allowsCharge_of_charged hl]

theorem succeeds_settleEgress_iff (hs : s.state.Indexed) :
    (∃ t, Succeeds (settleEgress ctx id cdnAmount cacheMissAmount) s () t) ↔
      ∃ d cdnRail cacheMissRail cdn cacheMiss,
        ChargeAllowed ctx id cdnAmount cacheMissAmount s d cdnRail cacheMissRail cdn cacheMiss := by
  constructor
  · rintro ⟨t, h⟩
    obtain ⟨d, cdnRail, cacheMissRail, cdn, cacheMiss, l, l', h, hl, hl', -⟩ :=
      succeeds_settleEgress.mp h
    refine ⟨d, cdnRail, cacheMissRail, cdn, cacheMiss, h, ?_, ?_⟩
    · exact (Ledger.exists_charged_iff h.cdn_eq h.cdnAmount_le).mp ⟨l, hl⟩
    · exact (exists_second_charged_iff hs h hl).mp ⟨l', hl'⟩
  · rintro ⟨d, cdnRail, cacheMissRail, cdn, cacheMiss, h, hfirst, hsecond⟩
    obtain ⟨l, hl⟩ := (Ledger.exists_charged_iff h.cdn_eq h.cdnAmount_le).mpr hfirst
    obtain ⟨l', hl'⟩ := (exists_second_charged_iff hs h hl).mpr hsecond
    exact ⟨_, succeeds_settleEgress.mpr
      ⟨d, cdnRail, cacheMissRail, cdn, cacheMiss, l, l', h, hl, hl', rfl⟩⟩

structure HalfCharged (cdnRail cacheMissRail : RailId) (cdn cacheMiss : Rail)
    (cdnAmount : TokenAmount) (s t : Service) : Prop where
  paid : s.ledger.modifyPayment cdnRail cdn.rate cdnAmount = .ok t.ledger
  charged : s.ledger.ChargedBoth cdnRail cacheMissRail cdn cacheMiss cdnAmount 0 t.ledger

theorem ChargeHalfAllowed.halfCharged (hs : s.state.Indexed)
    (h : ChargeHalfAllowed ctx id cdnAmount cacheMissAmount s d cdnRail cacheMissRail cdn cacheMiss)
    (hfails : Fails (settleEgress ctx id cdnAmount cacheMissAmount) s e t) :
    HalfCharged cdnRail cacheMissRail cdn cacheMiss cdnAmount s t := by
  obtain ⟨checked, hamount, hfirst, -⟩ := h
  obtain ⟨-, -, hne⟩ := egressRails_of_indexed hs checked.dataSet_eq checked.cdnRail_eq
    checked.cacheMissRail_eq
  obtain hfails | ⟨l, hl, hfails⟩ := (fails_settleEgress checked).mp hfails
  · -- the first charge is allowed, and would not have been refused
    obtain ⟨l, hl⟩ := (Ledger.exists_charged_iff checked.cdn_eq checked.cdnAmount_le).mpr hfirst
    exact absurd (succeeds_charge.mpr ⟨l, hl, rfl⟩) (hfails.not_succeeds (a := ()))
  · obtain ⟨-, -, -, -, rfl⟩ := fails_charge.mp hfails
    refine ⟨?_, Ledger.chargedBoth_of_charged hne checked.cdn_eq checked.cacheMiss_eq hl
      (.inl ⟨rfl, rfl⟩)⟩
    obtain ⟨hzero, -⟩ | ⟨-, hok⟩ := hl
    · exact absurd hzero hamount
    · exact hok

theorem ChargeHalfAllowed.ne
    (h : ChargeHalfAllowed ctx id cdnAmount cacheMissAmount s d cdnRail cacheMissRail cdn cacheMiss)
    (half : HalfCharged cdnRail cacheMissRail cdn cacheMiss cdnAmount s t) : t ≠ s := by
  rintro rfl
  have hrail := half.charged.rails cdnRail
  rw [if_pos rfl, h.checked.cdn_eq, Option.some.injEq] at hrail
  have hsame : cdn.lockupFixed = cdn.lockupFixed - cdnAmount := congrArg Rail.lockupFixed hrail
  have hle := BitVec.le_def.mp h.checked.cdnAmount_le
  have hlockup := BitVec.toNat_sub_of_le h.checked.cdnAmount_le
  rw [← hsame] at hlockup
  apply h.cdnAmount_ne
  apply BitVec.eq_of_toNat_eq
  rw [BitVec.ofNat_eq_ofNat, BitVec.toNat_ofNat, Nat.zero_mod]
  omega

theorem eq_of_not_halfAllowed (hs : s.state.Indexed)
    (hnone : ¬ ∃ d cdnRail cacheMissRail cdn cacheMiss,
      ChargeHalfAllowed ctx id cdnAmount cacheMissAmount s d cdnRail cacheMissRail cdn cacheMiss)
    (hfails : Fails (settleEgress ctx id cdnAmount cacheMissAmount) s e t) : t = s := by
  obtain heq | ⟨d, cdnRail, cacheMissRail, cdn, cacheMiss, l, h, hl, rfl⟩ :=
    refusedTo_settleEgress e t hfails
  · exact heq
  have hfirst := (Ledger.exists_charged_iff h.cdn_eq h.cdnAmount_le).mp ⟨l, hl⟩
  by_cases hamount : cdnAmount = 0
  · obtain ⟨-, rfl⟩ | ⟨hne, -⟩ := hl
    · rfl
    · exact absurd hamount hne
  by_cases hsecond : s.ledger.AllowsCharge cacheMiss cacheMissAmount
  · obtain ⟨t, hsucceeds⟩ := (succeeds_settleEgress_iff hs).mpr
      ⟨d, cdnRail, cacheMissRail, cdn, cacheMiss, h, hfirst, hsecond⟩
    exact absurd hsucceeds hfails.not_succeeds
  · exact absurd ⟨d, cdnRail, cacheMissRail, cdn, cacheMiss, h, hamount, hfirst, hsecond⟩ hnone

theorem Reachable.funds_of_chargedBoth (hs : Reachable s)
    (room : s.ledger.rails.size < UInt64.size)
    (h : ChargeChecked ctx id cdnAmount cacheMissAmount s d cdnRail cacheMissRail cdn cacheMiss)
    {l : Ledger} (hl : s.ledger.ChargedBoth cdnRail cacheMissRail cdn cacheMiss cdnAmount
      cacheMissAmount l)
    (hfunded : (s.ledger.account s.state.config.token d.payer).locked ≤
      (s.ledger.account s.state.config.token d.payer).funds) :
    (l.account s.state.config.token d.payer).funds.toNat +
        (cdnAmount.toNat + cacheMissAmount.toNat) =
      (s.ledger.account s.state.config.token d.payer).funds.toNat := by
  obtain ⟨hcdn, hcacheMiss, hne⟩ := egressRails_of_indexed hs.indexed h.dataSet_eq h.cdnRail_eq
    h.cacheMissRail_eq
  obtain ⟨htoken, hpayer, -⟩ := hs.egress_terms room h.dataSet_eq hcdn h.cdn_eq
  obtain ⟨htoken', hpayer', -⟩ := hs.egress_terms room h.dataSet_eq hcacheMiss h.cacheMiss_eq
  have hlocked := Ledger.add_le_locked hs.ledger.covered hne h.cdn_eq h.cacheMiss_eq
    h.cdnAmount_le h.cacheMissAmount_le
    ⟨htoken'.trans htoken.symm, hpayer'.trans hpayer.symm⟩
  rw [htoken, hpayer] at hlocked
  rw [hl.funds, RailTerms.charged, RailTerms.charged, if_pos ⟨htoken, hpayer⟩,
    if_pos ⟨htoken', hpayer'⟩]
  rw [BitVec.le_def] at hfunded
  omega

/--
A settlement of egress goes through exactly if it is checked and each amount that is not zero may be
charged over its rail. Then both rails hold less by what was asked for, every payee receives what is
charged over the rails to it up to the largest amount, and the payer has less by the sum of both,
unless the account has less than is locked up in it. A refused settlement announces nothing, and
changes nothing unless the charge over the CDN may be made and the other one may not. In that case
the charge over the CDN stays. The ledger must hold fewer rails than there are numbers for them, as
any does.
-/
theorem Reachable.settleEgress_outcome (hs : Reachable s)
    (room : s.ledger.rails.size < UInt64.size)
    (hcall : s.call ctx (.settleEgress id cdnAmount cacheMissAmount) = (answer, t)) :
    t.state = s.state ∧
    match answer with
    | .ok _ => ∃ d cdnRail cacheMissRail cdn cacheMiss,
        ChargeAllowed ctx id cdnAmount cacheMissAmount s d cdnRail cacheMissRail cdn cacheMiss ∧
        s.ledger.ChargedBoth cdnRail cacheMissRail cdn cacheMiss cdnAmount cacheMissAmount
          t.ledger ∧
        (cdn.lockupFixed - cdnAmount).toNat + cdnAmount.toNat = cdn.lockupFixed.toNat ∧
        (cacheMiss.lockupFixed - cacheMissAmount).toNat + cacheMissAmount.toNat =
          cacheMiss.lockupFixed.toNat ∧
        ((s.ledger.account s.state.config.token d.payer).locked ≤
            (s.ledger.account s.state.config.token d.payer).funds →
          (t.ledger.account s.state.config.token d.payer).funds.toNat +
              (cdnAmount.toNat + cacheMissAmount.toNat) =
            (s.ledger.account s.state.config.token d.payer).funds.toNat) ∧
        t.events = s.events ++ [.cdnPaymentSettled id cdnAmount cacheMissAmount]
    | .error _ =>
        (¬ ∃ d cdnRail cacheMissRail cdn cacheMiss,
          ChargeAllowed ctx id cdnAmount cacheMissAmount s d cdnRail cacheMissRail cdn
            cacheMiss) ∧
        t.events = s.events ∧
        (t = s ↔ ¬ ∃ d cdnRail cacheMissRail cdn cacheMiss,
          ChargeHalfAllowed ctx id cdnAmount cacheMissAmount s d cdnRail cacheMissRail cdn
            cacheMiss) ∧
        ∀ d cdnRail cacheMissRail cdn cacheMiss,
          ChargeHalfAllowed ctx id cdnAmount cacheMissAmount s d cdnRail cacheMissRail cdn
            cacheMiss → HalfCharged cdnRail cacheMissRail cdn cacheMiss cdnAmount s t := by
  cases answer with
  | ok reply =>
    obtain ⟨-, hcall⟩ := succeeds_done.mp (call_eq_ok_iff.mp hcall)
    obtain ⟨d, cdnRail, cacheMissRail, cdn, cacheMiss, l, l', h, hl, hl', rfl⟩ :=
      succeeds_settleEgress.mp hcall
    obtain ⟨-, -, hne⟩ := egressRails_of_indexed hs.indexed h.dataSet_eq h.cdnRail_eq
      h.cacheMissRail_eq
    have hfirst := (Ledger.exists_charged_iff h.cdn_eq h.cdnAmount_le).mp ⟨l, hl⟩
    have hsecond := (exists_second_charged_iff hs.indexed h hl).mp ⟨l', hl'⟩
    have hcharged := Ledger.chargedBoth_of_charged hne h.cdn_eq h.cacheMiss_eq hl hl'
    refine ⟨rfl, d, cdnRail, cacheMissRail, cdn, cacheMiss, ⟨h, hfirst, hsecond⟩, hcharged, ?_, ?_,
      hs.funds_of_chargedBoth room h hcharged, rfl⟩
    · rw [BitVec.toNat_sub_of_le h.cdnAmount_le]
      exact Nat.sub_add_cancel (BitVec.le_def.mp h.cdnAmount_le)
    · rw [BitVec.toNat_sub_of_le h.cacheMissAmount_le]
      exact Nat.sub_add_cancel (BitVec.le_def.mp h.cacheMissAmount_le)
  | error e =>
    have hfails := fails_done.mp (call_eq_error_iff.mp hcall)
    obtain ⟨hstate, -, -, hevents, -⟩ := refusedWithin_settleEgress s e t hfails
    refine ⟨hstate, ?_, hevents, ?_, ?_⟩
    · rw [← succeeds_settleEgress_iff hs.indexed]
      rintro ⟨t, hsucceeds⟩
      exact hfails.not_succeeds hsucceeds
    · constructor
      · rintro heq ⟨d, cdnRail, cacheMissRail, cdn, cacheMiss, h⟩
        exact h.ne (h.halfCharged hs.indexed hfails) heq
      · intro hnone
        exact eq_of_not_halfAllowed hs.indexed hnone hfails
    · intro d cdnRail cacheMissRail cdn cacheMiss h
      exact h.halfCharged hs.indexed hfails

def cacheMissEndedService : Service :=
  { cdnService with ledger := (cdnService.ledger.operate (.terminate 2 15)).2 }

theorem halfAllowed_cacheMissEndedService :
    ChargeHalfAllowed ⟨6, 20⟩ 1 20 10 cacheMissEndedService
      ((cacheMissEndedService.state.dataSet? 1).get (by decide +kernel)) 3 2
      ((cacheMissEndedService.ledger.rail? 3).get (by decide +kernel))
      ((cacheMissEndedService.ledger.rail? 2).get (by decide +kernel)) where
  checked := {
    caller := by decide +kernel
    dataSet_eq := (Option.some_get _).symm
    cdnRail_eq := by decide +kernel
    cacheMissRail_eq := by decide +kernel
    cdn_eq := (Option.some_get _).symm
    cdnAmount_le := by decide +kernel
    cacheMiss_eq := (Option.some_get _).symm
    cacheMissAmount_le := by decide +kernel }
  cdnAmount_ne := by decide
  first := .inr ⟨by decide +kernel, by decide +kernel, by decide +kernel⟩
  not_second := by
    rintro (hzero | ⟨hlive, -, -⟩)
    · exact absurd hzero (by decide)
    · exact absurd hlive (by decide +kernel)

/-- Nothing is charged over the ended rail, or the charge over the live one stays. -/
theorem settleEgress_outcome_cacheMissEndedService :
    cacheMissEndedService.ledger.rails.size < UInt64.size ∧
    (∃ t, cacheMissEndedService.call ⟨6, 20⟩ (.settleEgress 1 20 0) = (.ok .done, t) ∧
      t.events = cacheMissEndedService.events ++ [.cdnPaymentSettled 1 20 0]) ∧
    ∃ t, cacheMissEndedService.call ⟨6, 20⟩ (.settleEgress 1 20 10) =
        (.error (.ledger (.railTerminated 2)), t) ∧
      t.events = cacheMissEndedService.events ∧ t ≠ cacheMissEndedService ∧
      t.ledger.rail? 2 = cacheMissEndedService.ledger.rail? 2 := by
  have room : cacheMissEndedService.ledger.rails.size < UInt64.size := by decide +kernel
  have hreachable : Reachable cacheMissEndedService := reachable_cdnService.operate _
  obtain ⟨t, hok⟩ : ∃ t, cacheMissEndedService.call ⟨6, 20⟩ (.settleEgress 1 20 0) =
      (.ok .done, t) := ⟨_, call_eq_of_answer (by decide +kernel)⟩
  obtain ⟨u, herror⟩ : ∃ u, cacheMissEndedService.call ⟨6, 20⟩ (.settleEgress 1 20 10) =
      (.error (.ledger (.railTerminated 2)), u) := ⟨_, call_eq_of_answer (by decide +kernel)⟩
  obtain ⟨-, _, _, _, _, _, -, -, -, -, -, hannounced⟩ :=
    hreachable.settleEgress_outcome room hok
  obtain ⟨-, -, hevents, hsame, hhalf⟩ := hreachable.settleEgress_outcome room herror
  obtain ⟨hpaid, -⟩ := hhalf _ _ _ _ _ halfAllowed_cacheMissEndedService
  obtain ⟨_, -, -, hrails⟩ := Ledger.rail?_of_modifyPayment hpaid
  refine ⟨room, ⟨t, hok, hannounced⟩, u, herror, hevents, ?_, hrails 2⟩
  intro heq
  exact hsame.mp heq ⟨_, _, _, _, _, halfAllowed_cacheMissEndedService⟩

/-- A refused settlement has paid the payee of the rail over the CDN. -/
theorem refused_settlement_pays :
    Reachable cacheMissEndedService ∧
    (cacheMissEndedService.call ⟨6, 20⟩ (.settleEgress 1 20 10)).1 =
      .error (.ledger (.railTerminated 2)) ∧
    ((cacheMissEndedService.ledger.rail? 3).map (·.lockupFixed) = some 70 ∧
      (cacheMissEndedService.ledger.account 5 cdnPayer).funds = 1000 ∧
      cacheMissEndedService.ledger.payout 5 9 = 0) ∧
    (((cacheMissEndedService.call ⟨6, 20⟩ (.settleEgress 1 20 10)).2.ledger.rail? 3).map
        (·.lockupFixed) = some 50 ∧
      ((cacheMissEndedService.call ⟨6, 20⟩ (.settleEgress 1 20 10)).2.ledger.account 5
        cdnPayer).funds = 980 ∧
      (cacheMissEndedService.call ⟨6, 20⟩ (.settleEgress 1 20 10)).2.ledger.payout 5 9 = 20) := by
  refine ⟨reachable_cdnService.operate _, by decide +kernel, ?_, ?_⟩
  · decide +kernel
  · decide +kernel

end Service

end WarmStorage

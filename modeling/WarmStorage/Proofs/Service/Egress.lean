import WarmStorage.Proofs.Service.Failure

/-!
Payments for egress change the ledger and report what was paid. What the service knows stays as it
is. When the second of the two changes of the ledger is refused, the first one stays.
-/

namespace WarmStorage.ServiceM

variable {ctx : CallContext} {id : DataSetId} {d : DataSet} {railId : RailId} {r : Rail}
  {amount lockup rate cdnAmount cacheMissAmount : TokenAmount}
  {R : Service → Service → Prop} [Std.Refl R]

theorem within_egressRails : Within R (egressRails id d) := by
  unfold egressRails
  split
  · exact within_pure
  · exact within_throw

variable [IsTrans Service R]

theorem within_rail : Within R (rail railId) := by
  refine within_get.bind fun t => ?_
  cases t.ledger.rail? railId with
  | none => exact within_throw
  | some r => exact within_pure

theorem within_liveRail : Within R (liveRail railId) := by
  refine within_rail.bind fun r => ?_
  apply Within.guard
  exact within_pure

theorem within_chargeableRate : Within R (chargeableRate railId amount) := by
  refine within_rail.bind fun r => ?_
  apply Within.guard
  exact within_pure

variable {s s' : Service} {u : Unit} {e : ServiceError} {cdnRail cacheMissRail : RailId}

@[simp]
theorem succeeds_egressRails : Succeeds (egressRails id d) s (cdnRail, cacheMissRail) s' ↔
    d.cdnRail = some cdnRail ∧ d.cacheMissRail = some cacheMissRail ∧ s' = s := by
  unfold egressRails
  split
  · rename_i cdn cacheMiss hcdn hcacheMiss
    simp [hcdn, hcacheMiss, eq_comm, and_assoc]
  · rename_i hnone
    simp only [succeeds_throw, false_iff, not_and]
    intro hcdn hcacheMiss
    exact absurd hcacheMiss (hnone _ _ hcdn)

@[simp]
theorem succeeds_rail : Succeeds (rail railId) s r s' ↔
    s.ledger.rail? railId = some r ∧ s' = s := by
  simp only [rail, succeeds_bind, succeeds_get, and_assoc, exists_and_left, exists_eq_left]
  cases s.ledger.rail? railId with
  | none => simp
  | some r' => simp [eq_comm]

@[simp]
theorem succeeds_liveRail : Succeeds (liveRail railId) s r s' ↔
    s.ledger.rail? railId = some r ∧ r.isTerminated = false ∧ s' = s := by
  simp only [liveRail, succeeds_bind, succeeds_rail, succeeds_guard, succeeds_pure,
    Bool.not_eq_true, and_assoc, exists_and_left, exists_eq_left]
  constructor
  · rintro ⟨_, hr, hlive, rfl, rfl⟩
    exact ⟨hr, hlive, rfl⟩
  · rintro ⟨hr, hlive, rfl⟩
    exact ⟨r, hr, hlive, rfl, rfl⟩

@[simp]
theorem succeeds_chargeableRate : Succeeds (chargeableRate railId amount) s rate s' ↔
    ∃ r, s.ledger.rail? railId = some r ∧ amount ≤ r.lockupFixed ∧ rate = r.rate ∧ s' = s := by
  simp [chargeableRate, and_assoc]

def LockupRaised (l : Ledger) (id : RailId) (r : Rail) (amount lockup : TokenAmount)
    (l' : Ledger) : Prop :=
  amount = 0 ∧ l' = l ∨ amount ≠ 0 ∧ l.modifyLockup id r.lockupPeriod lockup = .ok l'

def Charged (l : Ledger) (id : RailId) (rate amount : TokenAmount) (l' : Ledger) : Prop :=
  amount = 0 ∧ l' = l ∨ amount ≠ 0 ∧ l.modifyPayment id rate amount = .ok l'

theorem succeeds_ledgerChange_if {c : Prop} [Decidable c]
    {f : Ledger → Except LedgerError Ledger} :
    Succeeds (if c then ledgerChange f else pure ()) s u s' ↔
      ∃ l, (¬ c ∧ l = s.ledger ∨ c ∧ f s.ledger = .ok l) ∧ s' = { s with ledger := l } := by
  rw [succeeds_ite, succeeds_ledgerChange, succeeds_pure]
  constructor
  · rintro (⟨hc, l, hl, rfl⟩ | ⟨hc, -, rfl⟩)
    · exact ⟨l, .inr ⟨hc, hl⟩, rfl⟩
    · exact ⟨_, .inl ⟨hc, rfl⟩, rfl⟩
  · rintro ⟨l, ⟨hc, rfl⟩ | ⟨hc, hl⟩, rfl⟩
    · exact .inr ⟨hc, rfl, rfl⟩
    · exact .inl ⟨hc, l, hl, rfl⟩

@[simp]
theorem succeeds_raiseLockup : Succeeds (raiseLockup railId r amount lockup) s u s' ↔
    ∃ l, LockupRaised s.ledger railId r amount lockup l ∧ s' = { s with ledger := l } := by
  unfold raiseLockup LockupRaised
  rw [succeeds_ledgerChange_if]
  simp only [ne_eq, Decidable.not_not]

@[simp]
theorem succeeds_charge : Succeeds (charge railId rate amount) s u s' ↔
    ∃ l, Charged s.ledger railId rate amount l ∧ s' = { s with ledger := l } := by
  unfold charge Charged
  rw [succeeds_ledgerChange_if]
  simp only [ne_eq, Decidable.not_not]

structure TopUpChecked (ctx : CallContext) (id : DataSetId)
    (cdnAmount cacheMissAmount : TokenAmount) (s : Service) (d : DataSet)
    (cdnRail cacheMissRail : RailId) (cdn cacheMiss : Rail)
    (cdnLockup cacheMissLockup : TokenAmount) : Prop where
  dataSet_eq : s.state.dataSet? id = some d
  caller : ctx.caller = d.payer
  cdnRail_eq : d.cdnRail = some cdnRail
  cacheMissRail_eq : d.cacheMissRail = some cacheMissRail
  cdn_eq : s.ledger.rail? cdnRail = some cdn
  cdn_live : cdn.isTerminated = false
  cacheMiss_eq : s.ledger.rail? cacheMissRail = some cacheMiss
  cacheMiss_live : cacheMiss.isTerminated = false
  cdnLockup_eq : UInt256.exactAdd? cdn.lockupFixed cdnAmount = some cdnLockup
  cacheMissLockup_eq :
    UInt256.exactAdd? cacheMiss.lockupFixed cacheMissAmount = some cacheMissLockup

theorem TopUpChecked.toNat_lockups {d : DataSet} {cdn cacheMiss : Rail}
    {cdnLockup cacheMissLockup : TokenAmount} (h : TopUpChecked ctx id cdnAmount cacheMissAmount s d
      cdnRail cacheMissRail cdn cacheMiss cdnLockup cacheMissLockup) :
    cdnLockup.toNat = cdn.lockupFixed.toNat + cdnAmount.toNat ∧
      cacheMissLockup.toNat = cacheMiss.lockupFixed.toNat + cacheMissAmount.toNat :=
  ⟨UInt256.fit?_eq_some_iff.mp h.cdnLockup_eq, UInt256.fit?_eq_some_iff.mp h.cacheMissLockup_eq⟩

structure ChargeChecked (ctx : CallContext) (id : DataSetId)
    (cdnAmount cacheMissAmount : TokenAmount) (s : Service) (d : DataSet)
    (cdnRail cacheMissRail : RailId) (cdn cacheMiss : Rail) : Prop where
  caller : ctx.caller = s.state.config.cdnController
  dataSet_eq : s.state.dataSet? id = some d
  cdnRail_eq : d.cdnRail = some cdnRail
  cacheMissRail_eq : d.cacheMissRail = some cacheMissRail
  cdn_eq : s.ledger.rail? cdnRail = some cdn
  cdnAmount_le : cdnAmount ≤ cdn.lockupFixed
  cacheMiss_eq : s.ledger.rail? cacheMissRail = some cacheMiss
  cacheMissAmount_le : cacheMissAmount ≤ cacheMiss.lockupFixed

variable {l l' : Ledger} {cdn cacheMiss : Rail} {cdnLockup cacheMissLockup : TokenAmount}

theorem succeeds_topUpEgress : Succeeds (topUpEgress ctx id cdnAmount cacheMissAmount) s u s' ↔
    ∃ d cdnRail cacheMissRail cdn cacheMiss cdnLockup cacheMissLockup l l',
      TopUpChecked ctx id cdnAmount cacheMissAmount s d cdnRail cacheMissRail cdn cacheMiss
        cdnLockup cacheMissLockup ∧
      LockupRaised s.ledger cdnRail cdn cdnAmount cdnLockup l ∧
      LockupRaised l cacheMissRail cacheMiss cacheMissAmount cacheMissLockup l' ∧
      s' = { s with
        ledger := l'
        events := s.events ++ [.cdnRailsToppedUp id cdnLockup cacheMissLockup] } := by
  simp only [topUpEgress, succeeds_bind, succeeds_dataSet, succeeds_guard, succeeds_liveRail,
    Prod.exists, succeeds_egressRails, and_assoc, exists_and_left, exists_eq_left,
    Decidable.not_not]
  constructor
  · rintro ⟨d, hd, hcaller, cdnRail, hcdnRail, cacheMissRail, hcacheMissRail, cdn, hcdn, hcdnLive,
      cacheMiss, hcacheMiss, hcacheMissLive, h⟩
    cases hcdnLockup : UInt256.exactAdd? cdn.lockupFixed cdnAmount with
    | none =>
      rw [hcdnLockup] at h
      exact absurd h succeeds_throw
    | some cdnLockup =>
      rw [hcdnLockup] at h
      cases hcacheMissLockup : UInt256.exactAdd? cacheMiss.lockupFixed cacheMissAmount with
      | none =>
        rw [hcacheMissLockup] at h
        exact absurd h succeeds_throw
      | some cacheMissLockup =>
        rw [hcacheMissLockup] at h
        simp only [succeeds_bind, succeeds_raiseLockup, succeeds_emit] at h
        obtain ⟨-, _, ⟨l, hl, rfl⟩, -, _, ⟨l', hl', rfl⟩, rfl⟩ := h
        exact ⟨d, cdnRail, cacheMissRail, cdn, cacheMiss, cdnLockup, cacheMissLockup,
          ⟨hd, hcaller, hcdnRail, hcacheMissRail, hcdn, hcdnLive, hcacheMiss, hcacheMissLive,
            hcdnLockup, hcacheMissLockup⟩, l, hl, l', hl', rfl⟩
  · rintro ⟨d, cdnRail, cacheMissRail, cdn, cacheMiss, cdnLockup, cacheMissLockup, h, l, hl, l',
      hl', rfl⟩
    refine ⟨d, h.dataSet_eq, h.caller, cdnRail, h.cdnRail_eq, cacheMissRail, h.cacheMissRail_eq,
      cdn, h.cdn_eq, h.cdn_live, cacheMiss, h.cacheMiss_eq, h.cacheMiss_live, ?_⟩
    rw [h.cdnLockup_eq]
    dsimp only
    rw [h.cacheMissLockup_eq]
    simp only [succeeds_bind, succeeds_raiseLockup, succeeds_emit]
    exact ⟨(), _, ⟨l, hl, rfl⟩, (), _, ⟨l', hl', rfl⟩, rfl⟩

theorem succeeds_settleEgress : Succeeds (settleEgress ctx id cdnAmount cacheMissAmount) s u s' ↔
    ∃ d cdnRail cacheMissRail cdn cacheMiss l l',
      ChargeChecked ctx id cdnAmount cacheMissAmount s d cdnRail cacheMissRail cdn cacheMiss ∧
      Charged s.ledger cdnRail cdn.rate cdnAmount l ∧
      Charged l cacheMissRail cacheMiss.rate cacheMissAmount l' ∧
      s' = { s with
        ledger := l'
        events := s.events ++ [.cdnPaymentSettled id cdnAmount cacheMissAmount] } := by
  simp only [settleEgress, succeeds_bind, succeeds_config, succeeds_guard, succeeds_dataSet,
    succeeds_chargeableRate, succeeds_charge, succeeds_emit, Prod.exists, succeeds_egressRails,
    and_assoc, exists_and_left, exists_eq_left, Decidable.not_not]
  constructor
  · rintro ⟨hcaller, d, hd, cdnRail, hcdnRail, cacheMissRail, hcacheMissRail, _, _,
      ⟨cdn, hcdn, hcdnAmount, rfl, rfl⟩, _, _, ⟨cacheMiss, hcacheMiss, hcacheMissAmount, rfl, rfl⟩,
      -, _, ⟨l, hl, rfl⟩, -, _, ⟨l', hl', rfl⟩, rfl⟩
    exact ⟨d, cdnRail, cacheMissRail, cdn, cacheMiss, ⟨hcaller, hd, hcdnRail,
      hcacheMissRail, hcdn, hcdnAmount, hcacheMiss, hcacheMissAmount⟩, l, hl, l', hl', rfl⟩
  · rintro ⟨d, cdnRail, cacheMissRail, cdn, cacheMiss, h, l, hl, l', hl', rfl⟩
    exact ⟨h.caller, d, h.dataSet_eq, cdnRail, h.cdnRail_eq, cacheMissRail, h.cacheMissRail_eq,
      _, _, ⟨cdn, h.cdn_eq, h.cdnAmount_le, rfl, rfl⟩, _, _,
      ⟨cacheMiss, h.cacheMiss_eq, h.cacheMissAmount_le, rfl, rfl⟩,
      (), _, ⟨l, hl, rfl⟩, (), _, ⟨l', hl', rfl⟩, rfl⟩

theorem fails_ledgerChange_if {c : Prop} [Decidable c] {f : Ledger → Except LedgerError Ledger} :
    Fails (if c then ledgerChange f else pure ()) s e s' ↔
      c ∧ ∃ e₀, f s.ledger = .error e₀ ∧ e = .ledger e₀ ∧ s' = s := by
  split
  · rename_i hc
    rw [fails_ledgerChange, and_iff_right hc]
  · rename_i hc
    simp [hc]

theorem fails_raiseLockup : Fails (raiseLockup railId r amount lockup) s e s' ↔
    amount ≠ 0 ∧ ∃ e₀, s.ledger.modifyLockup railId r.lockupPeriod lockup = .error e₀ ∧
      e = .ledger e₀ ∧ s' = s :=
  fails_ledgerChange_if

theorem fails_charge : Fails (charge railId rate amount) s e s' ↔
    amount ≠ 0 ∧ ∃ e₀, s.ledger.modifyPayment railId rate amount = .error e₀ ∧
      e = .ledger e₀ ∧ s' = s :=
  fails_ledgerChange_if

theorem exists_ledger {P : Ledger → Prop} {Q : Service → Prop} :
    (∃ (_ : Unit) (t : Service), (∃ l, P l ∧ t = { s with ledger := l }) ∧ Q t) ↔
      ∃ l, P l ∧ Q { s with ledger := l } := by
  constructor
  · rintro ⟨-, _, ⟨l, hl, rfl⟩, h⟩
    exact ⟨l, hl, h⟩
  · rintro ⟨l, hl, h⟩
    exact ⟨(), _, ⟨l, hl, rfl⟩, h⟩

theorem fails_topUpEgress (h : TopUpChecked ctx id cdnAmount cacheMissAmount s d cdnRail
    cacheMissRail cdn cacheMiss cdnLockup cacheMissLockup) :
    Fails (topUpEgress ctx id cdnAmount cacheMissAmount) s e s' ↔
      Fails (raiseLockup cdnRail cdn cdnAmount cdnLockup) s e s' ∨
        ∃ l, LockupRaised s.ledger cdnRail cdn cdnAmount cdnLockup l ∧
          Fails (raiseLockup cacheMissRail cacheMiss cacheMissAmount cacheMissLockup)
            { s with ledger := l } e s' := by
  unfold topUpEgress
  rw [fails_bind_of_succeeds (succeeds_dataSet.mpr ⟨h.dataSet_eq, rfl⟩)]
  dsimp only
  rw [if_neg (Decidable.not_not.mpr h.caller), fails_bind_of_succeeds
    (succeeds_egressRails.mpr ⟨h.cdnRail_eq, h.cacheMissRail_eq, rfl⟩)]
  dsimp only
  rw [fails_bind_of_succeeds (succeeds_liveRail.mpr ⟨h.cdn_eq, h.cdn_live, rfl⟩),
    fails_bind_of_succeeds (succeeds_liveRail.mpr ⟨h.cacheMiss_eq, h.cacheMiss_live, rfl⟩),
    h.cdnLockup_eq]
  dsimp only
  rw [h.cacheMissLockup_eq]
  dsimp only
  rw [fails_bind]
  simp only [fails_bind_total fun _ => total_emit, succeeds_raiseLockup]
  exact or_congr_right exists_ledger

theorem fails_settleEgress (h : ChargeChecked ctx id cdnAmount cacheMissAmount s d cdnRail
    cacheMissRail cdn cacheMiss) :
    Fails (settleEgress ctx id cdnAmount cacheMissAmount) s e s' ↔
      Fails (charge cdnRail cdn.rate cdnAmount) s e s' ∨
        ∃ l, Charged s.ledger cdnRail cdn.rate cdnAmount l ∧
          Fails (charge cacheMissRail cacheMiss.rate cacheMissAmount)
            { s with ledger := l } e s' := by
  unfold settleEgress
  rw [fails_bind_of_succeeds (succeeds_config.mpr ⟨rfl, rfl⟩)]
  dsimp only
  rw [if_neg (Decidable.not_not.mpr h.caller),
    fails_bind_of_succeeds (succeeds_dataSet.mpr ⟨h.dataSet_eq, rfl⟩), fails_bind_of_succeeds
      (succeeds_egressRails.mpr ⟨h.cdnRail_eq, h.cacheMissRail_eq, rfl⟩)]
  dsimp only
  rw [fails_bind_of_succeeds
      (succeeds_chargeableRate.mpr ⟨cdn, h.cdn_eq, h.cdnAmount_le, rfl, rfl⟩),
    fails_bind_of_succeeds (succeeds_chargeableRate.mpr
      ⟨cacheMiss, h.cacheMiss_eq, h.cacheMissAmount_le, rfl, rfl⟩), fails_bind]
  simp only [fails_bind_total fun _ => total_emit, succeeds_charge]
  exact or_congr_right exists_ledger

theorem refusedWithin_raiseLockup : RefusedWithin R (raiseLockup railId r amount lockup) :=
  refusedWithin_ledgerChange.ite total_pure.refusedWithin

theorem refusedWithin_charge : RefusedWithin R (charge railId rate amount) :=
  refusedWithin_ledgerChange.ite total_pure.refusedWithin

theorem refusedTo_topUpEgress : RefusedTo (fun s' => s' = s ∨
      ∃ d cdnRail cacheMissRail cdn cacheMiss cdnLockup cacheMissLockup l,
        TopUpChecked ctx id cdnAmount cacheMissAmount s d cdnRail cacheMissRail cdn cacheMiss
          cdnLockup cacheMissLockup ∧
        LockupRaised s.ledger cdnRail cdn cdnAmount cdnLockup l ∧ s' = { s with ledger := l })
    (topUpEgress ctx id cdnAmount cacheMissAmount) s := by
  refine within_dataSet.bind_refusedTo (.inl rfl) fun d hd => ?_
  refine RefusedTo.guard (.inl rfl) fun hcaller => ?_
  refine within_egressRails.bind_refusedTo (.inl rfl) fun (cdnRail, cacheMissRail) hrails =>
    within_liveRail.bind_refusedTo (.inl rfl) fun cdn hcdn =>
    within_liveRail.bind_refusedTo (.inl rfl) fun cacheMiss hcacheMiss => ?_
  cases hcdnLockup : UInt256.exactAdd? cdn.lockupFixed cdnAmount with
  | none => exact refusedTo_throw (.inl rfl)
  | some cdnLockup =>
    cases hcacheMissLockup : UInt256.exactAdd? cacheMiss.lockupFixed cacheMissAmount with
    | none => exact refusedTo_throw (.inl rfl)
    | some cacheMissLockup =>
      obtain ⟨hcdnRail, hcacheMissRail, -⟩ := succeeds_egressRails.mp hrails
      obtain ⟨hcdn, hcdnLive, -⟩ := succeeds_liveRail.mp hcdn
      obtain ⟨hcacheMiss, hcacheMissLive, -⟩ := succeeds_liveRail.mp hcacheMiss
      intro e s' h
      obtain h | ⟨⟨⟩, t, hfirst, h⟩ := fails_bind.mp h
      · have hsame : s = s' := refusedWithin_raiseLockup s e s' h
        exact .inl hsame.symm
      · obtain ⟨l, hl, rfl⟩ := succeeds_raiseLockup.mp hfirst
        have hsame : _ = s' := (refusedWithin_raiseLockup.bind_total fun _ => total_emit) _ e s' h
        refine .inr ⟨d, cdnRail, cacheMissRail, cdn, cacheMiss, cdnLockup, cacheMissLockup, l, ?_,
          hl, hsame.symm⟩
        exact ⟨(succeeds_dataSet.mp hd).1, Decidable.not_not.mp hcaller, hcdnRail, hcacheMissRail,
          hcdn, hcdnLive, hcacheMiss, hcacheMissLive, hcdnLockup, hcacheMissLockup⟩

theorem refusedTo_settleEgress : RefusedTo (fun s' => s' = s ∨
      ∃ d cdnRail cacheMissRail cdn cacheMiss l,
        ChargeChecked ctx id cdnAmount cacheMissAmount s d cdnRail cacheMissRail cdn cacheMiss ∧
        Charged s.ledger cdnRail cdn.rate cdnAmount l ∧ s' = { s with ledger := l })
    (settleEgress ctx id cdnAmount cacheMissAmount) s := by
  refine within_config.bind_refusedTo (.inl rfl) fun c hc => ?_
  refine RefusedTo.guard (.inl rfl) fun hcaller => ?_
  refine within_dataSet.bind_refusedTo (.inl rfl) fun d hd =>
    within_egressRails.bind_refusedTo (.inl rfl) fun (cdnRail, cacheMissRail) hrails =>
    within_chargeableRate.bind_refusedTo (.inl rfl) fun _ hcdnRate =>
    within_chargeableRate.bind_refusedTo (.inl rfl) fun _ hcacheMissRate => ?_
  obtain ⟨rfl, -⟩ := succeeds_config.mp hc
  obtain ⟨hcdnRail, hcacheMissRail, -⟩ := succeeds_egressRails.mp hrails
  obtain ⟨cdn, hcdn, hcdnAmount, rfl, -⟩ := succeeds_chargeableRate.mp hcdnRate
  obtain ⟨cacheMiss, hcacheMiss, hcacheMissAmount, rfl, -⟩ :=
    succeeds_chargeableRate.mp hcacheMissRate
  intro e s' h
  obtain h | ⟨⟨⟩, t, hfirst, h⟩ := fails_bind.mp h
  · have hsame : s = s' := refusedWithin_charge s e s' h
    exact .inl hsame.symm
  · obtain ⟨l, hl, rfl⟩ := succeeds_charge.mp hfirst
    have hsame : _ = s' := (refusedWithin_charge.bind_total fun _ => total_emit) _ e s' h
    refine .inr ⟨d, cdnRail, cacheMissRail, cdn, cacheMiss, l, ?_, hl, hsame.symm⟩
    exact ⟨Decidable.not_not.mp hcaller, (succeeds_dataSet.mp hd).1, hcdnRail, hcacheMissRail, hcdn,
      hcdnAmount, hcacheMiss, hcacheMissAmount⟩

theorem LockupRaised.reaches (h : LockupRaised l railId r amount lockup l') : l.Reaches l' := by
  obtain ⟨-, rfl⟩ | ⟨-, h⟩ := h
  · exact .refl
  · exact Ledger.reaches_of_modifyLockup h

theorem Charged.reaches (h : Charged l railId rate amount l') : l.Reaches l' := by
  obtain ⟨-, rfl⟩ | ⟨-, h⟩ := h
  · exact .refl
  · exact Ledger.reaches_of_modifyPayment h

theorem refusedWithin_topUpEgress :
    RefusedWithin SameButLedger (topUpEgress ctx id cdnAmount cacheMissAmount) := by
  intro s e s' h
  obtain rfl | ⟨_, _, _, _, _, _, _, l, -, hcdn, rfl⟩ := refusedTo_topUpEgress e s' h
  · exact refl_of SameButLedger _
  · exact ⟨rfl, rfl, rfl, rfl, hcdn.reaches⟩

theorem refusedWithin_settleEgress :
    RefusedWithin SameButLedger (settleEgress ctx id cdnAmount cacheMissAmount) := by
  intro s e s' h
  obtain rfl | ⟨_, _, _, _, _, l, -, hcdn, rfl⟩ := refusedTo_settleEgress e s' h
  · exact refl_of SameButLedger _
  · exact ⟨rfl, rfl, rfl, rfl, hcdn.reaches⟩

end WarmStorage.ServiceM

import WarmStorage.Proofs.Ledger.Operations

/-!
What an operation does to the ledger. There are five kinds of effects, and whatever is true of the
ledger over a whole run splits on them: funds are added, allowances are set, a rail is opened, put
in place of itself with other payments, or ended. Only the fourth moves what is counted, and it does
so by exactly what the rail holds more or less.
-/

namespace WarmStorage.Ledger

inductive Effect (l l' : Ledger) : Prop where
  | deposited {token owner : Address} {amount : TokenAmount}
      (eq : l' = l.deposit token owner amount)
  | approved {token client operator : Address} {rate lockup : TokenAmount} {period : UInt64}
      (eq : l' = l.approve token client operator rate lockup period)
  | opened {terms : RailTerms}
      (eq : l' = { l with
        lastRail := l.lastRail + 1
        rails := l.rails.insert (l.lastRail + 1) { toRailTerms := terms } })
  | changed {id : RailId} {old new : Rail} {oneTime : TokenAmount} {m : Ledger}
      (hold : l.rail? id = some old) (terms : new.toRailTerms = old.toRailTerms)
      (h : l.changeRail id old new = .ok m) (eq : l' = m.pay old.toRailTerms oneTime)
  | ended {id : RailId} {r : Rail} {endEpoch : Epoch} (hr : l.rail? id = some r)
      (eq : l' = { l with rails := l.rails.insert id { r with endEpoch := endEpoch } })

variable {l l' : Ledger} {id : RailId} {old new : Rail} {op : Operation} {answer : Answer}
  {a b : Approval} {token client operator owner : Address}

theorem effect_of_perform (h : l.perform op = .ok (answer, l')) : Effect l l' := by
  cases performed_of_perform h with
  | deposited => exact .deposited rfl
  | approved => exact .approved rfl
  | opened hcreate =>
    obtain ⟨-, rfl, rfl⟩ := createRail_eq_ok_iff.mp hcreate
    exact .opened rfl
  | held hmodify =>
    obtain ⟨old, hold, -, hchange⟩ := modifyLockup_eq_ok_iff.mp hmodify
    exact .changed hold (by rfl) hchange (show _ = Ledger.pay _ _ 0 from rfl)
  | paid hmodify =>
    obtain ⟨old, m, hold, -, -, hchange, rfl⟩ := modifyPayment_eq_ok_iff.mp hmodify
    exact .changed hold (by rfl) hchange rfl
  | ended hterminate =>
    obtain ⟨r, hr, -, -, rfl⟩ := terminate_eq_ok_iff.mp hterminate
    exact .ended hr rfl

theorem operate_preserves {P : Ledger → Prop} (step : ∀ l l', P l → Effect l l' → P l') (h : P l) :
    P (l.operate op).2 := by
  unfold operate
  cases hperform : l.perform op with
  | error e => exact h
  | ok r => exact step _ _ h (effect_of_perform hperform)

theorem run_preserves {P : Ledger → Prop} (step : ∀ l l', P l → Effect l l' → P l')
    (ops : List Operation) (h : P l) : P (l.run ops) := by
  induction ops generalizing l with
  | nil => exact h
  | cons op ops ih => exact ih (operate_preserves step h)

theorem run_append {ops ops' : List Operation} : l.run (ops ++ ops') = (l.run ops).run ops' :=
  List.foldl_append

/-- Operations lead from one ledger to the other. -/
def Reaches (l l' : Ledger) : Prop :=
  ∃ ops, l' = l.run ops

theorem Reaches.refl : l.Reaches l :=
  ⟨[], rfl⟩

theorem Reaches.trans {m : Ledger} (h : l.Reaches m) (h' : m.Reaches l') : l.Reaches l' := by
  obtain ⟨ops, rfl⟩ := h
  obtain ⟨ops', rfl⟩ := h'
  exact ⟨ops ++ ops', run_append.symm⟩

theorem reaches_operate : l.Reaches (l.operate op).2 :=
  ⟨[op], rfl⟩

theorem reaches_of_perform (h : l.perform op = .ok (answer, l')) : l.Reaches l' := by
  have hoperate : l.Reaches (l.operate op).2 := reaches_operate
  rw [operate_eq_ok_iff.mpr h] at hoperate
  exact hoperate

theorem reaches_of_createRail {terms : RailTerms} (h : l.createRail terms = .ok (id, l')) :
    l.Reaches l' := by
  have hperform : l.perform (.createRail terms) = .ok (.opened id, l') :=
    bind_eq_ok_iff.mpr ⟨_, h, rfl⟩
  exact reaches_of_perform hperform

theorem reaches_of_modifyLockup {period : UInt64} {fixed : TokenAmount}
    (h : l.modifyLockup id period fixed = .ok l') : l.Reaches l' := by
  have hperform : l.perform (.modifyLockup id period fixed) = .ok (.done, l') :=
    bind_eq_ok_iff.mpr ⟨_, h, rfl⟩
  exact reaches_of_perform hperform

theorem reaches_of_modifyPayment {rate oneTime : TokenAmount}
    (h : l.modifyPayment id rate oneTime = .ok l') : l.Reaches l' := by
  have hperform : l.perform (.modifyPayment id rate oneTime) = .ok (.done, l') :=
    bind_eq_ok_iff.mpr ⟨_, h, rfl⟩
  exact reaches_of_perform hperform

theorem reaches_of_terminate {epoch endEpoch : Epoch}
    (h : l.terminate id epoch = .ok (endEpoch, l')) : l.Reaches l' := by
  have hperform : l.perform (.terminate id epoch) = .ok (.endEpoch endEpoch, l') :=
    bind_eq_ok_iff.mpr ⟨_, h, rfl⟩
  exact reaches_of_perform hperform

theorem chargeRate_eq {old new : TokenAmount} (h : chargeRate a old new = .ok b) :
    b = { a with rateUsage := b.rateUsage } := by
  obtain ⟨-, -, rfl⟩ | ⟨-, rfl⟩ := chargeRate_eq_ok_iff.mp h
  · rfl
  · rfl

theorem toNat_rateUsage_of_chargeRate {old new : TokenAmount} (h : chargeRate a old new = .ok b)
    (counted : old.toNat ≤ a.rateUsage.toNat) :
    b.rateUsage.toNat + old.toNat = a.rateUsage.toNat + new.toNat := by
  obtain ⟨hlt, hallowed, rfl⟩ | ⟨hle, rfl⟩ := chargeRate_eq_ok_iff.mp h
  · exact (toNat_raise hlt hallowed).1
  · exact toNat_lower hle counted

theorem rateUsage_le_of_chargeRate {old new : TokenAmount} (h : chargeRate a old new = .ok b)
    (raised : a.rateUsage < b.rateUsage) : b.rateUsage ≤ b.rateAllowance := by
  obtain ⟨hlt, hallowed, rfl⟩ | ⟨-, rfl⟩ := chargeRate_eq_ok_iff.mp h
  · exact (toNat_raise hlt hallowed).2
  · rw [BitVec.lt_def, UInt256.toNat_clampSub] at raised
    omega

theorem chargeLockup_eq {c c' : Account} {old new : TokenAmount}
    (h : chargeLockup a c old new = .ok (b, c')) :
    b = { a with lockupUsage := b.lockupUsage } ∧ c' = { c with locked := c'.locked } := by
  obtain ⟨-, -, -, rfl, rfl⟩ | ⟨-, rfl, rfl⟩ := chargeLockup_eq_ok_iff.mp h
  · exact ⟨rfl, rfl⟩
  · exact ⟨rfl, rfl⟩

theorem toNat_lockupUsage_of_chargeLockup {c c' : Account} {old new : TokenAmount}
    (h : chargeLockup a c old new = .ok (b, c')) (counted : old.toNat ≤ a.lockupUsage.toNat) :
    b.lockupUsage.toNat + old.toNat = a.lockupUsage.toNat + new.toNat := by
  obtain ⟨hlt, hallowed, -, rfl, -⟩ | ⟨hle, rfl, -⟩ := chargeLockup_eq_ok_iff.mp h
  · exact (toNat_raise hlt hallowed).1
  · exact toNat_lower hle counted

theorem toNat_locked_of_chargeLockup {c c' : Account} {old new : TokenAmount}
    (h : chargeLockup a c old new = .ok (b, c')) (counted : old.toNat ≤ c.locked.toNat) :
    c'.locked.toNat + old.toNat = c.locked.toNat + new.toNat := by
  obtain ⟨hlt, -, hfunded, -, rfl⟩ | ⟨hle, -, rfl⟩ := chargeLockup_eq_ok_iff.mp h
  · exact (toNat_raise hlt hfunded).1
  · exact toNat_lower hle counted

theorem lockupUsage_le_of_chargeLockup {c c' : Account} {old new : TokenAmount}
    (h : chargeLockup a c old new = .ok (b, c')) (raised : a.lockupUsage < b.lockupUsage) :
    b.lockupUsage ≤ b.lockupAllowance := by
  obtain ⟨hlt, hallowed, -, rfl, -⟩ | ⟨-, rfl, -⟩ := chargeLockup_eq_ok_iff.mp h
  · exact (toNat_raise hlt hallowed).2
  · rw [BitVec.lt_def, UInt256.toNat_clampSub] at raised
    omega

theorem approval_of_changeRail (h : l.changeRail id old new = .ok l') :
    l'.approval token client operator =
      { l.approval token client operator with
        rateUsage := (l'.approval token client operator).rateUsage
        lockupUsage := (l'.approval token client operator).lockupUsage } := by
  obtain ⟨-, -, a, b, c, hrate, hlockup, rfl⟩ := changeRail_eq_ok_iff.mp h
  rw [approval_withRail]
  split
  · rename_i hkey
    obtain ⟨rfl, rfl, rfl⟩ := hkey
    have hb := (chargeLockup_eq hlockup).1
    have husage : b.rateUsage = a.rateUsage := by
      rw [hb]
    rw [husage]
    apply hb.trans
    rw [chargeRate_eq hrate]
  · rfl

theorem account_of_changeRail (h : l.changeRail id old new = .ok l') :
    l'.account token owner =
      { l.account token owner with locked := (l'.account token owner).locked } := by
  obtain ⟨-, -, a, b, c, -, hlockup, rfl⟩ := changeRail_eq_ok_iff.mp h
  rw [account_withRail]
  split
  · rename_i hkey
    obtain ⟨rfl, rfl⟩ := hkey
    exact (chargeLockup_eq hlockup).2
  · rfl

structure Counts (l : Ledger) (r : Rail) : Prop where
  rate : r.rate.toNat ≤ (l.approval r.token r.payer r.operator).rateUsage.toNat
  lockup : r.lockup.toNat ≤ (l.approval r.token r.payer r.operator).lockupUsage.toNat
  locked : r.lockup.toNat ≤ (l.account r.token r.payer).locked.toNat

/-- The counters move by exactly what `new` holds more or less than `old`. -/
structure Recounted (l : Ledger) (old new : Rail) (l' : Ledger) : Prop where
  rate : (l'.approval new.token new.payer new.operator).rateUsage.toNat + old.rate.toNat =
    (l.approval new.token new.payer new.operator).rateUsage.toNat + new.rate.toNat
  lockup : (l'.approval new.token new.payer new.operator).lockupUsage.toNat + old.lockup.toNat =
    (l.approval new.token new.payer new.operator).lockupUsage.toNat + new.lockup.toNat
  locked : (l'.account new.token new.payer).locked.toNat + old.lockup.toNat =
    (l.account new.token new.payer).locked.toNat + new.lockup.toNat

theorem recounted_of_changeRail (terms : new.toRailTerms = old.toRailTerms) (counts : l.Counts old)
    (h : l.changeRail id old new = .ok l') : l.Recounted old new l' := by
  obtain ⟨-, -, a, b, c, hrate, hlockup, rfl⟩ := changeRail_eq_ok_iff.mp h
  obtain ⟨hrateCounted, hlockupCounted, hlockedCounted⟩ := counts
  rw [← terms] at hrateCounted hlockupCounted hlockedCounted
  have hrateUsage : b.rateUsage = a.rateUsage := by
    rw [(chargeLockup_eq hlockup).1]
  have hlockupUsage : a.lockupUsage =
      (l.approval new.token new.payer new.operator).lockupUsage := by
    rw [chargeRate_eq hrate]
  constructor
  · rw [approval_withRail, if_pos ⟨rfl, rfl, rfl⟩, hrateUsage]
    exact toNat_rateUsage_of_chargeRate hrate hrateCounted
  · rw [approval_withRail, if_pos ⟨rfl, rfl, rfl⟩, ← hlockupUsage]
    rw [← hlockupUsage] at hlockupCounted
    exact toNat_lockupUsage_of_chargeLockup hlockup hlockupCounted
  · rw [account_withRail, if_pos ⟨rfl, rfl⟩]
    exact toNat_locked_of_chargeLockup hlockup hlockedCounted

/-- What an operation raises it leaves within the allowance. -/
structure RaisedWithinAllowance (a b : Approval) : Prop where
  rate : a.rateUsage < b.rateUsage → b.rateUsage ≤ b.rateAllowance
  lockup : a.lockupUsage < b.lockupUsage → b.lockupUsage ≤ b.lockupAllowance

theorem RaisedWithinAllowance.of_eq (hrate : b.rateUsage = a.rateUsage)
    (hlockup : b.lockupUsage = a.lockupUsage) : RaisedWithinAllowance a b := by
  constructor
  · intro h
    rw [hrate] at h
    exact absurd h (BitVec.lt_irrefl _)
  · intro h
    rw [hlockup] at h
    exact absurd h (BitVec.lt_irrefl _)

theorem Effect.raisedWithinAllowance (heffect : Effect l l') :
    RaisedWithinAllowance (l.approval token client operator)
      (l'.approval token client operator) := by
  cases heffect with
  | deposited eq =>
    rw [eq]
    exact .of_eq rfl rfl
  | approved eq =>
    rw [eq, approval_approve]
    split
    · exact .of_eq rfl rfl
    · exact .of_eq rfl rfl
  | opened eq =>
    rw [eq]
    exact .of_eq rfl rfl
  | ended hr eq =>
    rw [eq]
    exact .of_eq rfl rfl
  | @changed id old new oneTime m hold terms h eq =>
    obtain ⟨-, -, a, b, c, hrate, hlockup, rfl⟩ := changeRail_eq_ok_iff.mp h
    rw [eq, approval_pay, approval_withRail]
    split
    · rename_i hkey
      rw [← hkey.1, ← hkey.2.1, ← hkey.2.2]
      have hb := (chargeLockup_eq hlockup).1
      have ha := chargeRate_eq hrate
      constructor
      · intro raised
        rw [hb] at raised ⊢
        have hle : a.rateUsage ≤ a.rateAllowance := rateUsage_le_of_chargeRate hrate raised
        exact hle
      · intro raised
        apply lockupUsage_le_of_chargeLockup hlockup
        rw [ha]
        exact raised
    · exact .of_eq rfl rfl

end WarmStorage.Ledger

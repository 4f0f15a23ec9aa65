import WarmStorage.Proofs.Ledger.Backing
import WarmStorage.Proofs.Ledger.Rails

/-!
When the ledger admits a change of a rail. What a rail is to hold more has to be left of an
allowance and of funds, and is taken from both: two changes are admitted one after the other exactly
if what they take together is left. A charge takes nothing, since it frees what it pays.
-/

namespace WarmStorage

namespace Rail

variable {r : Rail} {fixed fixed' : TokenAmount}

def withFixed (r : Rail) (fixed : TokenAmount) : Rail :=
  { r with lockupFixed := fixed }

def withRate (r : Rail) (rate : TokenAmount) : Rail :=
  { r with rate := rate }

theorem withRate_eq {rate : TokenAmount} :
    { r with rate := rate, lockupFixed := r.lockupFixed - 0 } = r.withRate rate := by
  have hkept : r.lockupFixed - 0 = r.lockupFixed := BitVec.sub_zero _
  rw [hkept]
  rfl

theorem lockup_withFixed_le (r : Rail) (h : fixed ≤ fixed') :
    (r.withFixed fixed).lockup ≤ (r.withFixed fixed').lockup := by
  rw [BitVec.le_def] at h ⊢
  simp only [withFixed, lockup, UInt256.toNat_clampAdd]
  omega

def growth (r : Rail) (fixed : TokenAmount) : Nat :=
  (r.withFixed fixed).lockup.toNat - r.lockup.toNat

theorem growth_lockupFixed (r : Rail) : r.growth r.lockupFixed = 0 :=
  Nat.sub_self _

end Rail

namespace Ledger

variable {l l' : Ledger} {token client operator : Address} {period max : UInt64} {need rest : Nat}
  {fixed amount : TokenAmount} {a : Approval} {c : Account} {id other : RailId} {r old new : Rail}

structure Affords (l : Ledger) (token client operator : Address) (period : UInt64) (need : Nat) :
    Prop where
  approved : (l.approval token client operator).isApproved = true
  period : period ≤ (l.approval token client operator).maxLockupPeriod
  allowance : need ≤ (l.approval token client operator).remainingLockup.toNat
  funds : need ≤ (l.account token client).available.toNat

theorem Affords.mono (h : l.Affords token client operator period need) (hle : rest ≤ need) :
    l.Affords token client operator period rest :=
  ⟨h.approved, h.period, Nat.le_trans hle h.allowance, Nat.le_trans hle h.funds⟩

theorem exists_chargeLockup_iff {old new : TokenAmount} :
    (∃ b c', chargeLockup a c old new = .ok (b, c')) ↔
      new.toNat - old.toNat ≤ a.remainingLockup.toNat ∧
        new.toNat - old.toNat ≤ c.available.toNat := by
  simp only [chargeLockup_eq_ok_iff]
  by_cases hlt : old < new
  · have hsub : (new - old).toNat = new.toNat - old.toNat :=
      BitVec.toNat_sub_of_le (BitVec.le_of_lt hlt)
    simp only [hlt, not_true, false_and, or_false, true_and, BitVec.not_lt, BitVec.le_def, hsub]
    constructor
    · rintro ⟨b, c', hallowed, hfunded, -⟩
      exact ⟨hallowed, hfunded⟩
    · rintro ⟨hallowed, hfunded⟩
      exact ⟨_, _, hallowed, hfunded, rfl, rfl⟩
  · rw [BitVec.not_lt, BitVec.le_def] at hlt
    simp [BitVec.lt_def, Nat.not_lt.mpr hlt, Nat.sub_eq_zero_of_le hlt]

theorem exists_chargeRate_iff {old new : TokenAmount} : (∃ b, chargeRate a old new = .ok b) ↔
    new.toNat - old.toNat ≤ a.remainingRate.toNat := by
  simp only [chargeRate_eq_ok_iff]
  by_cases hlt : old < new
  · have hsub : (new - old).toNat = new.toNat - old.toNat :=
      BitVec.toNat_sub_of_le (BitVec.le_of_lt hlt)
    simp [hlt, BitVec.lt_def, hsub]
  · rw [BitVec.not_lt, BitVec.le_def] at hlt
    simp [BitVec.lt_def, Nat.not_lt.mpr hlt, Nat.sub_eq_zero_of_le hlt]

theorem exists_changeRail_iff : (∃ l', l.changeRail id old new = .ok l') ↔
    new.rate.toNat - old.rate.toNat ≤
        (l.approval new.token new.payer new.operator).remainingRate.toNat ∧
      l.Affords new.token new.payer new.operator new.lockupPeriod
        (new.lockup.toNat - old.lockup.toNat) := by
  simp only [changeRail_eq_ok_iff]
  constructor
  · rintro ⟨l', happroved, hperiod, a, b, c, hcharged, hlockup, -⟩
    obtain ⟨hallowed, hfunded⟩ := exists_chargeLockup_iff.mp ⟨b, c, hlockup⟩
    have hremaining : a.remainingLockup =
        (l.approval new.token new.payer new.operator).remainingLockup := by
      rw [chargeRate_eq hcharged]
      rfl
    rw [hremaining] at hallowed
    exact ⟨exists_chargeRate_iff.mp ⟨a, hcharged⟩, happroved, hperiod, hallowed, hfunded⟩
  · rintro ⟨hrate, happroved, hperiod, hallowed, hfunded⟩
    obtain ⟨a, hcharged⟩ := exists_chargeRate_iff.mpr hrate
    -- charging the rate leaves the allowance for the lockup as it was
    have hremaining : a.remainingLockup =
        (l.approval new.token new.payer new.operator).remainingLockup := by
      rw [chargeRate_eq hcharged]
      rfl
    rw [← hremaining] at hallowed
    obtain ⟨b, c, hlockup⟩ := exists_chargeLockup_iff.mpr ⟨hallowed, hfunded⟩
    exact ⟨_, happroved, hperiod, a, b, c, hcharged, hlockup, rfl⟩

theorem exists_changeRail_of_rate_iff (hrate : new.rate = old.rate) :
    (∃ l', l.changeRail id old new = .ok l') ↔ l.Affords new.token new.payer new.operator
      new.lockupPeriod (new.lockup.toNat - old.lockup.toNat) := by
  rw [exists_changeRail_iff, hrate, Nat.sub_self]
  exact and_iff_right (Nat.zero_le _)

theorem affords_changeRail_iff (hterms : new.toRailTerms = old.toRailTerms)
    (hrate : new.rate = old.rate) (counts : l.Counts old) (hle : old.lockup ≤ new.lockup)
    (h : l.changeRail id old new = .ok l') :
    l'.Affords new.token new.payer new.operator period rest ↔
      l.Affords new.token new.payer new.operator period
        (new.lockup.toNat - old.lockup.toNat + rest) := by
  obtain ⟨-, -, hallowed, hfunded⟩ := (exists_changeRail_of_rate_iff hrate).mp ⟨l', h⟩
  obtain ⟨-, husage, hlocked⟩ := recounted_of_changeRail hterms counts h
  rw [BitVec.le_def] at hle
  have happroved : (l'.approval new.token new.payer new.operator).isApproved =
      (l.approval new.token new.payer new.operator).isApproved := by
    rw [approval_of_changeRail h]
  have hmax : (l'.approval new.token new.payer new.operator).maxLockupPeriod =
      (l.approval new.token new.payer new.operator).maxLockupPeriod := by
    rw [approval_of_changeRail h]
  have hremaining : (l'.approval new.token new.payer new.operator).remainingLockup.toNat =
      (l.approval new.token new.payer new.operator).remainingLockup.toNat -
        (new.lockup.toNat - old.lockup.toNat) := by
    rw [approval_of_changeRail h]
    simp only [Approval.remainingLockup, UInt256.toNat_clampSub]
    omega
  have havailable : (l'.account new.token new.payer).available.toNat =
      (l.account new.token new.payer).available.toNat -
        (new.lockup.toNat - old.lockup.toNat) := by
    rw [account_of_changeRail h]
    simp only [Account.available, UInt256.toNat_clampSub]
    omega
  constructor
  · rintro ⟨approved, period, allowance, funds⟩
    rw [happroved] at approved
    rw [hmax] at period
    exact ⟨approved, period, by omega, by omega⟩
  · rintro ⟨approved, period, allowance, funds⟩
    rw [← happroved] at approved
    rw [← hmax] at period
    exact ⟨approved, period, by omega, by omega⟩

theorem counts_of_idle (hrate : r.rate = 0) (hlockup : r.lockup.toNat = 0) :
    l.Counts r := by
  constructor
  · rw [hrate]
    exact Nat.zero_le _
  · rw [hlockup]
    exact Nat.zero_le _
  · rw [hlockup]
    exact Nat.zero_le _

theorem Affords.changeRail (id : RailId) {old new : Rail}
    (hterms : new.toRailTerms = old.toRailTerms)
    (hold : old.rate = 0 ∧ old.lockup.toNat = 0) (hnew : new.rate = 0)
    (h : l.Affords new.token new.payer new.operator max (new.lockup.toNat + rest))
    (hperiod : new.lockupPeriod ≤ max) :
    ∃ l', l.changeRail id old new = .ok l' ∧
      l'.Affords new.token new.payer new.operator max rest := by
  have hrate : new.rate = old.rate := hnew.trans hold.1.symm
  have hgrowth : new.lockup.toNat - old.lockup.toNat = new.lockup.toNat := by
    rw [hold.2, Nat.sub_zero]
  have hneed : l.Affords new.token new.payer new.operator new.lockupPeriod
      (new.lockup.toNat - old.lockup.toNat) := by
    obtain ⟨happroved, hmax, hallowance, hfunds⟩ := h.mono (Nat.le_add_right _ rest)
    rw [hgrowth]
    exact ⟨happroved, UInt64.le_trans hperiod hmax, hallowance, hfunds⟩
  obtain ⟨l', hchange⟩ := (exists_changeRail_of_rate_iff hrate).mpr hneed
  have hcounts : l.Counts old := counts_of_idle hold.1 hold.2
  have hle : old.lockup ≤ new.lockup := by
    rw [BitVec.le_def, hold.2]
    exact Nat.zero_le _
  refine ⟨l', hchange, ?_⟩
  rw [affords_changeRail_iff hterms hrate hcounts hle hchange, hgrowth]
  exact h

theorem exists_modifyLockup_iff (hr : l.rail? id = some r) (live : r.isTerminated = false) :
    (∃ l', l.modifyLockup id r.lockupPeriod fixed = .ok l') ↔
      l.Affords r.token r.payer r.operator r.lockupPeriod (r.growth fixed) := by
  have hchange : (∃ l', l.changeRail id r (r.withFixed fixed) = .ok l') ↔
      l.Affords r.token r.payer r.operator r.lockupPeriod (r.growth fixed) :=
    exists_changeRail_of_rate_iff (by rfl)
  rw [← hchange]
  simp only [modifyLockup_eq_ok_iff]
  constructor
  · rintro ⟨l', old, hold, -, h⟩
    rw [hr, Option.some.injEq] at hold
    subst hold
    exact ⟨l', h⟩
  · rintro ⟨l', h⟩
    exact ⟨l', r, hr, live, h⟩

theorem affords_modifyLockup_iff (covered : l.Counted (· ≤ ·)) (hr : l.rail? id = some r)
    (hle : r.lockupFixed ≤ fixed) (h : l.modifyLockup id r.lockupPeriod fixed = .ok l') :
    l'.Affords r.token r.payer r.operator period rest ↔
      l.Affords r.token r.payer r.operator period (r.growth fixed + rest) := by
  obtain ⟨old, hold, -, hchange⟩ := modifyLockup_eq_ok_iff.mp h
  rw [hr, Option.some.injEq] at hold
  subst hold
  have hchange : l.changeRail id r (r.withFixed fixed) = .ok l' := hchange
  exact affords_changeRail_iff (by rfl) (by rfl) (covered.counts hr) (r.lockup_withFixed_le hle)
    hchange

structure Chargeable (l : Ledger) (r : Rail) : Prop where
  live : r.isTerminated = false
  approved : (l.approval r.token r.payer r.operator).isApproved = true
  period : r.lockupPeriod ≤ (l.approval r.token r.payer r.operator).maxLockupPeriod

theorem exists_modifyPayment_iff (hr : l.rail? id = some r) (hpaid : amount ≤ r.lockupFixed) :
    (∃ l', l.modifyPayment id r.rate amount = .ok l') ↔ l.Chargeable r := by
  -- what a charged rail holds is no more than what it held
  have hfreed : (r.withFixed (r.lockupFixed - amount)).lockup.toNat - r.lockup.toNat = 0 := by
    apply Nat.sub_eq_zero_of_le
    apply BitVec.le_def.mp (r.lockup_withFixed_le _)
    rw [BitVec.le_def, BitVec.toNat_sub_of_le hpaid]
    exact Nat.sub_le _ _
  have hchange : (∃ l', l.changeRail id r (r.withFixed (r.lockupFixed - amount)) = .ok l') ↔
      l.Affords r.token r.payer r.operator r.lockupPeriod
        ((r.withFixed (r.lockupFixed - amount)).lockup.toNat - r.lockup.toNat) :=
    exists_changeRail_of_rate_iff (by rfl)
  rw [hfreed] at hchange
  simp only [modifyPayment_eq_ok_iff]
  constructor
  · rintro ⟨l', old, m, hold, live, -, h, -⟩
    rw [hr, Option.some.injEq] at hold
    subst hold
    obtain ⟨approved, period, -, -⟩ := hchange.mp ⟨m, h⟩
    exact ⟨live, approved, period⟩
  · rintro ⟨live, approved, period⟩
    obtain ⟨m, h⟩ := hchange.mpr ⟨approved, period, Nat.zero_le _, Nat.zero_le _⟩
    exact ⟨_, r, m, hr, live, hpaid, h, rfl⟩

theorem exists_modifyPayment_of_rate_iff {rate : TokenAmount} (hr : l.rail? id = some r)
    (live : r.isTerminated = false) : (∃ l', l.modifyPayment id rate 0 = .ok l') ↔
      rate.toNat - r.rate.toNat ≤ (l.approval r.token r.payer r.operator).remainingRate.toNat ∧
        l.Affords r.token r.payer r.operator r.lockupPeriod
          ((r.withRate rate).lockup.toNat - r.lockup.toNat) := by
  have hchange : (∃ l', l.changeRail id r (r.withRate rate) = .ok l') ↔
      rate.toNat - r.rate.toNat ≤ (l.approval r.token r.payer r.operator).remainingRate.toNat ∧
        l.Affords r.token r.payer r.operator r.lockupPeriod
          ((r.withRate rate).lockup.toNat - r.lockup.toNat) :=
    exists_changeRail_iff
  rw [← hchange]
  simp only [modifyPayment_eq_ok_iff]
  constructor
  · rintro ⟨l', old, m, hold, -, -, h, -⟩
    rw [hr, Option.some.injEq] at hold
    subst hold
    rw [Rail.withRate_eq] at h
    exact ⟨m, h⟩
  · rintro ⟨m, h⟩
    rw [← Rail.withRate_eq] at h
    exact ⟨_, r, m, hr, live, BitVec.le_def.mpr (Nat.zero_le _), h, rfl⟩

end Ledger

end WarmStorage

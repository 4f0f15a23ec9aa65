import Mathlib.Data.List.Induction
import WarmStorage.Proofs.Ledger.Usage

/-!
Whether the funds of an account cover what rails hold in it. A change of a rail is admitted when the
funds that no rail holds cover what it holds more. A payment leaves the account only after that
test, so a payment that raises the rate as well can leave an account with less than what is locked
in it. Every other operation keeps accounts backed.
-/

namespace WarmStorage

def Rail.paid (r : Rail) (rate oneTime : TokenAmount) : Rail :=
  { r with rate := rate, lockupFixed := r.lockupFixed - oneTime }

theorem Rail.lockupFixed_le_lockup (r : Rail) : r.lockupFixed.toNat ≤ r.lockup.toNat := by
  have := r.lockupFixed.isLt
  rw [lockup, UInt256.toNat_clampAdd]
  omega

/-- Below the largest amount, a payment frees what it takes unless it raises the rate. -/
theorem Rail.lockup_paid_add_le {r : Rail} {rate oneTime : TokenAmount} (hrate : rate ≤ r.rate)
    (hpaid : oneTime ≤ r.lockupFixed) (hlt : r.lockup < UInt256.largest) :
    (r.paid rate oneTime).lockup.toNat + oneTime.toNat ≤ r.lockup.toNat := by
  have hfixed : (r.lockupFixed - oneTime).toNat = r.lockupFixed.toNat - oneTime.toNat :=
    BitVec.toNat_sub_of_le hpaid
  have hstreamed : rate.toNat * r.lockupPeriod.toNat ≤ r.rate.toNat * r.lockupPeriod.toNat :=
    Nat.mul_le_mul_right _ hrate
  rw [BitVec.le_def] at hpaid
  rw [BitVec.lt_def, UInt256.toNat_largest] at hlt
  simp only [lockup, paid, UInt256.toNat_clampAdd, UInt256.toNat_clampMul, UInt256.toNat_ofWord,
    hfixed] at hlt ⊢
  omega

namespace Ledger

variable {l l' m : Ledger} {id : RailId} {old new : Rail} {ops : List Operation} {op : Operation}
  {terms : RailTerms} {rate oneTime amount : TokenAmount} {a b : Approval} {answer : Answer}

def Backed (l : Ledger) : Prop :=
  ∀ token owner, (l.account token owner).locked ≤ (l.account token owner).funds

theorem backed_empty : Backed .empty := by
  intro token owner
  exact BitVec.le_refl _

theorem Backed.of_accounts (h : l.Backed) (haccounts : l'.accounts = l.accounts) : l'.Backed := by
  intro token owner
  unfold account
  rw [haccounts]
  exact h token owner

theorem Backed.deposit {token owner : Address} (h : l.Backed) :
    (l.deposit token owner amount).Backed := by
  intro token' owner'
  have hle := h token' owner'
  rw [account_deposit]
  split
  · have := (l.account token' owner').funds.isLt
    rw [BitVec.le_def] at hle ⊢
    simp only [UInt256.toNat_clampAdd]
    omega
  · exact hle

theorem locked_le_funds_of_chargeLockup {c c' : Account} {old new : TokenAmount}
    (h : chargeLockup a c old new = .ok (b, c')) (backed : c.locked ≤ c.funds) :
    c'.locked ≤ c'.funds := by
  obtain ⟨hlt, -, hfunded, -, rfl⟩ | ⟨-, -, rfl⟩ := chargeLockup_eq_ok_iff.mp h
  · exact (toNat_raise hlt hfunded).2
  · rw [BitVec.le_def] at backed ⊢
    simp only [UInt256.toNat_clampSub]
    omega

theorem Backed.changeRail (h : l.Backed) (hchange : l.changeRail id old new = .ok l') :
    l'.Backed := by
  obtain ⟨-, -, a, b, c, -, hlockup, rfl⟩ := changeRail_eq_ok_iff.mp hchange
  intro token owner
  rw [account_withRail]
  split
  · exact locked_le_funds_of_chargeLockup hlockup (h new.token new.payer)
  · exact h token owner

theorem funds_of_changeRail (token owner : Address) (h : l.changeRail id old new = .ok l') :
    (l'.account token owner).funds = (l.account token owner).funds := by
  rw [account_of_changeRail h]

theorem backed_pay_iff (h : m.Backed)
    (hpaid : amount ≤ (m.account terms.token terms.payer).funds) :
    (m.pay terms amount).Backed ↔
      (m.account terms.token terms.payer).locked.toNat + amount.toNat ≤
        (m.account terms.token terms.payer).funds.toNat := by
  rw [BitVec.le_def] at hpaid
  constructor
  · intro hbacked
    have hle := hbacked terms.token terms.payer
    rw [account_pay, if_pos ⟨rfl, rfl⟩, BitVec.le_def] at hle
    simp only [UInt256.toNat_clampSub] at hle
    omega
  · intro hle token owner
    rw [account_pay]
    split
    · rename_i hkey
      rw [hkey.1, hkey.2] at hle
      rw [BitVec.le_def]
      simp only [UInt256.toNat_clampSub]
      omega
    · exact h token owner

/--
Whether an operation that pays leaves enough: what the rail holds afterwards and the payment come
out of what the rail held before and the funds that no rail holds.
-/
def PaysFromFunds (l : Ledger) (op : Operation) : Prop :=
  ∀ id rate oneTime old l', op = .modifyPayment id rate oneTime → l.rail? id = some old →
    l.modifyPayment id rate oneTime = .ok l' →
    (old.paid rate oneTime).lockup.toNat + oneTime.toNat ≤
      old.lockup.toNat + (l.account old.token old.payer).available.toNat

theorem oneTime_le_funds (backed : l.Backed) (covered : l.Counted (· ≤ ·))
    (hold : l.rail? id = some old) (hpaid : oneTime ≤ old.lockupFixed) :
    oneTime ≤ (l.account old.token old.payer).funds := by
  have hlocked := (covered.counts hold).locked
  have hfixed := old.lockupFixed_le_lockup
  have hfunds := backed old.token old.payer
  rw [BitVec.le_def] at hpaid hfunds ⊢
  omega

theorem backed_modifyPayment_iff (backed : l.Backed) (covered : l.Counted (· ≤ ·))
    (hold : l.rail? id = some old) (h : l.modifyPayment id rate oneTime = .ok l') :
    l'.Backed ↔ (old.paid rate oneTime).lockup.toNat + oneTime.toNat ≤
      old.lockup.toNat + (l.account old.token old.payer).available.toNat := by
  obtain ⟨r, m, hr, -, hpaid, hchange, rfl⟩ := modifyPayment_eq_ok_iff.mp h
  rw [hold, Option.some.injEq] at hr
  subst hr
  have hfunds := funds_of_changeRail old.token old.payer hchange
  have hpaidFunds := oneTime_le_funds backed covered hold hpaid
  have hlocked :=
    (recounted_of_changeRail (by rfl) (covered.counts hold) hchange).locked
  have hle := backed old.token old.payer
  rw [← hfunds] at hpaidFunds
  rw [backed_pay_iff (backed.changeRail hchange) hpaidFunds, hfunds, Account.available,
    UInt256.toNat_clampSub]
  rw [BitVec.le_def] at hle
  simp only [Rail.paid] at hlocked ⊢
  omega

theorem Backed.perform (backed : l.Backed) (h : l.perform op = .ok (answer, l'))
    (hop : ∀ id rate oneTime, op ≠ .modifyPayment id rate oneTime) : l'.Backed := by
  cases performed_of_perform h with
  | deposited => exact backed.deposit
  | approved => exact backed.of_accounts rfl
  | opened hcreate =>
    obtain ⟨-, -, rfl⟩ := createRail_eq_ok_iff.mp hcreate
    exact backed.of_accounts rfl
  | held hmodify =>
    obtain ⟨old, -, -, hchange⟩ := modifyLockup_eq_ok_iff.mp hmodify
    exact backed.changeRail hchange
  | paid => exact absurd rfl (hop _ _ _)
  | ended hterminate =>
    obtain ⟨r, -, -, -, rfl⟩ := terminate_eq_ok_iff.mp hterminate
    exact backed.of_accounts rfl

theorem backed_operate_iff (backed : l.Backed) (covered : l.Counted (· ≤ ·)) :
    (l.operate op).2.Backed ↔ l.PaysFromFunds op := by
  -- only a payment that is not refused takes funds away
  by_cases hop : ∃ id rate oneTime l', op = .modifyPayment id rate oneTime ∧
      l.modifyPayment id rate oneTime = .ok l'
  · obtain ⟨id, rate, oneTime, l', rfl, h⟩ := hop
    have hoperate : (l.operate (.modifyPayment id rate oneTime)).2 = l' := by
      simp [operate, Ledger.perform, h, bind, Except.bind, pure, Except.pure]
    obtain ⟨old, -, hold, -⟩ := modifyPayment_eq_ok_iff.mp h
    rw [hoperate, backed_modifyPayment_iff backed covered hold h]
    constructor
    · rintro hle _ _ _ r _ ⟨⟩ hr -
      rw [hold, Option.some.injEq] at hr
      rw [← hr]
      exact hle
    · intro hpays
      exact hpays id rate oneTime old l' rfl hold h
  · apply iff_of_true
    · unfold operate
      split
      · rename_i h
        apply backed.perform h
        rintro id rate oneTime rfl
        obtain ⟨l', hmodify, -⟩ := bind_eq_ok_iff.mp h
        exact hop ⟨id, rate, oneTime, l', rfl, hmodify⟩
      · exact backed
    · intro id rate oneTime old l' heq _ h
      exact absurd ⟨id, rate, oneTime, l', heq, h⟩ hop

theorem backed_run (pays : ∀ before op, before ++ [op] <+: ops →
    (run .empty before).PaysFromFunds op) : (run .empty ops).Backed := by
  induction ops using List.reverseRecOn with
  | nil => exact backed_empty
  | append_singleton ops op ih =>
    rw [run_append]
    show ((run .empty ops).operate op).2.Backed
    rw [backed_operate_iff _ covered_run]
    · exact pays ops op List.prefix_rfl
    · apply ih
      intro before op' h
      exact pays before op' (h.trans (List.prefix_append _ _))

theorem funds_of_modifyPayment (backed : l.Backed) (covered : l.Counted (· ≤ ·))
    (hold : l.rail? id = some old) (h : l.modifyPayment id rate oneTime = .ok l') :
    (l'.account old.token old.payer).funds.toNat + oneTime.toNat =
      (l.account old.token old.payer).funds.toNat := by
  obtain ⟨r, m, hr, -, hpaid, hchange, rfl⟩ := modifyPayment_eq_ok_iff.mp h
  rw [hold, Option.some.injEq] at hr
  subst hr
  have hpaidFunds := oneTime_le_funds backed covered hold hpaid
  rw [BitVec.le_def] at hpaidFunds
  rw [account_pay, if_pos ⟨rfl, rfl⟩, funds_of_changeRail _ _ hchange, UInt256.toNat_clampSub]
  omega

theorem paysFromFunds_of_rate_le (hold : l.rail? id = some old) (hrate : rate ≤ old.rate)
    (hlt : old.lockup < UInt256.largest) : l.PaysFromFunds (.modifyPayment id rate oneTime) := by
  rintro _ _ _ r l' ⟨⟩ hr h
  obtain ⟨r', m, hr', -, hpaid, -, -⟩ := modifyPayment_eq_ok_iff.mp h
  rw [hold, Option.some.injEq] at hr hr'
  subst hr hr'
  have := Rail.lockup_paid_add_le hrate hpaid hlt
  omega

/--
A ledger is backed all along a run exactly if every payment in the run pays from funds, which those
do that raise no rate. A payment from a backed account is taken from its funds to the last unit.
-/
theorem backed_along_run_iff (ops : List Operation) :
    ((∀ before, before <+: ops → (run .empty before).Backed) ↔
      ∀ before op, before ++ [op] <+: ops → (run .empty before).PaysFromFunds op) ∧
    ∀ id rate oneTime old l', (run .empty ops).rail? id = some old →
      (run .empty ops).modifyPayment id rate oneTime = .ok l' →
      ((run .empty ops).Backed → (l'.account old.token old.payer).funds.toNat + oneTime.toNat =
        ((run .empty ops).account old.token old.payer).funds.toNat) ∧
      (rate ≤ old.rate → old.lockup < UInt256.largest →
        (run .empty ops).PaysFromFunds (.modifyPayment id rate oneTime)) := by
  refine ⟨⟨?_, ?_⟩, ?_⟩
  · intro backed before op h
    rw [← backed_operate_iff (backed before ((List.prefix_append _ _).trans h)) covered_run]
    have hafter := backed (before ++ [op]) h
    rw [run_append] at hafter
    exact hafter
  · intro pays before h
    apply backed_run
    intro before' op h'
    exact pays before' op (h'.trans h)
  · intro id rate oneTime old l' hold h
    constructor
    · intro backed
      exact funds_of_modifyPayment backed covered_run hold h
    · intro hrate hlt
      exact paysFromFunds_of_rate_le hold hrate hlt

/-- The payment of this run raises the rate by no more than the funds cover. -/
def payingOperations : List Operation :=
  [.deposit 1 2 100, .approve 1 2 4 10 500 10, .createRail sampleTerms, .modifyLockup 1 10 50,
    .modifyPayment 1 2 30]

theorem backed_along_payingOperations :
    (∀ before, before <+: payingOperations → (run .empty before).Backed) ∧
    ∃ l', (run .empty payingOperations).modifyPayment 1 2 20 = .ok l' ∧
      (l'.account 1 2).funds.toNat + 20 =
        ((run .empty payingOperations).account 1 2).funds.toNat ∧
      (run .empty payingOperations).PaysFromFunds (.modifyPayment 1 2 20) := by
  have hbacked : ∀ before, before <+: payingOperations → (run .empty before).Backed := by
    rw [(backed_along_run_iff payingOperations).1]
    rintro before op h id rate oneTime old l' rfl hold -
    have hbefore : before = payingOperations.take 4 ∧ id = 1 ∧ rate = 2 ∧ oneTime = 30 := by
      rcases before with _ | ⟨a, _ | ⟨b, _ | ⟨c, _ | ⟨d, _ | ⟨e, t⟩⟩⟩⟩⟩
      all_goals simp [payingOperations, List.cons_prefix_cons] at h ⊢
      exact ⟨⟨h.1, h.2.1, h.2.2.1, h.2.2.2.1⟩, h.2.2.2.2⟩
    obtain ⟨rfl, rfl, rfl, rfl⟩ := hbefore
    have hrail : (run .empty (payingOperations.take 4)).rail? 1 =
        some { sampleTerms with lockupPeriod := 10, lockupFixed := 50 } := by
      decide +kernel
    rw [hrail, Option.some.injEq] at hold
    subst hold
    decide +kernel
  refine ⟨hbacked, ?_⟩
  have hmodify := eq_ok_getD (a := Ledger.empty)
    (x := (run .empty payingOperations).modifyPayment 1 2 20) (by decide +kernel)
  obtain ⟨hfunds, hpays⟩ := (backed_along_run_iff payingOperations).2 1 2 20
    { sampleTerms with rate := 2, lockupPeriod := 10, lockupFixed := 20 } _ (by decide +kernel)
    hmodify
  exact ⟨_, hmodify, hfunds (hbacked _ List.prefix_rfl), hpays (by decide) (by decide +kernel)⟩

/-- The second payment of this run comes out of a lockup that the rate has been raised into. -/
def overdrawing : List Operation :=
  [.deposit 1 2 100, .approve 1 2 4 10 500 10, .createRail sampleTerms, .modifyLockup 1 10 50,
    .modifyPayment 1 10 50, .modifyLockup 1 0 100, .modifyPayment 1 0 100]

/-- After the first payment 100 are locked in an account of 50, after the second 150 are paid. -/
theorem overdrawing_not_backed :
    ¬ (∀ ops, (run .empty ops).Backed) ∧
    (run .empty (overdrawing.take 5)).account 1 2 = { funds := 50, locked := 100 } ∧
    ((run .empty (overdrawing.take 6)).account 1 2).funds < 100 ∧
    (run .empty overdrawing).account 1 2 = { funds := 0, locked := 0 } ∧
    (run .empty overdrawing).payout 1 3 = 150 := by
  refine ⟨?_, by decide +kernel, by decide +kernel, by decide +kernel, by decide +kernel⟩
  intro backed
  exact absurd (backed (overdrawing.take 5) 1 2) (by decide +kernel)

end Ledger

end WarmStorage

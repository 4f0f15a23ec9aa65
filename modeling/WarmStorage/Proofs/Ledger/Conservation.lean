import Mathlib.Logic.Relation
import WarmStorage.Proofs.Ledger.Backing

/-!
The money in a ledger: the funds of all accounts, and what was paid out of them. Deposits add to it,
and payments move it from funds to payouts, as long as none of the amounts is cut off at the largest
one. A payment from a backed account is covered by its funds, so the money is conserved in every run
that keeps accounts backed.
-/

namespace WarmStorage

namespace Ledger

def Operation.deposited (token : Address) : Operation → Nat
  | .deposit token' _ amount => if token' = token then amount.toNat else 0
  | _ => 0

def totalFunds (l : Ledger) (token : Address) : Nat :=
  sumEntries l.accounts fun key account => if key.token = token then account.funds.toNat else 0

def totalPayouts (l : Ledger) (token : Address) : Nat :=
  sumEntries l.payouts fun key received => if key.token = token then received.toNat else 0

def total (l : Ledger) (token : Address) : Nat :=
  l.totalFunds token + l.totalPayouts token

variable {l l' m : Ledger} {id : RailId} {old new r : Rail} {op : Operation} {answer : Answer}
  {token token' owner payee : Address} {terms : RailTerms} {rate oneTime amount : TokenAmount}
  {c : Account}

theorem total_empty : total .empty token = 0 := by
  simp only [total, totalFunds, totalPayouts, empty, sumEntries_empty]

theorem totalFunds_of_insert (token : Address)
    (h : l'.accounts = l.accounts.insert ⟨token', owner⟩ c) :
    l'.totalFunds token + (if token' = token then (l.account token' owner).funds.toNat else 0) =
      l.totalFunds token + if token' = token then c.funds.toNat else 0 := by
  have hsum := sumEntries_insert (m := l.accounts) (k := ⟨token', owner⟩) (v := c)
    (f := fun key account => if key.token = token then account.funds.toNat else 0)
  rw [totalFunds, h, totalFunds, account, Std.ExtTreeMap.getD_eq_getD_getElem?, ← hsum]
  cases l.accounts[(⟨token', owner⟩ : AccountKey)]? with
  | none => simp
  | some old => rfl

theorem totalPayouts_of_insert (token : Address)
    (h : l'.payouts = l.payouts.insert ⟨token', payee⟩ amount) :
    l'.totalPayouts token + (if token' = token then (l.payout token' payee).toNat else 0) =
      l.totalPayouts token + if token' = token then amount.toNat else 0 := by
  have hsum := sumEntries_insert (m := l.payouts) (k := ⟨token', payee⟩) (v := amount)
    (f := fun key received => if key.token = token then received.toNat else 0)
  rw [totalPayouts, h, totalPayouts, payout, Std.ExtTreeMap.getD_eq_getD_getElem?, ← hsum]
  cases l.payouts[(⟨token', payee⟩ : AccountKey)]? with
  | none => simp
  | some old => rfl

theorem funds_le_totalFunds (l : Ledger) (token owner : Address) :
    (l.account token owner).funds.toNat ≤ l.totalFunds token := by
  rw [account, Std.ExtTreeMap.getD_eq_getD_getElem?]
  cases h : l.accounts[(⟨token, owner⟩ : AccountKey)]? with
  | none => simp
  | some a =>
    have hle := le_sumEntries (m := l.accounts)
      (f := fun key account => if key.token = token then account.funds.toNat else 0) h
    rw [if_pos rfl] at hle
    exact hle

theorem payout_le_totalPayouts (l : Ledger) (token payee : Address) :
    (l.payout token payee).toNat ≤ l.totalPayouts token := by
  rw [payout, Std.ExtTreeMap.getD_eq_getD_getElem?]
  cases h : l.payouts[(⟨token, payee⟩ : AccountKey)]? with
  | none => simp
  | some received =>
    have hle := le_sumEntries (m := l.payouts)
      (f := fun key received => if key.token = token then received.toNat else 0) h
    rw [if_pos rfl] at hle
    exact hle

theorem total_deposit
    (fits : l.total token + (Operation.deposit token' owner amount).deposited token <
      UInt256.size) :
    (l.deposit token' owner amount).total token =
      l.total token + (Operation.deposit token' owner amount).deposited token := by
  have hfunds := totalFunds_of_insert token
    (show (l.deposit token' owner amount).accounts = l.accounts.insert _ _ from rfl)
  have hpayouts : (l.deposit token' owner amount).totalPayouts token = l.totalPayouts token := rfl
  simp only [total, Operation.deposited, UInt256.size] at fits ⊢
  split at fits
  · rename_i heq
    subst heq
    have hle := funds_le_totalFunds l token' owner
    simp only [if_true, UInt256.toNat_clampAdd] at hfunds ⊢
    omega
  · rename_i hne
    simp only [if_neg hne] at hfunds ⊢
    omega

theorem total_withRail (h : c.funds = (l.account new.token new.payer).funds) {a : Approval} :
    (l.withRail id new c a).total token = l.total token := by
  have hfunds := totalFunds_of_insert token
    (show (l.withRail id new c a).accounts = l.accounts.insert _ _ from rfl)
  have hpayouts : (l.withRail id new c a).totalPayouts token = l.totalPayouts token := rfl
  rw [h] at hfunds
  simp only [total]
  omega

theorem total_changeRail (h : l.changeRail id old new = .ok l') :
    l'.total token = l.total token := by
  obtain ⟨-, -, a, b, c, -, hlockup, rfl⟩ := changeRail_eq_ok_iff.mp h
  apply total_withRail
  rw [(chargeLockup_eq hlockup).2]

theorem total_pay (hpaid : amount ≤ (l.account terms.token terms.payer).funds)
    (fits : l.total token < UInt256.size) : (l.pay terms amount).total token = l.total token := by
  by_cases hamount : amount = 0
  · rw [pay, if_pos hamount]
  have hfunds := totalFunds_of_insert token
    (show (l.pay terms amount).accounts = l.accounts.insert _ _ by rw [pay, if_neg hamount])
  have hpayouts := totalPayouts_of_insert token
    (show (l.pay terms amount).payouts = l.payouts.insert _ _ by rw [pay, if_neg hamount])
  rw [BitVec.le_def] at hpaid
  simp only [total, UInt256.size] at fits ⊢
  by_cases htoken : terms.token = token
  · subst htoken
    have hsource := funds_le_totalFunds l terms.token terms.payer
    have htarget := payout_le_totalPayouts l terms.token terms.payee
    simp only [if_true, UInt256.toNat_clampSub, UInt256.toNat_clampAdd] at hfunds hpayouts
    omega
  · simp only [if_neg htoken] at hfunds hpayouts
    omega

theorem total_of_perform (token : Address) (backed : l.Backed) (covered : l.Counted (· ≤ ·))
    (h : l.perform op = .ok (answer, l'))
    (fits : l.total token + op.deposited token < UInt256.size) :
    l'.total token = l.total token + op.deposited token := by
  cases performed_of_perform h with
  | deposited => exact total_deposit fits
  | approved => rfl
  | opened hcreate =>
    obtain ⟨-, -, rfl⟩ := createRail_eq_ok_iff.mp hcreate
    rfl
  | held hmodify =>
    obtain ⟨old, -, -, hchange⟩ := modifyLockup_eq_ok_iff.mp hmodify
    exact total_changeRail hchange
  | paid hmodify =>
    obtain ⟨old, m, hold, -, hpaid, hchange, rfl⟩ := modifyPayment_eq_ok_iff.mp hmodify
    have hcovered := oneTime_le_funds backed covered hold hpaid
    have htotal : m.total token = l.total token := total_changeRail hchange
    rw [← funds_of_changeRail _ _ hchange] at hcovered
    rw [total_pay hcovered, htotal]
    · rfl
    · rw [htotal]
      exact fits
  | ended hterminate =>
    obtain ⟨r, -, -, -, rfl⟩ := terminate_eq_ok_iff.mp hterminate
    rfl

inductive Spends (l l' : Ledger) : Prop where
  | perform (op : Operation) {answer : Answer} (h : l.perform op = .ok (answer, l'))
      (pays : l.PaysFromFunds op) (deposited : ∀ token, op.deposited token = 0)

theorem Spends.of_perform (op : Operation) (h : l.perform op = .ok (answer, l'))
    (hop : ∀ id rate oneTime, op ≠ .modifyPayment id rate oneTime)
    (deposited : ∀ token, op.deposited token = 0) : Spends l l' := by
  refine .perform op h ?_ deposited
  rintro id rate oneTime old l' rfl
  exact absurd rfl (hop id rate oneTime)

theorem spends_of_createRail (h : l.createRail terms = .ok (id, l')) : Spends l l' :=
  .of_perform (.createRail terms) (bind_eq_ok_iff.mpr ⟨_, h, rfl⟩) nofun fun _ => rfl

theorem spends_of_modifyLockup {period : UInt64} {fixed : TokenAmount}
    (h : l.modifyLockup id period fixed = .ok l') : Spends l l' :=
  .of_perform (.modifyLockup id period fixed) (bind_eq_ok_iff.mpr ⟨_, h, rfl⟩) nofun
    fun _ => rfl

theorem spends_of_terminate {epoch endEpoch : Epoch}
    (h : l.terminate id epoch = .ok (endEpoch, l')) : Spends l l' :=
  .of_perform (.terminate id epoch) (bind_eq_ok_iff.mpr ⟨_, h, rfl⟩) nofun fun _ => rfl

theorem lockup_le_of_changeRail (h : l.changeRail id old new = .ok l') :
    new.lockup.toNat ≤ old.lockup.toNat + (l.account new.token new.payer).available.toNat := by
  obtain ⟨-, -, a, b, c, -, hlockup, -⟩ := changeRail_eq_ok_iff.mp h
  obtain ⟨hlt, -, hfunded, -, -⟩ | ⟨hle, -, -⟩ := chargeLockup_eq_ok_iff.mp hlockup
  · rw [BitVec.lt_def] at hlt
    rw [BitVec.lt_def, BitVec.toNat_sub_of_le (Nat.le_of_lt hlt)] at hfunded
    omega
  · rw [BitVec.lt_def] at hle
    omega

theorem spends_of_reprice (h : l.modifyPayment id rate 0 = .ok l') : Spends l l' := by
  refine .perform (.modifyPayment id rate 0) (bind_eq_ok_iff.mpr ⟨_, h, rfl⟩) ?_ fun _ => rfl
  rintro _ _ _ old _ ⟨⟩ hold hmodify
  obtain ⟨old', m, hold', -, -, hchange, -⟩ := modifyPayment_eq_ok_iff.mp hmodify
  rw [hold, Option.some.injEq] at hold'
  subst hold'
  exact lockup_le_of_changeRail hchange

theorem spends_of_charge (hr : l.rail? id = some r) (unstreamed : r.lockupPeriod = 0)
    (h : l.modifyPayment id r.rate amount = .ok l') : Spends l l' := by
  refine .perform (.modifyPayment id r.rate amount) (bind_eq_ok_iff.mpr ⟨_, h, rfl⟩) ?_
    fun _ => rfl
  rintro _ _ _ old _ ⟨⟩ hold hmodify
  obtain ⟨old', m, hold', -, hpaid, -, -⟩ := modifyPayment_eq_ok_iff.mp hmodify
  rw [hold, Option.some.injEq] at hold' hr
  subst hold' hr
  have hfixed : (old.lockupFixed - amount).toNat = old.lockupFixed.toNat - amount.toNat :=
    BitVec.toNat_sub_of_le hpaid
  have := old.lockupFixed.isLt
  rw [BitVec.le_def] at hpaid
  simp only [Rail.lockup, Rail.paid, unstreamed, UInt256.toNat_clampAdd, UInt256.toNat_clampMul,
    UInt256.toNat_ofWord, hfixed, UInt64.toNat_zero, Nat.mul_zero]
  omega

theorem Spends.reaches (h : Spends l l') : l.Reaches l' := by
  obtain ⟨op, hperform, -, -⟩ := h
  exact reaches_of_perform hperform

theorem Spends.backed (h : Spends l l') (backed : l.Backed) (covered : l.Counted (· ≤ ·)) :
    l'.Backed := by
  obtain ⟨op, hperform, hpays, -⟩ := h
  have hoperate := (backed_operate_iff backed covered).mpr hpays
  rw [operate_eq_ok_iff.mpr hperform] at hoperate
  exact hoperate

theorem Spends.total (h : Spends l l') (backed : l.Backed) (covered : l.Counted (· ≤ ·))
    (fits : l.total token < UInt256.size) : l'.total token = l.total token := by
  obtain ⟨op, hperform, -, hdeposited⟩ := h
  have htotal := total_of_perform token backed covered hperform
  rw [hdeposited, Nat.add_zero] at htotal
  exact htotal fits

theorem Reaches.covered (h : empty.Reaches l) : l.Counted (· ≤ ·) := by
  obtain ⟨ops, rfl⟩ := h
  exact covered_run

theorem reaches_of_spends (h : Relation.ReflTransGen Spends l l') : l.Reaches l' := by
  induction h with
  | refl => exact .refl
  | tail _ hspends ih => exact ih.trans hspends.reaches

theorem Backed.spends (backed : l.Backed) (reached : empty.Reaches l)
    (h : Relation.ReflTransGen Spends l l') : l'.Backed := by
  induction h with
  | refl => exact backed
  | tail h hspends ih => exact hspends.backed ih (reached.trans (reaches_of_spends h)).covered

theorem total_of_spends (backed : l.Backed) (reached : empty.Reaches l)
    (fits : l.total token < UInt256.size) (h : Relation.ReflTransGen Spends l l') :
    l'.total token = l.total token := by
  induction h with
  | refl => rfl
  | tail h hspends ih =>
    have hcovered := (reached.trans (reaches_of_spends h)).covered
    rw [hspends.total (backed.spends reached h) hcovered, ih]
    rw [ih]
    exact fits

end Ledger

end WarmStorage

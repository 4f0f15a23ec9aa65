import WarmStorage.Ledger.Operation

/-!
What the operations of the ledger that succeed do. Rails are numbered in the order in which they are
opened, and no other operation moves the number of the last one. An operation is either about the
terms of rails, or puts one rail in place of another and counts the difference.
-/

namespace WarmStorage.Ledger

variable {l l' : Ledger} {id other : RailId} {old new : Rail} {terms : RailTerms}
  {token owner client operator : Address} {amount oneTime : TokenAmount} {a b : Approval}
  {c : Account} {op : Operation} {answer : Answer} {e : LedgerError}

theorem bind_eq_ok_iff {ε α β : Type} {x : Except ε α} {f : α → Except ε β} {b : β} :
    (x >>= f) = .ok b ↔ ∃ a, x = .ok a ∧ f a = .ok b := by
  cases x with
  | error e => simp [bind, Except.bind]
  | ok a => simp [bind, Except.bind]

theorem guard_eq_ok_iff {ε α β : Type} {p : Prop} [Decidable p] {e : ε} {f : α → Except ε β}
    {x : Except ε β} {b : β} :
    (if p then throw e >>= f else x) = .ok b ↔ ¬ p ∧ x = .ok b := by
  split
  · rename_i hp
    simp only [hp, not_true, false_and, iff_false]
    intro h
    contradiction
  · rename_i hp
    simp only [hp, not_false_eq_true, true_and]

theorem bind_eq_error_iff {ε α β : Type} {x : Except ε α} {f : α → Except ε β} {e : ε} :
    (x >>= f) = .error e ↔ x = .error e ∨ ∃ a, x = .ok a ∧ f a = .error e := by
  cases x with
  | error e' => simp [bind, Except.bind]
  | ok a => simp [bind, Except.bind]

theorem guard_eq_error_iff {ε α β : Type} {p : Prop} [Decidable p] {e e' : ε}
    {f : α → Except ε β} {x : Except ε β} :
    (if p then throw e' >>= f else x) = .error e ↔ p ∧ e = e' ∨ ¬ p ∧ x = .error e := by
  split
  · rename_i hp
    simp only [hp, not_true, true_and, false_and, or_false]
    constructor
    · rintro ⟨⟩
      rfl
    · rintro rfl
      rfl
  · rename_i hp
    simp only [hp, not_false_eq_true, true_and, false_and, false_or]

theorem eq_ok_getD {ε α : Type} {x : Except ε α} {a : α} (h : x.toOption.isSome = true) :
    x = .ok (x.toOption.getD a) := by
  cases x with
  | error => contradiction
  | ok => rfl

theorem createRail_eq_ok_iff : l.createRail terms = .ok (id, l') ↔
    (l.approval terms.token terms.payer terms.operator).isApproved = true ∧ id = l.lastRail + 1 ∧
      l' = { l with lastRail := id, rails := l.rails.insert id { toRailTerms := terms } } := by
  unfold createRail
  split
  · rename_i h
    simp only [h, Except.ok.injEq, Prod.mk.injEq, true_and]
    constructor
    · rintro ⟨rfl, rfl⟩
      exact ⟨rfl, rfl⟩
    · rintro ⟨rfl, rfl⟩
      exact ⟨rfl, rfl⟩
  · rename_i h
    simp [h]

theorem toNat_raise {count limit old new : UInt256} (h : old < new)
    (within : ¬ UInt256.clampSub limit count < new - old) :
    (count + (new - old)).toNat + old.toNat = count.toNat + new.toNat ∧
      (count + (new - old)).toNat ≤ limit.toNat := by
  rw [BitVec.lt_def] at h
  have hsub : (new - old).toNat = new.toNat - old.toNat := BitVec.toNat_sub_of_le (Nat.le_of_lt h)
  rw [BitVec.lt_def, UInt256.toNat_clampSub, hsub] at within
  have hadd : (count + (new - old)).toNat = count.toNat + (new.toNat - old.toNat) := by
    have := limit.isLt
    rw [BitVec.toNat_add_of_lt (by omega), hsub]
  omega

theorem toNat_lower {count old new : UInt256} (h : ¬ old < new)
    (counted : old.toNat ≤ count.toNat) :
    (UInt256.clampSub count (old - new)).toNat + old.toNat = count.toNat + new.toNat := by
  rw [BitVec.lt_def, Nat.not_lt] at h
  rw [UInt256.toNat_clampSub, BitVec.toNat_sub_of_le h]
  omega

theorem chargeRate_eq_ok_iff {old new : TokenAmount} : chargeRate a old new = .ok b ↔
    old < new ∧ ¬ a.remainingRate < new - old ∧
        b = { a with rateUsage := a.rateUsage + (new - old) } ∨
      ¬ old < new ∧ b = { a with rateUsage := UInt256.clampSub a.rateUsage (old - new) } := by
  unfold chargeRate
  split
  · rename_i h
    split
    · rename_i hover
      simp [h, hover]
    · rename_i hwithin
      simp [h, hwithin, eq_comm (a := b)]
  · rename_i h
    simp [h, eq_comm (a := b)]

theorem chargeLockup_eq_ok_iff {account : Account} {old new : TokenAmount} :
    chargeLockup a account old new = .ok (b, c) ↔
      old < new ∧ ¬ a.remainingLockup < new - old ∧ ¬ account.available < new - old ∧
          b = { a with lockupUsage := a.lockupUsage + (new - old) } ∧
          c = { account with locked := account.locked + (new - old) } ∨
        ¬ old < new ∧ b = { a with lockupUsage := UInt256.clampSub a.lockupUsage (old - new) } ∧
          c = { account with locked := UInt256.clampSub account.locked (old - new) } := by
  unfold chargeLockup
  split
  · rename_i h
    split
    · rename_i hover
      simp [h, hover]
    split
    · rename_i hover
      simp [h, hover]
    · rename_i hallowed hfunded
      simp [h, hallowed, hfunded, eq_comm (a := b), eq_comm (a := c)]
  · rename_i h
    simp [h, eq_comm (a := b), eq_comm (a := c)]

theorem liveRail_eq_ok_iff : l.liveRail id = .ok old ↔
    l.rail? id = some old ∧ old.isTerminated = false := by
  unfold liveRail
  cases l.rail? id with
  | none => simp
  | some r =>
    dsimp only
    split
    · rename_i h
      simp only [reduceCtorEq, Option.some.injEq, false_iff, not_and]
      rintro rfl
      simp [h]
    · rename_i h
      simp only [Except.ok.injEq, Option.some.injEq, iff_self_and]
      rintro rfl
      simpa using h

def withRail (l : Ledger) (id : RailId) (r : Rail) (c : Account) (a : Approval) : Ledger :=
  { l with
    rails := l.rails.insert id r
    accounts := l.accounts.insert ⟨r.token, r.payer⟩ c
    approvals := l.approvals.insert ⟨r.token, r.payer, r.operator⟩ a }

theorem account_withRail : (l.withRail id new c a).account token owner =
    if new.token = token ∧ new.payer = owner then c else l.account token owner := by
  unfold account withRail
  rw [Std.ExtTreeMap.getD_insert]
  simp only [Std.compare_eq_iff_eq, AccountKey.mk.injEq]

theorem approval_withRail : (l.withRail id new c a).approval token client operator =
    if new.token = token ∧ new.payer = client ∧ new.operator = operator then a
    else l.approval token client operator := by
  unfold approval withRail
  rw [Std.ExtTreeMap.getD_insert]
  simp only [Std.compare_eq_iff_eq, ApprovalKey.mk.injEq]

theorem account_deposit {token' owner' : Address} :
    (l.deposit token' owner' amount).account token owner =
      if token' = token ∧ owner' = owner then
        { l.account token owner with
          funds := UInt256.clampAdd (l.account token owner).funds amount }
      else l.account token owner := by
  show Std.ExtTreeMap.getD (Std.ExtTreeMap.insert _ _ _) _ _ = _
  rw [Std.ExtTreeMap.getD_insert]
  simp only [Std.compare_eq_iff_eq, AccountKey.mk.injEq]
  split
  · rename_i h
    rw [h.1, h.2]
  · rfl

theorem approval_approve {token' client' operator' : Address} {rate lockup : TokenAmount}
    {period : UInt64} :
    (l.approve token' client' operator' rate lockup period).approval token client operator =
      if token' = token ∧ client' = client ∧ operator' = operator then
        { l.approval token client operator with
          isApproved := true
          rateAllowance := rate
          lockupAllowance := lockup
          maxLockupPeriod := period }
      else l.approval token client operator := by
  show Std.ExtTreeMap.getD (Std.ExtTreeMap.insert _ _ _) _ _ = _
  rw [Std.ExtTreeMap.getD_insert]
  simp only [Std.compare_eq_iff_eq, ApprovalKey.mk.injEq]
  split
  · rename_i h
    rw [h.1, h.2.1, h.2.2]
  · rfl

@[simp]
theorem rails_pay : (l.pay terms amount).rails = l.rails := by
  unfold pay
  split
  · rfl
  · rfl

@[simp]
theorem lastRail_pay : (l.pay terms amount).lastRail = l.lastRail := by
  unfold pay
  split
  · rfl
  · rfl

@[simp]
theorem approval_pay : (l.pay terms amount).approval token client operator =
    l.approval token client operator := by
  unfold pay
  split
  · rfl
  · rfl

theorem account_pay : (l.pay terms amount).account token owner =
    if terms.token = token ∧ terms.payer = owner then
      { l.account token owner with
        funds := UInt256.clampSub (l.account token owner).funds amount }
    else l.account token owner := by
  unfold pay
  split
  · rename_i h
    rw [h]
    split
    · rw [UInt256.clampSub_zero]
    · rfl
  · show Std.ExtTreeMap.getD (Std.ExtTreeMap.insert _ _ _) _ _ = _
    rw [Std.ExtTreeMap.getD_insert]
    simp only [Std.compare_eq_iff_eq, AccountKey.mk.injEq]
    split
    · rename_i h
      rw [h.1, h.2]
    · rfl

theorem payout_pay {payee : Address} : (l.pay terms amount).payout token payee =
    UInt256.clampAdd (l.payout token payee)
      (if terms.token = token ∧ terms.payee = payee then amount else 0) := by
  unfold pay
  split
  · rename_i h
    rw [h, ite_self, UInt256.clampAdd_zero]
  · show Std.ExtTreeMap.getD (Std.ExtTreeMap.insert _ _ _) _ _ = _
    rw [Std.ExtTreeMap.getD_insert]
    simp only [Std.compare_eq_iff_eq, AccountKey.mk.injEq]
    split
    · rename_i h
      rw [h.1, h.2]
    · rw [UInt256.clampAdd_zero]
      rfl

theorem changeRail_eq_ok_iff : l.changeRail id old new = .ok l' ↔
    (l.approval new.token new.payer new.operator).isApproved = true ∧
      new.lockupPeriod ≤ (l.approval new.token new.payer new.operator).maxLockupPeriod ∧
      ∃ a b c, chargeRate (l.approval new.token new.payer new.operator) old.rate new.rate = .ok a ∧
        chargeLockup a (l.account new.token new.payer) old.lockup new.lockup = .ok (b, c) ∧
        l' = l.withRail id new c b := by
  unfold changeRail
  dsimp only
  rw [guard_eq_ok_iff, guard_eq_ok_iff, bind_eq_ok_iff]
  simp only [bind_eq_ok_iff, Prod.exists, Bool.not_eq_true', Bool.not_eq_false, UInt64.not_lt,
    ← exists_and_left]
  simp only [withRail, pure, Except.pure, Except.ok.injEq, eq_comm (a := l')]

theorem modifyLockup_eq_ok_iff {period : UInt64} {fixed : TokenAmount} :
    l.modifyLockup id period fixed = .ok l' ↔
      ∃ old, l.rail? id = some old ∧ old.isTerminated = false ∧
        l.changeRail id old { old with lockupPeriod := period, lockupFixed := fixed } = .ok l' := by
  simp only [modifyLockup, bind_eq_ok_iff, liveRail_eq_ok_iff, and_assoc]

theorem modifyPayment_eq_ok_iff {rate : TokenAmount} :
    l.modifyPayment id rate oneTime = .ok l' ↔
      ∃ old m, l.rail? id = some old ∧ old.isTerminated = false ∧ oneTime ≤ old.lockupFixed ∧
        l.changeRail id old { old with rate := rate, lockupFixed := old.lockupFixed - oneTime } =
          .ok m ∧
        l' = m.pay old.toRailTerms oneTime := by
  simp only [modifyPayment, bind_eq_ok_iff, liveRail_eq_ok_iff, guard_eq_ok_iff, and_assoc,
    BitVec.not_lt, exists_and_left, pure, Except.pure, Except.ok.injEq, eq_comm (a := l')]

theorem terminate_eq_ok_iff {epoch endEpoch : Epoch} :
    l.terminate id epoch = .ok (endEpoch, l') ↔
      ∃ r, l.rail? id = some r ∧ r.isTerminated = false ∧
        endEpoch = Word.clampAdd epoch r.lockupPeriod ∧
        l' = { l with rails := l.rails.insert id { r with endEpoch := endEpoch } } := by
  simp only [terminate, bind_eq_ok_iff, liveRail_eq_ok_iff, and_assoc, pure, Except.pure,
    Except.ok.injEq, Prod.mk.injEq]
  refine exists_congr fun r => and_congr_right fun _ => and_congr_right fun _ => ?_
  constructor
  · rintro ⟨rfl, rfl⟩
    exact ⟨rfl, rfl⟩
  · rintro ⟨rfl, rfl⟩
    exact ⟨rfl, rfl⟩

theorem lastRail_of_changeRail (h : l.changeRail id old new = .ok l') :
    l'.lastRail = l.lastRail := by
  obtain ⟨-, -, a, b, c, -, -, rfl⟩ := changeRail_eq_ok_iff.mp h
  rfl

theorem lastRail_of_modifyLockup {period : UInt64} {fixed : TokenAmount}
    (h : l.modifyLockup id period fixed = .ok l') : l'.lastRail = l.lastRail := by
  obtain ⟨old, -, -, h⟩ := modifyLockup_eq_ok_iff.mp h
  exact lastRail_of_changeRail h

inductive Performed (l : Ledger) : Operation → Answer → Ledger → Prop where
  | deposited {token owner : Address} {amount : TokenAmount} :
      Performed l (.deposit token owner amount) .done (l.deposit token owner amount)
  | approved {token client operator : Address} {rate lockup : TokenAmount} {period : UInt64} :
      Performed l (.approve token client operator rate lockup period) .done
        (l.approve token client operator rate lockup period)
  | opened {terms : RailTerms} {id : RailId} {l' : Ledger} (h : l.createRail terms = .ok (id, l')) :
      Performed l (.createRail terms) (.opened id) l'
  | held {id : RailId} {period : UInt64} {fixed : TokenAmount} {l' : Ledger}
      (h : l.modifyLockup id period fixed = .ok l') :
      Performed l (.modifyLockup id period fixed) .done l'
  | paid {id : RailId} {rate oneTime : TokenAmount} {l' : Ledger}
      (h : l.modifyPayment id rate oneTime = .ok l') :
      Performed l (.modifyPayment id rate oneTime) .done l'
  | ended {id : RailId} {epoch endEpoch : Epoch} {l' : Ledger}
      (h : l.terminate id epoch = .ok (endEpoch, l')) :
      Performed l (.terminate id epoch) (.endEpoch endEpoch) l'

theorem performed_of_perform (h : l.perform op = .ok (answer, l')) : Performed l op answer l' := by
  cases op with
  | deposit =>
    cases h
    exact .deposited
  | approve =>
    cases h
    exact .approved
  | createRail =>
    obtain ⟨_, hcreate, h⟩ := bind_eq_ok_iff.mp h
    cases h
    exact .opened hcreate
  | modifyLockup =>
    obtain ⟨_, hmodify, h⟩ := bind_eq_ok_iff.mp h
    cases h
    exact .held hmodify
  | modifyPayment =>
    obtain ⟨_, hmodify, h⟩ := bind_eq_ok_iff.mp h
    cases h
    exact .paid hmodify
  | terminate =>
    obtain ⟨_, hterminate, h⟩ := bind_eq_ok_iff.mp h
    cases h
    exact .ended hterminate

theorem operate_eq_ok_iff : l.operate op = (.ok answer, l') ↔ l.perform op = .ok (answer, l') := by
  unfold operate
  cases l.perform op with
  | error e => simp
  | ok r => simp [Prod.ext_iff]

theorem operate_eq_error_iff :
    l.operate op = (.error e, l') ↔ l.perform op = .error e ∧ l' = l := by
  unfold operate
  cases l.perform op with
  | error e => simp [eq_comm]
  | ok r => simp

end WarmStorage.Ledger

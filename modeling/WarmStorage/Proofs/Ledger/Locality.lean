import WarmStorage.Proofs.Ledger.Operations

/-!
What an operation on a rail depends on: the rail, and the account and the approval that it is
counted in. On ledgers that agree on these it has the same result, and puts the same in their
places. What it pays is credited to the payee, and credits can be given in any order.
-/

namespace WarmStorage

theorem UInt256.clampAdd_right_comm (a b c : UInt256) :
    clampAdd (clampAdd a b) c = clampAdd (clampAdd a c) b := by
  apply BitVec.eq_of_toNat_eq
  simp only [toNat_clampAdd]
  omega

section Maps

variable {κ α : Type} [Ord κ] [Std.TransOrd κ] {m m' : Std.ExtTreeMap κ α} {k k' : κ} {v : α}
  {g : Option α → Option α}

theorem getElem?_insert_congr (h : m'[k']? = m[k']?) :
    (m'.insert k v)[k']? = (m.insert k v)[k']? := by
  rw [Std.ExtTreeMap.getElem?_insert, Std.ExtTreeMap.getElem?_insert, h]

theorem getElem?_erase_congr (h : m'[k']? = m[k']?) : (m'.erase k)[k']? = (m.erase k)[k']? := by
  rw [Std.ExtTreeMap.getElem?_erase, Std.ExtTreeMap.getElem?_erase, h]

variable [Std.LawfulEqOrd κ]

theorem getElem?_alter_congr (h : m'[k']? = m[k']?) :
    (m'.alter k g)[k']? = (m.alter k g)[k']? := by
  rw [Std.ExtTreeMap.getElem?_alter, Std.ExtTreeMap.getElem?_alter]
  split
  · rename_i heq
    rw [Std.compare_eq_iff_eq.mp heq, h]
  · exact h

theorem getElem?_insert_of_ne (h : k' ≠ k) : (m.insert k v)[k']? = m[k']? := by
  rw [Std.ExtTreeMap.getElem?_insert, if_neg]
  rw [Std.compare_eq_iff_eq]
  exact h.symm

theorem getElem?_erase_of_ne (h : k' ≠ k) : (m.erase k)[k']? = m[k']? := by
  rw [Std.ExtTreeMap.getElem?_erase, if_neg]
  rw [Std.compare_eq_iff_eq]
  exact h.symm

theorem getElem?_alter_of_ne (h : k' ≠ k) : (m.alter k g)[k']? = m[k']? := by
  rw [Std.ExtTreeMap.getElem?_alter, if_neg]
  rw [Std.compare_eq_iff_eq]
  exact h.symm

end Maps

namespace Ledger

variable {l m : Ledger} {id : RailId} {old new r : Rail} {amount oneTime : TokenAmount}
  {terms : RailTerms} {epoch : Epoch} {f : Rail → Except LedgerError (Rail × TokenAmount)}
  {payouts : Std.ExtTreeMap AccountKey TokenAmount} {credit credit' : AccountKey × TokenAmount}

theorem account_congr {token owner : Address}
    (h : m.accounts[(⟨token, owner⟩ : AccountKey)]? = l.accounts[(⟨token, owner⟩ : AccountKey)]?) :
    m.account token owner = l.account token owner := by
  rw [account, account, Std.ExtTreeMap.getD_eq_getD_getElem?, Std.ExtTreeMap.getD_eq_getD_getElem?,
    h]

theorem approval_congr {token client operator : Address}
    (h : m.approvals[(⟨token, client, operator⟩ : ApprovalKey)]? =
      l.approvals[(⟨token, client, operator⟩ : ApprovalKey)]?) :
    m.approval token client operator = l.approval token client operator := by
  rw [approval, approval, Std.ExtTreeMap.getD_eq_getD_getElem?,
    Std.ExtTreeMap.getD_eq_getD_getElem?, h]

def credited (payouts : Std.ExtTreeMap AccountKey TokenAmount)
    (credit : AccountKey × TokenAmount) : Std.ExtTreeMap AccountKey TokenAmount :=
  if credit.2 = 0 then payouts
  else payouts.insert credit.1 (UInt256.clampAdd (payouts.getD credit.1 0) credit.2)

theorem credited_right_comm : credited (credited payouts credit) credit' =
    credited (credited payouts credit') credit := by
  unfold credited
  split
  · rfl
  split
  · rfl
  apply Std.ExtTreeMap.ext_getElem?
  intro key
  simp only [Std.ExtTreeMap.getElem?_insert, Std.ExtTreeMap.getD_insert, Std.compare_eq_iff_eq]
  by_cases hsame : credit.1 = credit'.1
  · rw [hsame]
    split
    · simp only [if_true, UInt256.clampAdd_right_comm]
    · rfl
  · simp only [hsame, Ne.symm hsame, if_false]
    split
    · rename_i hkey
      rw [← hkey, if_neg hsame]
    · rfl

theorem foldl_credited_comm (credits credits' : List (AccountKey × TokenAmount)) :
    credits'.foldl credited (credits.foldl credited payouts) =
      credits.foldl credited (credits'.foldl credited payouts) := by
  rw [← List.foldl_append, ← List.foldl_append]
  exact List.perm_append_comm.foldl_eq' (fun _ _ _ _ _ => credited_right_comm) payouts

theorem payouts_pay : (l.pay terms amount).payouts =
    credited l.payouts (⟨terms.token, terms.payee⟩, amount) := by
  unfold pay credited
  split
  · rfl
  · rfl

theorem approvals_pay : (l.pay terms amount).approvals = l.approvals := by
  unfold pay
  split
  · rfl
  · rfl

theorem accounts_pay_of_ne {key : AccountKey} (h : key.owner ≠ terms.payer) :
    (l.pay terms amount).accounts[key]? = l.accounts[key]? := by
  unfold pay
  split
  · rfl
  · refine getElem?_insert_of_ne ?_
    rintro rfl
    exact h rfl

theorem accounts_pay_congr {key : AccountKey} (h : m.accounts[key]? = l.accounts[key]?) :
    (m.pay terms amount).accounts[key]? = (l.pay terms amount).accounts[key]? := by
  unfold pay
  split
  · exact h
  · show (Std.ExtTreeMap.insert _ _ _)[key]? = (Std.ExtTreeMap.insert _ _ _)[key]?
    rw [Std.ExtTreeMap.getElem?_insert, Std.ExtTreeMap.getElem?_insert]
    split
    · rename_i hkey
      rw [← Std.compare_eq_iff_eq.mp hkey] at h
      rw [account_congr h]
    · exact h

def counted (approval : Approval) (account : Account) (old new : Rail) :
    Except LedgerError (Approval × Account) := do
  if !approval.isApproved then
    throw (.operatorNotApproved new.payer new.operator)
  if approval.maxLockupPeriod < new.lockupPeriod then
    throw (.lockupPeriodExceeded new.lockupPeriod approval.maxLockupPeriod)
  let approval ← chargeRate approval old.rate new.rate
  chargeLockup approval account old.lockup new.lockup

theorem changeRail_eq_map : l.changeRail id old new =
    (counted (l.approval new.token new.payer new.operator) (l.account new.token new.payer)
      old new).map fun (a, c) => l.withRail id new c a := by
  unfold changeRail counted
  dsimp only
  split
  · rfl
  split
  · rfl
  cases chargeRate (l.approval new.token new.payer new.operator) old.rate new.rate with
  | error e => rfl
  | ok a =>
    show (chargeLockup a _ _ _ >>= _) = (chargeLockup a _ _ _).map _
    cases chargeLockup a (l.account new.token new.payer) old.lockup new.lockup with
    | error e => rfl
    | ok counts => rfl

def adjust (l : Ledger) (id : RailId) (f : Rail → Except LedgerError (Rail × TokenAmount)) :
    Except LedgerError Ledger := do
  let old ← l.liveRail id
  let (new, oneTime) ← f old
  let l ← l.changeRail id old new
  return l.pay old.toRailTerms oneTime

theorem modifyLockup_eq_adjust {period : UInt64} {fixed : TokenAmount} :
    l.modifyLockup id period fixed = l.adjust id fun old =>
      .ok ({ old with lockupPeriod := period, lockupFixed := fixed }, 0) := by
  unfold modifyLockup adjust
  cases l.liveRail id with
  | error e => rfl
  | ok old =>
    show l.changeRail _ _ _ = (l.changeRail _ _ _ >>= fun l => pure l)
    rw [bind_pure]

theorem modifyPayment_eq_adjust {rate : TokenAmount} :
    l.modifyPayment id rate oneTime = l.adjust id fun old =>
      if old.lockupFixed < oneTime then .error (.oneTimeExceedsLockup id oneTime old.lockupFixed)
      else .ok ({ old with rate := rate, lockupFixed := old.lockupFixed - oneTime }, oneTime) := by
  unfold modifyPayment adjust
  cases l.liveRail id with
  | error e => rfl
  | ok old =>
    show (if _ then _ else _) =
      ((if _ then _ else _ : Except LedgerError (Rail × TokenAmount)) >>= _)
    split
    · rfl
    · rfl

structure AgreeOn (l m : Ledger) (id : RailId) : Prop where
  rail : m.rail? id = l.rail? id
  account : ∀ r, l.rail? id = some r → m.account r.token r.payer = l.account r.token r.payer
  approval : ∀ r, l.rail? id = some r →
    m.approval r.token r.payer r.operator = l.approval r.token r.payer r.operator

theorem AgreeOn.liveRail (h : AgreeOn l m id) : m.liveRail id = l.liveRail id := by
  rw [Ledger.liveRail, h.rail, Ledger.liveRail]

theorem AgreeOn.terminate (h : AgreeOn l m id) :
    (∃ e, l.terminate id epoch = .error e ∧ m.terminate id epoch = .error e) ∨
      ∃ endEpoch r, l.terminate id epoch = .ok (endEpoch, { l with rails := l.rails.insert id r }) ∧
        m.terminate id epoch = .ok (endEpoch, { m with rails := m.rails.insert id r }) ∧
        ∃ old, l.rail? id = some old ∧ r.toRailTerms = old.toRailTerms := by
  unfold Ledger.terminate
  rw [h.liveRail]
  cases hlive : l.liveRail id with
  | error e => exact .inl ⟨e, rfl, rfl⟩
  | ok old => exact .inr ⟨_, _, rfl, rfl, old, (liveRail_eq_ok_iff.mp hlive).1, rfl⟩

theorem AgreeOn.adjust (h : AgreeOn l m id)
    (hterms : ∀ old new oneTime, f old = .ok (new, oneTime) → new.toRailTerms = old.toRailTerms) :
    (∃ e, l.adjust id f = .error e ∧ m.adjust id f = .error e) ∨
      ∃ new c a oneTime, l.adjust id f = .ok ((l.withRail id new c a).pay new.toRailTerms oneTime) ∧
        m.adjust id f = .ok ((m.withRail id new c a).pay new.toRailTerms oneTime) ∧
        ∃ old, l.rail? id = some old ∧ new.toRailTerms = old.toRailTerms := by
  unfold Ledger.adjust
  rw [h.liveRail]
  cases hlive : l.liveRail id with
  | error e => exact .inl ⟨e, rfl, rfl⟩
  | ok old =>
    cases hf : f old with
    | error e => exact .inl ⟨e, by simp [bind, Except.bind, hf], by simp [bind, Except.bind, hf]⟩
    | ok changed =>
      obtain ⟨new, oneTime⟩ := changed
      have hold := (liveRail_eq_ok_iff.mp hlive).1
      have hnew := hterms old new oneTime hf
      have haccount : m.account new.token new.payer = l.account new.token new.payer := by
        rw [hnew]
        exact h.account old hold
      have happroval : m.approval new.token new.payer new.operator =
          l.approval new.token new.payer new.operator := by
        rw [hnew]
        exact h.approval old hold
      simp only [bind, Except.bind, hf, changeRail_eq_map, haccount, happroval]
      cases counted (l.approval new.token new.payer new.operator)
        (l.account new.token new.payer) old new with
      | error e => exact .inl ⟨e, rfl, rfl⟩
      | ok counts =>
        refine .inr ⟨new, counts.2, counts.1, oneTime, ?_, ?_, old, hold, hnew⟩
        · rw [hnew]
          rfl
        · rw [hnew]
          rfl

end Ledger

end WarmStorage

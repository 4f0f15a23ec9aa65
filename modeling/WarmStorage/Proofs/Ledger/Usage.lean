import Mathlib.Control.Monad.Basic
import WarmStorage.Proofs.Ledger.Numbering
import WarmStorage.Proofs.Ledger.Sum

/-!
What accounts and approvals count. The lockup of an account is what the rails that it pays for hold,
and the usage of an approval is what the rails of its client and operator stream and hold: counters
that are moved by differences never drift from the sums that they stand for.
-/

namespace WarmStorage

namespace RailTerms

def isPaidBy (t : RailTerms) (token owner : Address) : Bool :=
  t.token = token ∧ t.payer = owner

def isOperatedBy (t : RailTerms) (token client operator : Address) : Bool :=
  t.token = token ∧ t.payer = client ∧ t.operator = operator

end RailTerms

namespace Ledger

variable {l l' : Ledger} {id : RailId} {old new r : Rail} {ops : List Operation} {op : Operation}
  {token owner client operator : Address} {p : RailTerms → Bool} {amount : Rail → TokenAmount}
  {R : Nat → Nat → Prop}

def railSum (l : Ledger) (p : RailTerms → Bool) (amount : Rail → TokenAmount) : Nat :=
  sumValues l.rails fun r => if p r.toRailTerms then (amount r).toNat else 0

theorem le_railSum (hr : l.rail? id = some r) (hp : p r.toRailTerms = true) :
    (amount r).toNat ≤ l.railSum p amount := by
  have hle := le_sumValues (f := fun r => if p r.toRailTerms then (amount r).toNat else 0) hr
  rw [if_pos hp] at hle
  exact hle

theorem add_le_railSum {id' : RailId} {r' : Rail} (amount : Rail → TokenAmount) (hne : id ≠ id')
    (hr : l.rail? id = some r) (hr' : l.rail? id' = some r') (hp : p r.toRailTerms = true)
    (hp' : p r'.toRailTerms = true) :
    (amount r).toNat + (amount r').toNat ≤ l.railSum p amount := by
  have hle := add_le_sumValues (f := fun r => if p r.toRailTerms then (amount r).toNat else 0)
    hne hr hr'
  rw [if_pos hp, if_pos hp'] at hle
  exact hle

theorem railSum_replace (amount : Rail → TokenAmount) (hold : l.rail? id = some old)
    (hrails : l'.rails = l.rails.insert id new) (terms : new.toRailTerms = old.toRailTerms)
    (hp : p new.toRailTerms = true) :
    l'.railSum p amount + (amount old).toNat = l.railSum p amount + (amount new).toNat := by
  have hsum := sumValues_insert (m := l.rails) (k := id) (v := new)
    (f := fun r => if p r.toRailTerms then (amount r).toNat else 0)
  rw [show l.rails[id]? = some old from hold, Option.elim_some, ← terms, if_pos hp, if_pos hp]
    at hsum
  rw [railSum, hrails]
  exact hsum

theorem railSum_replace_of_not (hold : l.rail? id = some old)
    (hrails : l'.rails = l.rails.insert id new) (terms : new.toRailTerms = old.toRailTerms)
    (hp : p new.toRailTerms = false) : l'.railSum p amount = l.railSum p amount := by
  have hsum := sumValues_insert (m := l.rails) (k := id) (v := new)
    (f := fun r => if p r.toRailTerms then (amount r).toNat else 0)
  rw [show l.rails[id]? = some old from hold, Option.elim_some, ← terms, hp] at hsum
  rw [railSum, hrails]
  exact hsum

/-- What accounts and approvals count is in a relation to what the rails hold. -/
structure Counted (R : Nat → Nat → Prop) (l : Ledger) : Prop where
  locked : ∀ token owner,
    R (l.railSum (·.isPaidBy token owner) Rail.lockup) (l.account token owner).locked.toNat
  lockup : ∀ token client operator,
    R (l.railSum (·.isOperatedBy token client operator) Rail.lockup)
      (l.approval token client operator).lockupUsage.toNat
  rate : ∀ token client operator,
    R (l.railSum (·.isOperatedBy token client operator) Rail.rate)
      (l.approval token client operator).rateUsage.toNat

theorem Counted.counts (h : l.Counted (· ≤ ·)) (hr : l.rail? id = some r) : l.Counts r := by
  constructor
  · exact Nat.le_trans (le_railSum hr (by simp [RailTerms.isOperatedBy])) (h.rate _ _ _)
  · exact Nat.le_trans (le_railSum hr (by simp [RailTerms.isOperatedBy])) (h.lockup _ _ _)
  · exact Nat.le_trans (le_railSum hr (by simp [RailTerms.isPaidBy])) (h.locked _ _)

theorem Counted.imp {R' : Nat → Nat → Prop} (h : l.Counted R) (himp : ∀ s c, R s c → R' s c) :
    l.Counted R' :=
  ⟨fun _ _ => himp _ _ (h.locked _ _), fun _ _ _ => himp _ _ (h.lockup _ _ _),
    fun _ _ _ => himp _ _ (h.rate _ _ _)⟩

def Shifts (R : Nat → Nat → Prop) : Prop :=
  ∀ {sum sum' count count' old new}, R sum count → sum' + old = sum + new →
    count' + old = count + new → R sum' count'

theorem Counted.changeRail (h : l.Counted R) (shifts : Shifts R) (counts : l.Counts old)
    (hold : l.rail? id = some old) (terms : new.toRailTerms = old.toRailTerms)
    (hchange : l.changeRail id old new = .ok l') : l'.Counted R := by
  have hrecounted := recounted_of_changeRail terms counts hchange
  obtain ⟨-, -, a, b, c, -, -, rfl⟩ := changeRail_eq_ok_iff.mp hchange
  constructor
  · intro token owner
    by_cases hkey : new.token = token ∧ new.payer = owner
    · obtain ⟨rfl, rfl⟩ := hkey
      exact shifts (h.locked _ _) (railSum_replace _ hold rfl terms (by simp [RailTerms.isPaidBy]))
        hrecounted.locked
    · rw [account_withRail, if_neg hkey,
        railSum_replace_of_not hold rfl terms (by simpa [RailTerms.isPaidBy] using hkey)]
      exact h.locked token owner
  · intro token client operator
    by_cases hkey : new.token = token ∧ new.payer = client ∧ new.operator = operator
    · obtain ⟨rfl, rfl, rfl⟩ := hkey
      exact shifts (h.lockup _ _ _)
        (railSum_replace _ hold rfl terms (by simp [RailTerms.isOperatedBy])) hrecounted.lockup
    · rw [approval_withRail, if_neg hkey,
        railSum_replace_of_not hold rfl terms (by simpa [RailTerms.isOperatedBy] using hkey)]
      exact h.lockup token client operator
  · intro token client operator
    by_cases hkey : new.token = token ∧ new.payer = client ∧ new.operator = operator
    · obtain ⟨rfl, rfl, rfl⟩ := hkey
      exact shifts (h.rate _ _ _)
        (railSum_replace _ hold rfl terms (by simp [RailTerms.isOperatedBy])) hrecounted.rate
    · rw [approval_withRail, if_neg hkey,
        railSum_replace_of_not hold rfl terms (by simpa [RailTerms.isOperatedBy] using hkey)]
      exact h.rate token client operator

theorem railSum_open (hrails : l'.rails = l.rails.insert id r) (hr : (amount r).toNat = 0) :
    l'.railSum p amount ≤ l.railSum p amount ∧
      (l.rail? id = none → l'.railSum p amount = l.railSum p amount) := by
  have hsum := sumValues_insert (m := l.rails) (k := id) (v := r)
    (f := fun r => if p r.toRailTerms then (amount r).toNat else 0)
  rw [← hrails, hr, ite_self] at hsum
  constructor
  · exact Nat.le_of_add_right_le (Nat.le_of_eq hsum)
  · intro hnone
    rw [show l.rails[id]? = none from hnone] at hsum
    exact hsum

theorem railSum_ended (hr : l.rail? id = some old) (hrails : l'.rails = l.rails.insert id new)
    (terms : new.toRailTerms = old.toRailTerms) (heq : amount new = amount old) :
    l'.railSum p amount = l.railSum p amount := by
  cases hp : p new.toRailTerms with
  | false => exact railSum_replace_of_not hr hrails terms hp
  | true =>
    have hsum := railSum_replace amount hr hrails terms hp
    rw [heq] at hsum
    exact Nat.add_right_cancel hsum

theorem Counted.of_same (h : l.Counted R)
    (haccount : ∀ token owner, (l'.account token owner).locked = (l.account token owner).locked)
    (happroval : ∀ token client operator,
      (l'.approval token client operator).lockupUsage =
          (l.approval token client operator).lockupUsage ∧
        (l'.approval token client operator).rateUsage =
          (l.approval token client operator).rateUsage)
    (hlockup : ∀ p c, R (l.railSum p Rail.lockup) c → R (l'.railSum p Rail.lockup) c)
    (hrate : ∀ p c, R (l.railSum p Rail.rate) c → R (l'.railSum p Rail.rate) c) :
    l'.Counted R := by
  constructor
  · intro token owner
    rw [haccount]
    exact hlockup _ _ (h.locked token owner)
  · intro token client operator
    rw [(happroval token client operator).1]
    exact hlockup _ _ (h.lockup token client operator)
  · intro token client operator
    rw [(happroval token client operator).2]
    exact hrate _ _ (h.rate token client operator)

theorem locked_pay {terms : RailTerms} {paid : TokenAmount} :
    ((l.pay terms paid).account token owner).locked = (l.account token owner).locked := by
  rw [account_pay]
  split
  · rfl
  · rfl

theorem Effect.counted (heffect : Effect l l') (h : l.Counted R) (shifts : Shifts R)
    (covered : l.Counted (· ≤ ·))
    (drops : l.rail? (l.lastRail + 1) = none ∨ ∀ {sum sum' count}, sum' ≤ sum → R sum count →
      R sum' count) : l'.Counted R := by
  cases heffect with
  | deposited eq =>
    subst eq
    apply h.of_same
    · intro token owner
      rw [account_deposit]
      split
      · rfl
      · rfl
    · intro token client operator
      exact ⟨rfl, rfl⟩
    · exact fun _ _ h => h
    · exact fun _ _ h => h
  | approved eq =>
    subst eq
    apply h.of_same
    · intro token owner
      rfl
    · intro token client operator
      rw [approval_approve]
      split
      · exact ⟨rfl, rfl⟩
      · exact ⟨rfl, rfl⟩
    · exact fun _ _ h => h
    · exact fun _ _ h => h
  | @opened terms eq =>
    -- nothing is counted for the new rail, but one that had its number is not counted out
    have hrails : l'.rails = l.rails.insert (l.lastRail + 1) { toRailTerms := terms } := by
      rw [eq]
    have hopen : ∀ {amount : Rail → TokenAmount}, (amount { toRailTerms := terms }).toNat = 0 →
        ∀ p c, R (l.railSum p amount) c → R (l'.railSum p amount) c := by
      intro amount hzero p c hR
      obtain ⟨hle, heq⟩ := railSum_open (p := p) hrails hzero
      cases drops with
      | inl hfresh =>
        rw [heq hfresh]
        exact hR
      | inr hdrops => exact hdrops hle hR
    apply h.of_same
    · intro token owner
      rw [eq]
      rfl
    · intro token client operator
      rw [eq]
      exact ⟨rfl, rfl⟩
    · exact hopen rfl
    · exact hopen rfl
  | @changed id old new oneTime m hold terms hchange eq =>
    subst eq
    apply (h.changeRail shifts (covered.counts hold) hold terms hchange).of_same
    · intro token owner
      exact locked_pay
    · intro token client operator
      rw [approval_pay]
      exact ⟨rfl, rfl⟩
    · intro p c
      rw [railSum, railSum, rails_pay]
      exact fun h => h
    · intro p c
      rw [railSum, railSum, rails_pay]
      exact fun h => h
  | @ended id r endEpoch hr eq =>
    have hrails : l'.rails = l.rails.insert id { r with endEpoch := endEpoch } := by
      rw [eq]
    apply h.of_same
    · intro token owner
      rw [eq]
      rfl
    · intro token client operator
      rw [eq]
      exact ⟨rfl, rfl⟩
    · intro p c
      rw [railSum_ended hr hrails rfl rfl]
      exact fun h => h
    · intro p c
      rw [railSum_ended hr hrails rfl rfl]
      exact fun h => h

theorem counted_empty (hR : R 0 0) : Counted R .empty :=
  ⟨fun _ _ => hR, fun _ _ _ => hR, fun _ _ _ => hR⟩

theorem covered_run : (run .empty ops).Counted (· ≤ ·) := by
  -- a number that is given again can only take away what the old rail held
  apply run_preserves (P := Counted (· ≤ ·))
  · intro l l' h heffect
    refine heffect.counted h ?_ h (.inr fun hle hcovered => Nat.le_trans hle hcovered)
    intro sum sum' count count' old new hle hsum hcount
    omega
  · exact counted_empty (Nat.le_refl 0)

theorem balanced_run (room : (run .empty ops).rails.size < UInt64.size) :
    (run .empty ops).Counted (· = ·) := by
  have hstep : ∀ l l', (l.rails.size < UInt64.size → l.Numbered ∧ l.Counted (· = ·)) →
      Effect l l' → l'.rails.size < UInt64.size → l'.Numbered ∧ l'.Counted (· = ·) := by
    intro l l' h heffect room
    obtain ⟨hnumbered, hbalanced⟩ := h (Nat.lt_of_le_of_lt heffect.size_le room)
    refine ⟨heffect.numbered hnumbered room, ?_⟩
    refine heffect.counted hbalanced ?_ (hbalanced.imp fun _ _ => Nat.le_of_eq)
      (.inl hnumbered.rail?_next)
    intro sum sum' count count' old new heq hsum hcount
    omega
  apply (run_preserves hstep ops _ room).2
  intro _
  exact ⟨numbered_empty, counted_empty rfl⟩

/--
What is counted is what the rails hold, as long as the ledger does not hold a rail for each number
of 64 bits, which are more than it can keep. Every change of a rail moves the counters by what the
rail holds more or less, no operation raises a usage above its allowance, and a refused one changes
nothing.
-/
theorem usage_counts_rails (ops : List Operation) :
    ((run .empty ops).rails.size < UInt64.size → (run .empty ops).Counted (· = ·)) ∧
    (∀ id old new l', (run .empty ops).rail? id = some old → new.toRailTerms = old.toRailTerms →
      (run .empty ops).changeRail id old new = .ok l' → (run .empty ops).Recounted old new l') ∧
    ∀ op answer l', (run .empty ops).operate op = (answer, l') →
      (∀ token client operator, RaisedWithinAllowance
        ((run .empty ops).approval token client operator) (l'.approval token client operator)) ∧
      ∀ e, answer = .error e → l' = run .empty ops := by
  refine ⟨balanced_run, ?_, ?_⟩
  · intro id old new l' hold terms hchange
    exact recounted_of_changeRail terms (covered_run.counts hold) hchange
  · intro op answer l' h
    cases answer with
    | error e =>
      obtain ⟨-, rfl⟩ := operate_eq_error_iff.mp h
      exact ⟨fun _ _ _ => .of_eq rfl rfl, fun _ _ => rfl⟩
    | ok a =>
      have heffect := effect_of_perform (operate_eq_ok_iff.mp h)
      exact ⟨fun _ _ _ => heffect.raisedWithinAllowance, fun e h => absurd h (by simp)⟩

def sampleTerms : RailTerms where
  token := 1
  payer := 2
  payee := 3
  operator := 4
  arbiter := 4
  commissionBps := 0
  feeRecipient := 4

def sampleOperations : List Operation :=
  [.deposit 1 2 1000, .approve 1 2 4 10 500 100, .createRail sampleTerms, .modifyLockup 1 10 50,
    .modifyPayment 1 2 0]

def sampleRail : Rail :=
  { sampleTerms with rate := 2, lockupPeriod := 10, lockupFixed := 50 }

theorem usage_of_sampleOperations :
    (run .empty sampleOperations).Counted (· = ·) ∧
    ((run .empty sampleOperations).account 1 2).locked = 70 ∧
    (∃ l', (run .empty sampleOperations).changeRail 1 sampleRail { sampleRail with rate := 3 } =
        .ok l' ∧
      (run .empty sampleOperations).Recounted sampleRail { sampleRail with rate := 3 } l') ∧
    (run .empty sampleOperations).operate (.modifyPayment 1 11 0) =
      (.error (.rateAllowanceExceeded 9 8), run .empty sampleOperations) := by
  obtain ⟨hbalanced, hrecounted, hrefused⟩ := usage_counts_rails sampleOperations
  refine ⟨hbalanced (by decide +kernel), by decide +kernel, ?_, ?_⟩
  · have hchange := eq_ok_getD (a := Ledger.empty)
      (x := (run .empty sampleOperations).changeRail 1 sampleRail { sampleRail with rate := 3 })
      (by decide +kernel)
    exact ⟨_, hchange, hrecounted 1 _ _ _ (by decide +kernel) rfl hchange⟩
  · have hanswer : ((run .empty sampleOperations).operate (.modifyPayment 1 11 0)).1 =
        .error (.rateAllowanceExceeded 9 8) := by
      decide +kernel
    have hsame := (hrefused (.modifyPayment 1 11 0) _ _ rfl).2 _ hanswer
    exact Prod.ext hanswer hsame

end Ledger

end WarmStorage

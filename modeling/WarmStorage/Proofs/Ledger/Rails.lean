import Mathlib.Order.Defs.Unbundled
import WarmStorage.Proofs.Ledger.Numbering

/-!
What becomes of a rail. Its terms never change, and a terminated rail does not change at all, since
every operation on a rail asks for a live one. Of all operations only one can change how long a rail
holds streaming payments in lockup.
-/

namespace WarmStorage

namespace Rail

/-- The terms stay and, if the rail was terminated, so does everything else. -/
def Lasts (r r' : Rail) : Prop :=
  r'.toRailTerms = r.toRailTerms ∧ (r.isTerminated = true → r' = r)

def SamePeriod (r r' : Rail) : Prop :=
  r'.lockupPeriod = r.lockupPeriod

def SameEnd (r r' : Rail) : Prop :=
  r'.endEpoch = r.endEpoch

instance : Std.Refl Lasts where
  refl _ := ⟨rfl, fun _ => rfl⟩

instance : IsTrans Rail Lasts where
  trans _ _ _ h h' := by
    refine ⟨h'.1.trans h.1, fun hended => ?_⟩
    have heq := h.2 hended
    subst heq
    exact h'.2 hended

instance : Std.Refl SamePeriod where
  refl _ := rfl

instance : IsTrans Rail SamePeriod where
  trans _ _ _ h h' := h'.trans h

instance : Std.Refl SameEnd where
  refl _ := rfl

instance : IsTrans Rail SameEnd where
  trans _ _ _ h h' := h'.trans h

theorem lasts_of_live {r r' : Rail} (hlive : r.isTerminated = false)
    (hterms : r'.toRailTerms = r.toRailTerms) : r.Lasts r' := by
  refine ⟨hterms, fun hended => ?_⟩
  rw [hlive] at hended
  contradiction

end Rail

namespace Ledger

variable {l l' m : Ledger} {id other : RailId} {r : Rail} {op : Operation} {answer : Answer}
  {terms : RailTerms} {period : UInt64} {fixed rate oneTime : TokenAmount} {epoch endEpoch : Epoch}

theorem rail?_of_createRail (h : l.createRail terms = .ok (id, l')) (other : RailId) :
    l'.rail? other = if id = other then some { toRailTerms := terms } else l.rail? other := by
  obtain ⟨-, rfl, rfl⟩ := createRail_eq_ok_iff.mp h
  exact rail?_of_insert rfl

theorem rail?_of_changeRail {old new : Rail} (h : l.changeRail id old new = .ok l')
    (other : RailId) : l'.rail? other = if id = other then some new else l.rail? other := by
  obtain ⟨-, -, a, b, c, -, -, rfl⟩ := changeRail_eq_ok_iff.mp h
  exact rail?_of_insert rfl

theorem rail?_of_modifyLockup (h : l.modifyLockup id period fixed = .ok l') :
    ∃ r, l.rail? id = some r ∧ r.isTerminated = false ∧ ∀ other, l'.rail? other =
      if id = other then some { r with lockupPeriod := period, lockupFixed := fixed }
      else l.rail? other := by
  obtain ⟨r, hr, hlive, hchange⟩ := modifyLockup_eq_ok_iff.mp h
  exact ⟨r, hr, hlive, rail?_of_changeRail hchange⟩

theorem rail?_of_modifyPayment (h : l.modifyPayment id rate oneTime = .ok l') :
    ∃ r, l.rail? id = some r ∧ r.isTerminated = false ∧ ∀ other, l'.rail? other =
      if id = other then some { r with rate := rate, lockupFixed := r.lockupFixed - oneTime }
      else l.rail? other := by
  obtain ⟨r, m, hr, hlive, -, hchange, rfl⟩ := modifyPayment_eq_ok_iff.mp h
  refine ⟨r, hr, hlive, fun other => ?_⟩
  rw [← rail?_of_changeRail hchange other, rail?, rails_pay]
  rfl

theorem rail?_of_terminate (h : l.terminate id epoch = .ok (endEpoch, l')) :
    ∃ r, l.rail? id = some r ∧ r.isTerminated = false ∧
      endEpoch = Word.clampAdd epoch r.lockupPeriod ∧ ∀ other, l'.rail? other =
        if id = other then some { r with endEpoch := endEpoch } else l.rail? other := by
  obtain ⟨r, hr, hlive, hend, rfl⟩ := terminate_eq_ok_iff.mp h
  exact ⟨r, hr, hlive, hend, fun other => rail?_of_insert rfl⟩

theorem rails_of_both {first second : RailId} {q : Rail} (hne : first ≠ second)
    (h : ∀ other, m.rail? other = if first = other then some r else l.rail? other)
    (h' : ∀ other, l'.rail? other = if second = other then some q else m.rail? other) :
    ∀ other, l'.rail? other =
      if first = other then some r else if second = other then some q else l.rail? other := by
  intro other
  rw [h', h]
  by_cases hid : first = other
  · rw [if_pos hid, if_pos hid, if_neg]
    rintro rfl
    exact hne hid
  · rw [if_neg hid, if_neg hid]

def Keeps (R : Rail → Rail → Prop) (l l' : Ledger) : Prop :=
  ∀ id r, l.rail? id = some r → ∃ r', l'.rail? id = some r' ∧ R r r'

section

variable {R : Rail → Rail → Prop} {r' : Rail}

theorem Keeps.trans [IsTrans Rail R] (h : l.Keeps R m) (h' : m.Keeps R l') : l.Keeps R l' := by
  intro id r hr
  obtain ⟨q, hq, hrq⟩ := h id r hr
  obtain ⟨r', hr', hqr⟩ := h' id q hq
  exact ⟨r', hr', trans_of R hrq hqr⟩

variable [Std.Refl R]

theorem Keeps.of_rails (hrails : l'.rails = l.rails) : l.Keeps R l' := by
  intro id r hr
  refine ⟨r, ?_, refl_of R r⟩
  rw [rail?, hrails]
  exact hr

theorem Keeps.refl : l.Keeps R l :=
  .of_rails rfl

theorem Keeps.replace (hr : l.rail? id = some r)
    (hrails : ∀ other, l'.rail? other = if id = other then some r' else l.rail? other)
    (h : R r r') : l.Keeps R l' := by
  intro other q hq
  rw [hrails other]
  split
  · rename_i heq
    subst heq
    rw [hr, Option.some.injEq] at hq
    subst hq
    exact ⟨r', rfl, h⟩
  · exact ⟨q, hq, refl_of R q⟩

theorem Keeps.open (unused : l.rail? id = none)
    (hrails : ∀ other, l'.rail? other = if id = other then some r' else l.rail? other) :
    l.Keeps R l' := by
  intro other q hq
  rw [hrails other, if_neg]
  · exact ⟨q, hq, refl_of R q⟩
  · rintro rfl
    rw [unused] at hq
    contradiction

end

abbrev KeepsRails : Ledger → Ledger → Prop :=
  Keeps Rail.Lasts

theorem keepsRails_of_perform (numbered : l.Numbered) (h : l.perform op = .ok (answer, l')) :
    l.KeepsRails l' := by
  cases performed_of_perform h with
  | deposited => exact .of_rails rfl
  | approved => exact .of_rails rfl
  | opened hcreate =>
    have hrails := rail?_of_createRail hcreate
    obtain ⟨-, rfl, -⟩ := createRail_eq_ok_iff.mp hcreate
    exact .open numbered.rail?_next hrails
  | held hmodify =>
    obtain ⟨r, hr, hlive, hrails⟩ := rail?_of_modifyLockup hmodify
    exact .replace hr hrails (Rail.lasts_of_live hlive rfl)
  | paid hmodify =>
    obtain ⟨r, hr, hlive, hrails⟩ := rail?_of_modifyPayment hmodify
    exact .replace hr hrails (Rail.lasts_of_live hlive rfl)
  | ended hterminate =>
    obtain ⟨r, hr, hlive, -, hrails⟩ := rail?_of_terminate hterminate
    exact .replace hr hrails (Rail.lasts_of_live hlive rfl)

theorem Reaches.keepsRails (h : l.Reaches l') (numbered : l.Numbered)
    (room : l'.rails.size < UInt64.size) : l.KeepsRails l' := by
  obtain ⟨ops, rfl⟩ := h
  induction ops generalizing l with
  | nil => exact .refl
  | cons op ops ih =>
    have hrest : (l.operate op).2.Reaches ((l.operate op).2.run ops) := ⟨ops, rfl⟩
    have hroom : (l.operate op).2.rails.size < UInt64.size :=
      Nat.lt_of_le_of_lt hrest.size_le room
    have hstep : l.KeepsRails (l.operate op).2 ∧ (l.operate op).2.Numbered := by
      unfold operate at hroom ⊢
      cases hperform : l.perform op with
      | error e => exact ⟨.refl, numbered⟩
      | ok r =>
        rw [hperform] at hroom
        exact ⟨keepsRails_of_perform numbered hperform,
          (effect_of_perform hperform).numbered numbered hroom⟩
    exact hstep.1.trans (ih hstep.2 room)

abbrev KeepsPeriods : Ledger → Ledger → Prop :=
  Keeps Rail.SamePeriod

theorem keepsPeriods_of_modifyPayment (h : l.modifyPayment id rate oneTime = .ok l') :
    l.KeepsPeriods l' := by
  obtain ⟨r, hr, -, hrails⟩ := rail?_of_modifyPayment h
  exact .replace hr hrails rfl

theorem keepsPeriods_of_terminate (h : l.terminate id epoch = .ok (endEpoch, l')) :
    l.KeepsPeriods l' := by
  obtain ⟨r, hr, -, -, hrails⟩ := rail?_of_terminate h
  exact .replace hr hrails rfl

theorem keepsPeriods_of_modifyLockup (hr : l.rail? id = some r)
    (h : l.modifyLockup id r.lockupPeriod fixed = .ok l') : l.KeepsPeriods l' := by
  obtain ⟨q, hq, -, hrails⟩ := rail?_of_modifyLockup h
  rw [hr, Option.some.injEq] at hq
  subst hq
  exact .replace hr hrails rfl

abbrev KeepsEnds : Ledger → Ledger → Prop :=
  Keeps Rail.SameEnd

theorem keepsEnds_of_modifyPayment (h : l.modifyPayment id rate oneTime = .ok l') :
    l.KeepsEnds l' := by
  obtain ⟨r, hr, -, hrails⟩ := rail?_of_modifyPayment h
  exact .replace hr hrails rfl

theorem keepsEnds_of_modifyLockup (h : l.modifyLockup id period fixed = .ok l') :
    l.KeepsEnds l' := by
  obtain ⟨r, hr, -, hrails⟩ := rail?_of_modifyLockup h
  exact .replace hr hrails rfl

theorem perform_terminate (h : l.terminate id epoch = .ok (endEpoch, l')) :
    l.perform (.terminate id epoch) = .ok (.endEpoch endEpoch, l') :=
  bind_eq_ok_iff.mpr ⟨_, h, rfl⟩

theorem terminate_of_perform (h : l.perform op = .ok (answer, l')) (hr : l.rail? id = some r)
    (hlive : r.isTerminated = false) {r' : Rail} (hr' : l'.rail? id = some r')
    (hended : r'.isTerminated = true) :
    ∃ epoch endEpoch, op = .terminate id epoch ∧ l.terminate id epoch = .ok (endEpoch, l') := by
  have not_of_keepsEnds (keeps : l.KeepsEnds l') : False := by
    obtain ⟨q, hq, hend⟩ := keeps id r hr
    rw [hr', Option.some.injEq] at hq
    subst hq
    rw [Rail.isTerminated, hend] at hended
    exact absurd (hended.symm.trans hlive) (by simp)
  cases performed_of_perform h with
  | deposited => exact (not_of_keepsEnds (.of_rails rfl)).elim
  | approved => exact (not_of_keepsEnds (.of_rails rfl)).elim
  | opened hcreate =>
    rw [rail?_of_createRail hcreate] at hr'
    split at hr'
    · cases hr'
      contradiction
    · cases hr.symm.trans hr'
      exact absurd (hended.symm.trans hlive) (by simp)
  | held hmodify => exact (not_of_keepsEnds (keepsEnds_of_modifyLockup hmodify)).elim
  | paid hmodify => exact (not_of_keepsEnds (keepsEnds_of_modifyPayment hmodify)).elim
  | @ended other epoch endEpoch _ hterminate =>
    obtain ⟨_, -, -, -, hrails⟩ := rail?_of_terminate hterminate
    by_cases heq : other = id
    · subst heq
      exact ⟨epoch, endEpoch, rfl, hterminate⟩
    · rw [hrails, if_neg heq, hr, Option.some.injEq] at hr'
      subst hr'
      exact absurd (hended.symm.trans hlive) (by simp)

end Ledger

end WarmStorage

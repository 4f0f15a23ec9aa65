import Mathlib.Order.Bounds.Defs
import WarmStorage.Proofs.Schedule.Geometry

/-!
Deadlines and the periods of epochs as a Galois connection, also where deadlines are cut off at the
last epoch. What the functions on a schedule have to do with one another is read off from it: each
epoch lies in one period, a deadline ends the period it lies in, and both ways to the next deadline
lead to the same one.
-/

namespace WarmStorage.Schedule

variable {s : Schedule} {epoch d : Epoch} {p q : UInt64}

def InPeriod (s : Schedule) (period : UInt64) (epoch : Epoch) : Prop :=
  epoch ≤ s.deadline period ∧ (period ≠ 0 → s.deadline (period - 1) < epoch)

theorem inPeriod_iff (h : s.covers epoch = true) :
    s.InPeriod p epoch ↔ p = s.periodContaining epoch := by
  constructor
  · rintro ⟨hle, hlt⟩
    have hcontaining := (periodContaining_le_iff h).mpr hle
    apply UInt64.le_antisymm _ hcontaining
    by_cases hp : p = 0
    · rw [hp]
      exact UInt64.zero_le
    · have hbefore := UInt64.not_le.mpr (hlt hp)
      rw [← periodContaining_le_iff h, UInt64.not_le, UInt64.lt_iff_toNat_lt, toNat_sub_one hp]
        at hbefore
      rw [UInt64.le_iff_toNat_le]
      omega
  · rintro rfl
    exact ⟨le_deadline_periodContaining h, deadline_pred_lt h⟩

theorem endsAt_deadline (fits : s.activation.toNat + (p.toNat + 1) * s.params.periodLength.toNat <
    18446744073709551616) : s.EndsAt p (s.deadline p) := by
  rw [EndsAt, toNat_deadline]
  omega

theorem periodIndex_le_iff (h : s.covers epoch = true) (hlast : epoch.toNat < 0xffffffffffffffff) :
    s.periodIndex epoch ≤ p ↔ epoch < s.deadline p := by
  have hc := covers_iff.mp h
  rw [UInt64.le_iff_toNat_le, UInt64.lt_iff_toNat_lt, toNat_periodIndex h, toNat_deadline,
    ← Nat.lt_succ_iff, Nat.div_lt_iff_lt_mul hc.2.2, Nat.succ_eq_add_one]
  omega

theorem isLeast_nextDeadlineAfter (h : s.covers epoch = true)
    (hlast : epoch.toNat < 0xffffffffffffffff) :
    IsLeast {d | epoch < d ∧ ∃ p, s.deadline p = d} (s.nextDeadlineAfter epoch) := by
  rw [nextDeadlineAfter_eq h]
  constructor
  · exact ⟨(periodIndex_le_iff h hlast).mp (UInt64.le_refl _), _, rfl⟩
  · rintro _ ⟨hlt, p, rfl⟩
    exact deadline_mono ((periodIndex_le_iff h hlast).mpr hlt)

theorem EndsAt.deadline_periodContaining (h : s.EndsAt q d) (hc : s.covers epoch = true)
    (hlt : d < epoch)
    (fits : d.toNat + s.params.periodLength.toNat *
      ((periodsSkipped d epoch s.params.periodLength).toNat + 1) < 18446744073709551616) :
    d.toNat + s.params.periodLength.toNat *
      ((periodsSkipped d epoch s.params.periodLength).toNat + 1) =
        (s.deadline (s.periodContaining epoch)).toNat := by
  obtain ⟨next, hnext⟩ : ∃ next : Epoch, next.toNat = d.toNat + s.params.periodLength.toNat *
      ((periodsSkipped d epoch s.params.periodLength).toNat + 1) :=
    ⟨_, UInt64.toNat_ofNat_of_lt' fits⟩
  rw [← hnext]
  rw [toNat_periodsSkipped hlt] at hnext
  rw [(h.next hc hlt hnext).deadline_eq]

/--
Periods and deadlines of a schedule are connected, and the other functions agree with them: on the
period of an epoch and of a deadline, on the deadline after an epoch, and on the deadline that is
reached from an earlier one over the periods that were skipped.
-/
theorem deadlines_and_periods_connected {s : Schedule} (active : 1 ≤ s.activation)
    (periodic : 1 ≤ s.params.periodLength) {epoch : Epoch} (started : s.activation ≤ epoch) :
    (∀ p, epoch ≤ s.deadline p ↔ s.periodContaining epoch ≤ p) ∧
    (∀ p, s.InPeriod p epoch ↔ p = s.periodContaining epoch) ∧
    (∀ d, s.activation < d → s.periodOfDeadline d = s.periodContaining d) ∧
    (∀ p, s.activation.toNat + (p.toNat + 1) * s.params.periodLength.toNat <
      18446744073709551616 → s.periodOfDeadline (s.deadline p) = p) ∧
    (epoch.toNat + s.params.periodLength.toNat < 18446744073709551616 →
      IsLeast {d | epoch < d ∧ ∃ p, s.deadline p = d} (s.nextDeadlineAfter epoch)) ∧
    ∀ p, s.deadline p < epoch →
      (s.deadline p).toNat + s.params.periodLength.toNat *
        ((periodsSkipped (s.deadline p) epoch s.params.periodLength).toNat + 1) <
          18446744073709551616 →
      (s.deadline p).toNat + s.params.periodLength.toNat *
        ((periodsSkipped (s.deadline p) epoch s.params.periodLength).toNat + 1) =
          (s.deadline (s.periodContaining epoch)).toNat := by
  rw [UInt64.le_iff_toNat_le] at active periodic started
  rw [UInt64.toNat_one] at active periodic
  have hactive : s.isActive = true := isActive_iff.mpr active
  have hcovers : s.covers epoch = true := covers_iff.mpr ⟨active, started, periodic⟩
  refine ⟨?_, ?_, ?_, ?_, ?_, ?_⟩
  · intro p
    exact (periodContaining_le_iff hcovers).symm
  · intro p
    exact inPeriod_iff hcovers
  · intro d hlt
    exact periodOfDeadline_eq (UInt64.lt_iff_toNat_lt.mp hlt)
  · intro p fits
    exact (endsAt_deadline fits).periodOfDeadline_eq hactive periodic
  · intro fits
    exact isLeast_nextDeadlineAfter hcovers (by omega)
  · intro p hlt fits
    exact (endsAt_deadline_of_lt hlt).deadline_periodContaining hcovers hlt fits

/-- A schedule with two deadlines left, after which they are cut off. -/
theorem deadlines_and_periods_connected_at_end :
    let s : Schedule := ⟨18446744073709551590, ⟨10, 4⟩⟩
    let epoch : Epoch := 18446744073709551601
    1 ≤ s.activation ∧ 1 ≤ s.params.periodLength ∧ s.activation ≤ epoch ∧
      s.deadline 5 = Word.largest ∧ (epoch ≤ s.deadline 5 ↔ s.periodContaining epoch ≤ 5) ∧
      s.InPeriod 1 epoch ∧ s.periodOfDeadline Word.largest = s.periodContaining Word.largest ∧
      s.periodOfDeadline (s.deadline 1) = 1 ∧
      IsLeast {d | epoch < d ∧ ∃ p, s.deadline p = d} (s.nextDeadlineAfter epoch) ∧
      (s.deadline 0).toNat + 10 * ((periodsSkipped (s.deadline 0) epoch 10).toNat + 1) =
        (s.deadline (s.periodContaining epoch)).toNat := by
  intro s epoch
  have hactive : 1 ≤ s.activation := by decide
  have hperiodic : 1 ≤ s.params.periodLength := by decide
  have hstarted : s.activation ≤ epoch := by decide
  obtain ⟨hconnected, hperiod, hdeadline, hends, hnext, hskipped⟩ :=
    deadlines_and_periods_connected hactive hperiodic hstarted
  exact ⟨hactive, hperiodic, hstarted, by decide, hconnected 5, (hperiod 1).mpr (by decide),
    hdeadline Word.largest (by decide), hends 1 (by decide), hnext (by decide),
    hskipped 0 (by decide) (by decide)⟩

end WarmStorage.Schedule

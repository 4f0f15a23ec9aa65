import Mathlib.Tactic.Ring
import WarmStorage.Schedule

/-!
The geometry of periods over the natural numbers. The deadlines of a schedule are the multiples of
the period length after the activation, cut off at the last epoch, and the period of an epoch is
the first one whose deadline is not before it.
-/

namespace WarmStorage

theorem ChallengeWindow.mem_endingAt_iff {deadline size epoch : UInt64} :
    (ChallengeWindow.endingAt deadline size).contains epoch = true ↔
      deadline.toNat - size.toNat ≤ epoch.toNat ∧ epoch.toNat ≤ deadline.toNat := by
  rw [ChallengeWindow.contains_iff]
  simp only [ChallengeWindow.endingAt, UInt64.le_iff_toNat_le, Word.toNat_clampSub]

namespace Schedule

variable {s : Schedule} {epoch d : Epoch} {p q : UInt64}

theorem isActive_iff : s.isActive = true ↔ 0 < s.activation.toNat := by
  simp only [isActive, bne_iff_ne, ne_eq, ← UInt64.toNat_inj, UInt64.toNat_zero]
  omega

theorem covers_iff : s.covers epoch = true ↔
    0 < s.activation.toNat ∧ s.activation.toNat ≤ epoch.toNat ∧
      0 < s.params.periodLength.toNat := by
  simp only [covers, Bool.and_eq_true, isActive_iff, decide_eq_true_eq, UInt64.le_iff_toNat_le,
    bne_iff_ne, ne_eq, ← UInt64.toNat_inj, UInt64.toNat_zero, and_assoc]
  omega

theorem toNat_deadline : (s.deadline p).toNat =
    min (s.activation.toNat + (p.toNat + 1) * s.params.periodLength.toNat) 0xffffffffffffffff := by
  have := p.toNat_lt
  simp only [deadline, Word.toNat_clampAdd, Word.toNat_clampMul, UInt64.toNat_one]
  rcases Nat.eq_zero_or_pos s.params.periodLength.toNat with h | h
  · simp [h]
  · have le : p.toNat + 1 ≤ (p.toNat + 1) * s.params.periodLength.toNat :=
      Nat.le_mul_of_pos_right _ h
    by_cases last : p.toNat + 1 ≤ 0xffffffffffffffff
    · rw [Nat.min_eq_left last]
      omega
    · have big := Nat.le_mul_of_pos_right 0xffffffffffffffff h
      rw [Nat.min_eq_right (Nat.le_of_not_le last)]
      omega

theorem toNat_periodContaining (h : s.covers epoch = true) : (s.periodContaining epoch).toNat =
    (epoch.toNat - s.activation.toNat - 1) / s.params.periodLength.toNat := by
  have hle : s.activation ≤ epoch := UInt64.le_iff_toNat_le.mpr (covers_iff.mp h).2.1
  rw [periodContaining, if_pos h, UInt64.toNat_div, Word.toNat_clampSub,
    UInt64.toNat_sub_of_le _ _ hle, UInt64.toNat_one]

theorem toNat_periodIndex (h : s.covers epoch = true) : (s.periodIndex epoch).toNat =
    (epoch.toNat - s.activation.toNat) / s.params.periodLength.toNat := by
  have hle : s.activation ≤ epoch := UInt64.le_iff_toNat_le.mpr (covers_iff.mp h).2.1
  rw [periodIndex, if_pos h, UInt64.toNat_div, UInt64.toNat_sub_of_le _ _ hle]

theorem periodOfDeadline_eq (h : s.activation.toNat < d.toNat) :
    s.periodOfDeadline d = s.periodContaining d := by
  have hlt : s.activation < d := UInt64.lt_iff_toNat_lt.mpr h
  have hle : s.activation ≤ d := UInt64.le_iff_toNat_le.mpr (Nat.le_of_lt h)
  have hone : 1 ≤ d - s.activation := by
    rw [UInt64.le_iff_toNat_le, UInt64.toNat_sub_of_le _ _ hle, UInt64.toNat_one]
    omega
  have hsub : Word.clampSub (d - s.activation) 1 = d - s.activation - 1 := by
    apply UInt64.toNat_inj.mp
    rw [Word.toNat_clampSub, UInt64.toNat_sub_of_le _ _ hone]
  simp [periodOfDeadline, periodContaining, hlt, hsub]

theorem periodContaining_le_iff (h : s.covers epoch = true) :
    s.periodContaining epoch ≤ p ↔ epoch ≤ s.deadline p := by
  have hc := covers_iff.mp h
  have := epoch.toNat_lt
  rw [UInt64.le_iff_toNat_le, UInt64.le_iff_toNat_le, toNat_periodContaining h, toNat_deadline,
    ← Nat.lt_succ_iff, Nat.div_lt_iff_lt_mul hc.2.2, Nat.succ_eq_add_one]
  have : 0 < (p.toNat + 1) * s.params.periodLength.toNat := Nat.mul_pos (by omega) hc.2.2
  omega

theorem toNat_sub_one {w : UInt64} (h : w ≠ 0) : (w - 1).toNat = w.toNat - 1 := by
  rw [UInt64.toNat_sub_of_le, UInt64.toNat_one]
  rw [UInt64.le_iff_toNat_le, UInt64.toNat_one]
  rw [ne_eq, ← UInt64.toNat_inj, UInt64.toNat_zero] at h
  exact Nat.pos_of_ne_zero h

theorem deadline_pred_lt (h : s.covers epoch = true) (hne : s.periodContaining epoch ≠ 0) :
    s.deadline (s.periodContaining epoch - 1) < epoch := by
  have hpos := UInt64.pos_iff_ne_zero.mpr hne
  rw [UInt64.lt_iff_toNat_lt, UInt64.toNat_zero] at hpos
  rw [← UInt64.not_le, ← periodContaining_le_iff h, UInt64.not_le, UInt64.lt_iff_toNat_lt,
    toNat_sub_one hne]
  omega

theorem le_deadline_periodContaining (h : s.covers epoch = true) :
    epoch ≤ s.deadline (s.periodContaining epoch) :=
  (periodContaining_le_iff h).mp (UInt64.le_refl _)

theorem periodContaining_mono (hd : s.covers epoch = true) (h : epoch ≤ d) :
    s.periodContaining epoch ≤ s.periodContaining d := by
  have hcd : s.covers d = true := by
    have := UInt64.le_iff_toNat_le.mp h
    rw [covers_iff] at hd ⊢
    omega
  rw [UInt64.le_iff_toNat_le, toNat_periodContaining hd, toNat_periodContaining hcd]
  apply Nat.div_le_div_right
  have := UInt64.le_iff_toNat_le.mp h
  omega

theorem deadline_mono (h : p ≤ q) : s.deadline p ≤ s.deadline q := by
  have hle := UInt64.le_iff_toNat_le.mp h
  have := Nat.mul_le_mul_right s.params.periodLength.toNat (Nat.add_le_add_right hle 1)
  rw [UInt64.le_iff_toNat_le, toNat_deadline, toNat_deadline]
  omega

theorem deadline_periodContaining_deadline (h : s.covers (s.deadline p) = true) :
    s.deadline (s.periodContaining (s.deadline p)) = s.deadline p := by
  apply UInt64.le_antisymm
  · apply deadline_mono
    rw [periodContaining_le_iff h]
    exact UInt64.le_refl _
  · exact le_deadline_periodContaining h

theorem periodContaining_eq (h : s.covers epoch = true)
    (hlo : s.activation.toNat + p.toNat * s.params.periodLength.toNat < epoch.toNat)
    (hhi : epoch.toNat ≤ s.activation.toNat + (p.toNat + 1) * s.params.periodLength.toNat) :
    s.periodContaining epoch = p := by
  rw [← UInt64.toNat_inj, toNat_periodContaining h]
  apply Nat.div_eq_of_lt_le
  · omega
  · omega

/-- `d` ends the period `p`, and was not cut off. -/
def EndsAt (s : Schedule) (p : UInt64) (d : Epoch) : Prop :=
  d.toNat = s.activation.toNat + (p.toNat + 1) * s.params.periodLength.toNat

theorem EndsAt.deadline_eq (h : s.EndsAt p d) : s.deadline p = d := by
  have := d.toNat_lt
  unfold EndsAt at h
  rw [← UInt64.toNat_inj, toNat_deadline, ← h]
  omega

theorem EndsAt.ne_zero (active : s.isActive = true) (h : s.EndsAt p d) : d ≠ 0 := by
  have := isActive_iff.mp active
  unfold EndsAt at h
  rw [ne_eq, ← UInt64.toNat_inj, UInt64.toNat_zero]
  omega

theorem EndsAt.periodContaining_eq (active : s.isActive = true)
    (hlen : 0 < s.params.periodLength.toNat) (h : s.EndsAt p d) : s.periodContaining d = p := by
  unfold EndsAt at h
  have hpos : s.params.periodLength.toNat ≤ (p.toNat + 1) * s.params.periodLength.toNat :=
    Nat.le_mul_of_pos_left _ (Nat.succ_pos _)
  apply Schedule.periodContaining_eq
  · rw [covers_iff]
    exact ⟨isActive_iff.mp active, by omega, hlen⟩
  · rw [h, Nat.add_mul]
    omega
  · exact Nat.le_of_eq h

theorem EndsAt.periodOfDeadline_eq (active : s.isActive = true)
    (hlen : 0 < s.params.periodLength.toNat) (h : s.EndsAt p d) : s.periodOfDeadline d = p := by
  have hend := h
  unfold EndsAt at h
  have hpos : s.params.periodLength.toNat ≤ (p.toNat + 1) * s.params.periodLength.toNat :=
    Nat.le_mul_of_pos_left _ (Nat.succ_pos _)
  rw [Schedule.periodOfDeadline_eq (by omega)]
  exact hend.periodContaining_eq active hlen

theorem endsAt_deadline_of_lt (h : s.deadline q < epoch) : s.EndsAt q (s.deadline q) := by
  have hlt := UInt64.lt_iff_toNat_lt.mp h
  have := epoch.toNat_lt
  unfold EndsAt
  rw [toNat_deadline] at hlt ⊢
  omega

theorem EndsAt.toNat_periodContaining_of_lt (h : s.EndsAt q d) (hc : s.covers epoch = true)
    (hlt : d < epoch) : (s.periodContaining epoch).toNat =
      q.toNat + 1 + (epoch.toNat - d.toNat - 1) / s.params.periodLength.toNat := by
  have hlt := UInt64.lt_iff_toNat_lt.mp hlt
  unfold EndsAt at h
  have hrest : epoch.toNat - s.activation.toNat - 1 =
      (epoch.toNat - d.toNat - 1) + (q.toNat + 1) * s.params.periodLength.toNat := by
    omega
  rw [toNat_periodContaining hc, hrest, Nat.add_mul_div_right _ _ (covers_iff.mp hc).2.2,
    Nat.add_comm]

theorem EndsAt.next {next : Epoch} (h : s.EndsAt q d) (hc : s.covers epoch = true)
    (hlt : d < epoch)
    (hnext : next.toNat = d.toNat + s.params.periodLength.toNat *
      ((epoch.toNat - d.toNat - 1) / s.params.periodLength.toNat + 1)) :
    s.EndsAt (s.periodContaining epoch) next := by
  have hperiod := h.toNat_periodContaining_of_lt hc hlt
  unfold EndsAt at h ⊢
  rw [hperiod, hnext, h]
  ring

theorem nextDeadlineAfter_eq (h : s.covers epoch = true) :
    s.nextDeadlineAfter epoch = s.deadline (s.periodIndex epoch) := by
  have hle : ¬ epoch < s.activation := by
    rw [UInt64.not_lt, UInt64.le_iff_toNat_le]
    exact (covers_iff.mp h).2.1
  rw [nextDeadlineAfter, if_neg hle]

theorem toNat_nextDeadlineAfter (h : s.covers epoch = true) : (s.nextDeadlineAfter epoch).toNat =
    min (s.activation.toNat + ((epoch.toNat - s.activation.toNat) / s.params.periodLength.toNat + 1) *
      s.params.periodLength.toNat) 0xffffffffffffffff := by
  rw [nextDeadlineAfter_eq h, toNat_deadline, toNat_periodIndex h]

theorem le_nextDeadlineAfter (h : s.covers epoch = true) : epoch ≤ s.nextDeadlineAfter epoch := by
  have hc := covers_iff.mp h
  have := Nat.lt_mul_div_succ (epoch.toNat - s.activation.toNat) hc.2.2
  have := epoch.toNat_lt
  rw [UInt64.le_iff_toNat_le, toNat_nextDeadlineAfter h, Nat.mul_comm]
  omega

theorem endsAt_nextDeadlineAfter (h : s.covers epoch = true)
    (bounded : epoch.toNat + s.params.periodLength.toNat < 18446744073709551616) :
    s.EndsAt (s.periodIndex epoch) (s.nextDeadlineAfter epoch) := by
  have hc := covers_iff.mp h
  have hle := Nat.div_mul_le_self (epoch.toNat - s.activation.toNat) s.params.periodLength.toNat
  rw [EndsAt, toNat_nextDeadlineAfter h, toNat_periodIndex h]
  rw [Nat.add_mul]
  omega

theorem endsAt_nextDeadlineAfter_of_lt (h : epoch < s.activation)
    (fits : s.activation.toNat + s.params.periodLength.toNat < 18446744073709551616) :
    s.EndsAt 0 (s.nextDeadlineAfter epoch) := by
  rw [EndsAt, nextDeadlineAfter, if_pos h, toNat_deadline, UInt64.toNat_zero]
  omega

theorem endsAt_or_cutOff_nextDeadlineAfter (active : s.isActive = true)
    (hlen : 0 < s.params.periodLength.toNat)
    (fits : s.activation.toNat + s.params.periodLength.toNat < 18446744073709551616)
    (epoch : Epoch) :
    (∃ p, s.EndsAt p (s.nextDeadlineAfter epoch) ∧ epoch < s.nextDeadlineAfter epoch) ∨
      s.nextDeadlineAfter epoch = Word.largest ∧
        ∀ k, epoch.toNat < s.activation.toNat + k * s.params.periodLength.toNat →
          18446744073709551616 ≤ s.activation.toNat + k * s.params.periodLength.toNat := by
  by_cases hlt : epoch < s.activation
  · left
    have hends := endsAt_nextDeadlineAfter_of_lt hlt fits
    refine ⟨0, hends, ?_⟩
    unfold EndsAt at hends
    rw [UInt64.lt_iff_toNat_lt] at hlt ⊢
    omega
  · have hcovers : s.covers epoch = true := by
      rw [UInt64.not_lt, UInt64.le_iff_toNat_le] at hlt
      rw [covers_iff]
      exact ⟨isActive_iff.mp active, hlt, hlen⟩
    have hle := (covers_iff.mp hcovers).2.1
    have hnext := toNat_nextDeadlineAfter hcovers
    have hafter := Nat.lt_mul_div_succ (epoch.toNat - s.activation.toNat) hlen
    rw [Nat.mul_comm] at hafter
    by_cases hfit : s.activation.toNat +
        ((epoch.toNat - s.activation.toNat) / s.params.periodLength.toNat + 1) *
          s.params.periodLength.toNat < 18446744073709551616
    · left
      refine ⟨s.periodIndex epoch, ?_, ?_⟩
      · rw [EndsAt, hnext, toNat_periodIndex hcovers]
        omega
      · rw [UInt64.lt_iff_toNat_lt, hnext]
        omega
    · right
      constructor
      · rw [← UInt64.toNat_inj, hnext, Word.toNat_largest]
        omega
      · intro k hk
        -- the index of the epoch is the least whose deadline lies after it
        have hindex : (epoch.toNat - s.activation.toNat) / s.params.periodLength.toNat < k := by
          apply (Nat.div_lt_iff_lt_mul hlen).mpr
          omega
        have := Nat.mul_le_mul_right s.params.periodLength.toNat (Nat.succ_le_of_lt hindex)
        rw [Nat.succ_eq_add_one] at this
        omega

theorem window_contains_iff : (s.window d).contains epoch = true ↔
    d.toNat - s.params.windowSize.toNat ≤ epoch.toNat ∧ epoch.toNat ≤ d.toNat :=
  ChallengeWindow.mem_endingAt_iff

theorem EndsAt.periodContaining_of_window (active : s.isActive = true) (valid : s.params.Valid)
    (h : s.EndsAt p d) (hwindow : (s.window d).contains epoch = true) :
    s.periodContaining epoch = p := by
  have hsize := UInt64.lt_iff_toNat_lt.mp valid.2
  rw [window_contains_iff] at hwindow
  unfold EndsAt at h
  rw [Nat.add_mul] at h
  apply Schedule.periodContaining_eq
  · rw [covers_iff]
    exact ⟨isActive_iff.mp active, by omega, by omega⟩
  · omega
  · rw [Nat.add_mul]
    omega

theorem endsAt_deadline_of_window (hsize : s.params.windowSize < s.params.periodLength)
    (bounded : epoch.toNat + s.params.periodLength.toNat < 18446744073709551616)
    (hwindow : (s.window (s.deadline p)).contains epoch = true) :
    s.EndsAt p (s.deadline p) := by
  have hsize := UInt64.lt_iff_toNat_lt.mp hsize
  rw [window_contains_iff, toNat_deadline] at hwindow
  rw [EndsAt, toNat_deadline]
  omega

end Schedule

theorem toNat_periodsSkipped {deadline epoch length : UInt64} (h : deadline < epoch) :
    (periodsSkipped deadline epoch length).toNat =
      (epoch.toNat - deadline.toNat - 1) / length.toNat := by
  have hlt := UInt64.lt_iff_toNat_lt.mp h
  have := epoch.toNat_lt
  have hsucc : (deadline + 1).toNat = deadline.toNat + 1 := by
    rw [UInt64.toNat_add, UInt64.toNat_one]
    exact Nat.mod_eq_of_lt (by omega)
  have hle : deadline + 1 ≤ epoch := by
    rw [UInt64.le_iff_toNat_le, hsucc]
    exact hlt
  unfold periodsSkipped
  split
  · rename_i hzero
    have hlength : length = 0 := by
      simpa [UInt64.not_le.mpr h] using hzero
    simp [hlength]
  · rw [UInt64.toNat_div, UInt64.toNat_sub_of_le _ _ hle, hsucc, Nat.sub_sub]

theorem toNat_periodsSkipped_add_one {deadline epoch length : UInt64} (h : deadline < epoch) :
    (periodsSkipped deadline epoch length + 1).toNat =
      (epoch.toNat - deadline.toNat - 1) / length.toNat + 1 := by
  have := Nat.div_le_self (epoch.toNat - deadline.toNat - 1) length.toNat
  have := epoch.toNat_lt
  have := UInt64.lt_iff_toNat_lt.mp h
  rw [UInt64.toNat_add, toNat_periodsSkipped h, UInt64.toNat_one]
  exact Nat.mod_eq_of_lt (by omega)

end WarmStorage

import WarmStorage.Proofs.Proving.Alignment

/-!
Deadlines up to the last epoch of 64 bits. An accepted advance opens a deadline that lies whole
periods after the activation and was not cut off, and none is opened when no such deadline is left.
Reopening is the exception: its deadline comes from the schedule, where what lies past the last
epoch is cut off to it, and so the last epoch is opened as a deadline when none of the schedule is
left.
-/

namespace WarmStorage

structure Advance.Opens (a : Advance) (params : ProvingParams) (epoch challenge : Epoch) :
    Prop where
  whole : ∃ k, 1 ≤ k ∧
    a.nextDeadline.toNat = a.activation.toNat + k * params.periodLength.toNat
  after : a.kind ≠ .advanced → epoch < a.nextDeadline
  reached : epoch ≤ a.nextDeadline
  window_le : a.nextDeadline.toNat ≤ challenge.toNat + params.windowSize.toNat
  challenge_le : challenge ≤ a.nextDeadline
  scheduled : challenge ≠ noChallenge

namespace ProvingState

variable {params : ProvingParams} {s : ProvingState} {epoch challenge : Epoch} {a : Advance}

/-- The states after accepted proofs and advances, at epochs in any order. -/
inductive Arises (params : ProvingParams) : ProvingState → Prop where
  | fresh : Arises params { params := params }
  | step {s : ProvingState} {step : Step} (h : Arises params s) (accepted : s.Accepts step) :
      Arises params (step.apply s)

theorem Arises.params_eq (h : Arises params s) : s.params = params := by
  induction h with
  | fresh => rfl
  | step _ _ ih => rw [Step.params_apply, ih]

theorem Arises.aligned (h : Arises params s) (hlen : 0 < params.periodLength) : s.Aligned := by
  induction h with
  | fresh => exact aligned_fresh hlen
  | step _ accepted ih => exact ih.apply accepted

structure MayOpen (s : ProvingState) (epoch : Epoch) (d : Nat) : Prop where
  whole : ∃ k, 1 ≤ k ∧ d = (if s.activation = 0 then epoch else s.activation).toNat +
    k * s.params.periodLength.toNat
  reached : epoch.toNat < d ∨ s.deadline ≠ 0 ∧ epoch.toNat = d

def OutOfDeadlines (s : ProvingState) (epoch : Epoch) : Prop :=
  ∀ d, s.MayOpen epoch d → 18446744073709551616 ≤ d

/-- Proving is to be reopened where no deadline is left. -/
structure CutOff (s : ProvingState) (epoch : Epoch) : Prop where
  active : s.activation ≠ 0
  shut : s.deadline = 0
  outOfDeadlines : s.OutOfDeadlines epoch

theorem scheduled_of_window {next : Epoch} (valid : s.params.Valid)
    (hle : s.params.periodLength.toNat ≤ next.toNat)
    (hwindow : (s.schedule.window next).contains challenge = true) : challenge ≠ noChallenge := by
  have hsize := UInt64.lt_iff_toNat_lt.mp valid.2
  have hstart := (Schedule.window_contains_iff.mp hwindow).1
  rintro rfl
  rw [noChallenge, UInt64.toNat_zero] at hstart
  dsimp only [schedule] at hstart
  omega

theorem opens_of_window (valid : s.params.Valid)
    (whole : ∃ k, 1 ≤ k ∧ a.nextDeadline.toNat = a.activation.toNat +
      k * s.params.periodLength.toNat)
    (after : a.kind ≠ .advanced → epoch < a.nextDeadline) (reached : epoch ≤ a.nextDeadline)
    (hwindow : (s.schedule.window a.nextDeadline).contains challenge = true) :
    a.Opens s.params epoch challenge := by
  have hrange := Schedule.window_contains_iff.mp hwindow
  dsimp only [schedule] at hrange
  refine ⟨whole, after, reached, ?_, ?_, ?_⟩
  · omega
  · rw [UInt64.le_iff_toNat_le]
    exact hrange.2
  · apply scheduled_of_window valid _ hwindow
    obtain ⟨k, hk, hnext⟩ := whole
    have := Nat.le_mul_of_pos_left s.params.periodLength.toNat hk
    omega

theorem Aligned.next_or_cutOff (h : s.Aligned) (active : s.activation ≠ 0) (shut : s.deadline = 0)
    (epoch : Epoch) :
    (∃ p, s.schedule.EndsAt p (s.schedule.nextDeadlineAfter epoch) ∧
      epoch < s.schedule.nextDeadlineAfter epoch) ∨
    s.schedule.nextDeadlineAfter epoch = Word.largest ∧ s.CutOff epoch := by
  have hactive : s.schedule.isActive = true := bne_iff_ne.mpr active
  apply Or.imp_right _
    (Schedule.endsAt_or_cutOff_nextDeadlineAfter hactive h.toNat_length_pos h.activation_fits epoch)
  rintro ⟨hlargest, hcut⟩
  refine ⟨hlargest, active, shut, ?_⟩
  rintro d ⟨⟨k, -, hd⟩, hreached⟩
  rw [if_neg active] at hd
  rw [hd]
  apply hcut k
  cases hreached with
  | inl hlt => exact Nat.lt_of_lt_of_eq hlt hd
  | inr hopen => exact absurd shut hopen.1

theorem Advances.opens_or_cutOff (h : s.Advances epoch challenge a) (aligned : s.Aligned)
    (valid : s.params.Valid) (opening : a.kind ≠ .closed) :
    a.Opens s.params epoch challenge ∨ s.CutOff epoch := by
  cases h with
  | @activated next inactive epoch_ne next_eq window =>
    left
    have hlt : epoch < next := by
      have := aligned.toNat_length_pos
      rw [UInt64.lt_iff_toNat_lt]
      omega
    apply opens_of_window valid
    · refine ⟨1, Nat.le_refl 1, ?_⟩
      rw [Nat.one_mul]
      exact next_eq
    · exact fun _ => hlt
    · exact UInt64.le_of_lt hlt
    · exact window
  | reopened active shut window =>
    cases aligned.next_or_cutOff active shut epoch with
    | inl hends =>
      left
      obtain ⟨p, hends, hlt⟩ := hends
      apply opens_of_window valid
      · exact ⟨p.toNat + 1, Nat.succ_pos _, hends⟩
      · exact fun _ => hlt
      · exact UInt64.le_of_lt hlt
      · exact window
    | inr hcut => exact .inr hcut.2
  | closed => contradiction
  | @advanced next active unshut late scheduled next_eq window =>
    left
    have hnext := aligned.endsAt_next unshut late next_eq
    have hreached : epoch ≤ next := by
      rw [← hnext.deadline_eq]
      exact Schedule.le_deadline_periodContaining (aligned.covers_of_late unshut late)
    apply opens_of_window valid
    · exact ⟨_, Nat.succ_pos _, hnext⟩
    · exact fun hkind => absurd rfl hkind
    · exact hreached
    · exact window

theorem Advances.mayOpen (h : s.Advances epoch challenge a) (opening : a.kind ≠ .closed)
    (opens : a.Opens s.params epoch challenge) : s.MayOpen epoch a.nextDeadline.toNat := by
  have hwhole := opens.whole
  have hafter := opens.after
  cases h with
  | activated inactive =>
    refine ⟨?_, .inl (UInt64.lt_iff_toNat_lt.mp (hafter nofun))⟩
    rw [if_pos inactive]
    exact hwhole
  | reopened active =>
    refine ⟨?_, .inl (UInt64.lt_iff_toNat_lt.mp (hafter nofun))⟩
    rw [if_neg active]
    exact hwhole
  | closed => contradiction
  | advanced active unshut =>
    constructor
    · rw [if_neg active]
      exact hwhole
    · cases Nat.lt_or_eq_of_le (UInt64.le_iff_toNat_le.mp opens.reached) with
      | inl hlt => exact .inl hlt
      | inr heq => exact .inr ⟨unshut, heq⟩

theorem OutOfDeadlines.not_opens (h : s.OutOfDeadlines epoch)
    (hadvance : s.Advances epoch challenge a) (opening : a.kind ≠ .closed) :
    ¬ a.Opens s.params epoch challenge := by
  intro opens
  have := h _ (hadvance.mayOpen opening opens)
  have := a.nextDeadline.toNat_lt
  omega

theorem CutOff.advances_iff (h : s.CutOff epoch) (aligned : s.Aligned) :
    s.Advances epoch challenge a ↔
      Word.largest.toNat ≤ challenge.toNat + s.params.windowSize.toNat ∧
        a = ⟨.reopened, s.activation, noDeadline, Word.largest, 0⟩ := by
  -- a deadline that is left could be opened, so the next one is the largest number
  have hnext : s.schedule.nextDeadlineAfter epoch = Word.largest := by
    cases aligned.next_or_cutOff h.active h.shut epoch with
    | inl hends =>
      obtain ⟨p, hends, hlt⟩ := hends
      have hopen : s.MayOpen epoch (s.schedule.nextDeadlineAfter epoch).toNat := by
        refine ⟨⟨p.toNat + 1, Nat.succ_pos _, ?_⟩, .inl (UInt64.lt_iff_toNat_lt.mp hlt)⟩
        rw [if_neg h.active]
        exact hends
      have := h.outOfDeadlines _ hopen
      have := (s.schedule.nextDeadlineAfter epoch).toNat_lt
      omega
    | inr hcut => exact hcut.1
  have hwindow : (s.schedule.window Word.largest).contains challenge = true ↔
      Word.largest.toNat ≤ challenge.toNat + s.params.windowSize.toNat := by
    have := challenge.toNat_lt
    rw [Schedule.window_contains_iff, Word.toNat_largest]
    dsimp only [schedule]
    omega
  rw [← hwindow]
  constructor
  · intro hadvance
    cases hadvance with
    | activated inactive => exact absurd inactive h.active
    | reopened _ _ window =>
      rw [hnext] at window ⊢
      exact ⟨window, rfl⟩
    | closed _ unshut => exact absurd h.shut unshut
    | advanced _ unshut => exact absurd h.shut unshut
  · rintro ⟨window, rfl⟩
    rw [← hnext] at window ⊢
    exact .reopened h.active h.shut window

/-- What an accepted advance opens, and that nothing is opened where no deadline is left. -/
theorem Arises.opens_or_refused (h : Arises params s) (valid : params.Valid)
    (epoch challenge : Epoch) :
    (∀ a, s.checkAdvance epoch challenge = .ok a → a.kind ≠ .closed →
      (a.Opens params epoch challenge ↔ ¬ s.CutOff epoch)) ∧
    (s.OutOfDeadlines epoch → ¬ s.CutOff epoch →
      (∃ error, s.checkAdvance epoch challenge = .error error) ∨
        ∃ a, s.checkAdvance epoch challenge = .ok a ∧ a.kind = .closed) ∧
    (s.CutOff epoch → ∀ a, s.checkAdvance epoch challenge = .ok a ↔
      Word.largest.toNat ≤ challenge.toNat + params.windowSize.toNat ∧
        a = ⟨.reopened, s.activation, noDeadline, Word.largest, 0⟩) := by
  have aligned := h.aligned (UInt64.lt_of_le_of_lt UInt64.zero_le valid.2)
  obtain rfl := h.params_eq
  refine ⟨?_, ?_, ?_⟩
  · intro a hcheck opening
    have hadvance := checkAdvance_eq_ok_iff.mp hcheck
    constructor
    · intro opens hcut
      exact hcut.outOfDeadlines.not_opens hadvance opening opens
    · intro hcut
      exact (hadvance.opens_or_cutOff aligned valid opening).resolve_right hcut
  · intro hout hcut
    cases hcheck : s.checkAdvance epoch challenge with
    | error error => exact .inl ⟨error, rfl⟩
    | ok a =>
      right
      have hadvance := checkAdvance_eq_ok_iff.mp hcheck
      refine ⟨a, rfl, ?_⟩
      by_contra opening
      apply hout.not_opens hadvance opening
      exact (hadvance.opens_or_cutOff aligned valid opening).resolve_right hcut
  · intro hcut a
    rw [checkAdvance_eq_ok_iff]
    exact hcut.advances_iff aligned

/-- Proving with periods of a day, activated at epoch 1000 and closed after the first period. -/
def shutState : ProvingState :=
  { params := ⟨2880, 60⟩, activation := 1000 }

theorem arises_shutState : Arises ⟨2880, 60⟩ shutState := by
  have activated : Arises ⟨2880, 60⟩ _ := .step .fresh (@Accepts.advance _ 1000 3850 _ rfl)
  exact .step activated (@Accepts.advance _ 3881 0 _ rfl)

/-- The deadline that is opened at the last epoch is not one of the schedule. -/
theorem reopened_off_schedule :
    Arises ⟨2880, 60⟩ shutState ∧
    shutState.checkAdvance Word.largest Word.largest =
      .ok ⟨.reopened, 1000, noDeadline, Word.largest, 0⟩ ∧
    ¬ (∃ k, 1 ≤ k ∧ Word.largest.toNat = 1000 + k * 2880) ∧ ¬ Word.largest < Word.largest := by
  refine ⟨arises_shutState, rfl, ?_, by decide⟩
  rintro ⟨k, -, hk⟩
  rw [Word.toNat_largest] at hk
  omega

theorem opens_or_refused_of_shutState :
    Arises ⟨2880, 60⟩ shutState ∧ (ProvingParams.mk 2880 60).Valid ∧
    shutState.checkAdvance 14000 15400 = .ok ⟨.reopened, 1000, noDeadline, 15400, 0⟩ ∧
    (Advance.mk .reopened 1000 noDeadline 15400 0).Opens ⟨2880, 60⟩ 14000 15400 ∧
    shutState.CutOff Word.largest ∧
    shutState.checkAdvance Word.largest Word.largest =
      .ok ⟨.reopened, 1000, noDeadline, Word.largest, 0⟩ := by
  have valid : (ProvingParams.mk 2880 60).Valid := by decide
  have hopened : ¬ shutState.CutOff 14000 := by
    intro hcut
    have hopen : shutState.MayOpen 14000 15400 := ⟨⟨5, by decide, rfl⟩, .inl (by decide)⟩
    have := hcut.outOfDeadlines _ hopen
    omega
  have hcut : shutState.CutOff Word.largest := by
    refine ⟨by decide, rfl, ?_⟩
    rintro d ⟨-, hlt | hopen⟩
    · exact hlt
    · exact absurd rfl hopen.1
  refine ⟨arises_shutState, valid, rfl, ?_, hcut, ?_⟩
  · exact ((arises_shutState.opens_or_refused valid 14000 15400).1 _ rfl (by decide)).mpr hopened
  · apply ((arises_shutState.opens_or_refused valid Word.largest Word.largest).2.2 hcut _).mpr
    decide

end ProvingState

end WarmStorage

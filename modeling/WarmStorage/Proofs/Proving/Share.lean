import WarmStorage.Proofs.Arbitration

/-!
The share of a proposed amount that is paid, rounded down, and when it is refused. A request for a
range that can be settled is refused only when the product of the amount and the paid epochs is no
amount. More proven periods pay no less and settle no less, a range that is paid throughout is paid
in full, and one without paid epochs not at all.
-/

namespace WarmStorage

variable {p q : ProvingState} {proposed amount : TokenAmount} {after upTo current e : Epoch}
  {o o' : SettlementOutcome} {count total : UInt64} {err : ServiceError}

theorem provenShare_eq_error_iff (hne : total ≠ 0) :
    provenShare proposed count total = .error err ↔
      UInt256.size ≤ proposed.toNat * count.toNat ∧ err = .overflow "modified amount" := by
  rw [← UInt256.toNat_ofWord count, ← UInt256.fit?_eq_none_iff]
  unfold provenShare UInt256.exactMul?
  cases UInt256.fit? (proposed.toNat * (UInt256.ofWord count).toNat) with
  | none => simp [eq_comm]
  | some product => simp [hne]

namespace ProvingState

abbrev paidCount (p : ProvingState) (after upTo : Epoch) : Nat :=
  (p.paidEpochs after.toNat upTo.toNat).card

theorem paidCount_of_inactive (inactive : p.activation = 0) : p.paidCount after upTo = 0 := by
  rw [paidCount, paidEpochs_eq_empty, Finset.card_empty]
  intro e _ _ hpays
  exact hpays.1 inactive

theorem toNat_amount_of_arbitrate (hlen : 0 < p.params.periodLength) (hlt : after < upTo)
    (h : p.arbitrate proposed after upTo current = .ok o) :
    o.amount.toNat = proposed.toNat * p.paidCount after upTo / (upTo.toNat - after.toNat) := by
  obtain ⟨inactive, hamount, -⟩ | ⟨-, -, hamount, -⟩ := settleable_of_arbitrate hlen hlt h
  · rw [hamount, paidCount_of_inactive inactive]
    simp
  · exact hamount

theorem arbitrate_eq_error_iff (hlen : 0 < p.params.periodLength) (hlt : after < upTo) :
    p.arbitrate proposed after upTo current = .error err ↔ p.activation ≠ 0 ∧
      (upTo < p.activation ∧ err = .settlement (.beforeActivation upTo p.activation) ∨
        p.activation ≤ upTo ∧ current < upTo ∧ err = .settlement (.inFuture upTo current) ∨
        p.activation ≤ upTo ∧ upTo ≤ current ∧
          UInt256.size ≤ proposed.toNat * p.paidCount after upTo ∧
          err = .overflow "modified amount") := by
  unfold arbitrate
  by_cases inactive : p.activation = 0
  · simp [isActive, inactive]
  rw [if_neg (by simp [isActive, inactive])]
  by_cases hbefore : upTo < p.activation
  · simp [provenEpochs, hbefore, inactive, UInt64.not_le.mpr hbefore, eq_comm]
  have hactivation := UInt64.not_lt.mp hbefore
  by_cases hfuture : current < upTo
  · simp [provenEpochs, hbefore, hfuture, inactive, hactivation, UInt64.not_le.mpr hfuture, eq_comm]
  have hle := UInt64.not_lt.mp hfuture
  have hsettleable : p.Settleable after upTo := ⟨inactive, hlen, hlt, hactivation⟩
  obtain ⟨r, hr, hcount, -⟩ := hsettleable.provenEpochs_eq hle
  have htotal : upTo - after ≠ 0 := by
    rw [ne_eq, ← UInt64.toNat_inj, UInt64.toNat_sub_of_le _ _ (UInt64.le_of_lt hlt)]
    have := UInt64.lt_iff_toNat_lt.mp hlt
    simp
    omega
  rw [hr]
  simp only [ne_eq, inactive, hbefore, hfuture, hactivation, hle, not_false_eq_true, false_and,
    false_or, true_and, paidCount, ← hcount]
  split
  · rename_i hzero
    simp [hzero]
  · rw [Ledger.bind_eq_error_iff, provenShare_eq_error_iff htotal]
    simp [pure, Except.pure]

structure ProvenMore (p q : ProvingState) : Prop where
  same : q = { p with proven := q.proven }
  proven : ∀ period, p.isPeriodProven period = true → q.isPeriodProven period = true

namespace ProvenMore

theorem refl : p.ProvenMore p :=
  ⟨rfl, fun _ h => h⟩

theorem activation_eq (h : p.ProvenMore q) : q.activation = p.activation := by
  rw [h.same]

theorem params_eq (h : p.ProvenMore q) : q.params = p.params := by
  rw [h.same]

theorem schedule_eq (h : p.ProvenMore q) : q.schedule = p.schedule := by
  rw [schedule, schedule, h.activation_eq, h.params_eq]

theorem pays (h : p.ProvenMore q) (he : p.Pays e) : q.Pays e := by
  obtain ⟨active, hle, hproven⟩ := he
  refine ⟨?_, ?_, ?_⟩
  · rw [h.activation_eq]
    exact active
  · rw [h.activation_eq]
    exact hle
  · rw [h.schedule_eq]
    exact h.proven _ hproven

theorem paidCount_le (h : p.ProvenMore q) : p.paidCount after upTo ≤ q.paidCount after upTo := by
  apply Finset.card_le_card
  exact Finset.monotone_filter_right _ fun e _ he => h.pays he

theorem settledUpTo_le (h : p.ProvenMore q) (hp : p.Settleable after upTo) :
    p.settledUpTo after upTo ≤ q.settledUpTo after upTo := by
  by_cases hproven : q.isPeriodProven (q.schedule.periodContaining upTo) = true
  · rw [settledUpTo.eq_def q, if_pos hproven]
    exact hp.settledUpTo_le
  · have hunproven : ¬ p.isPeriodProven (p.schedule.periodContaining upTo) = true := by
      intro hold
      rw [h.schedule_eq] at hproven
      exact hproven (h.proven _ hold)
    have hbase : q.base after = p.base after := by
      rw [base, base, h.activation_eq]
    unfold settledUpTo
    rw [if_neg hproven, if_neg hunproven, h.schedule_eq, hbase]
    exact UInt64.le_refl _

theorem arbitrate_le (h : p.ProvenMore q) (hlen : 0 < p.params.periodLength) (hlt : after < upTo)
    (ho : p.arbitrate proposed after upTo current = .ok o)
    (ho' : q.arbitrate proposed after upTo current = .ok o') :
    o.amount ≤ o'.amount ∧ o.settleUpTo ≤ o'.settleUpTo := by
  have hlen' : 0 < q.params.periodLength := by
    rw [h.params_eq]
    exact hlen
  constructor
  · rw [BitVec.le_def, toNat_amount_of_arbitrate hlen hlt ho,
      toNat_amount_of_arbitrate hlen' hlt ho']
    exact Nat.div_le_div_right (Nat.mul_le_mul_left _ h.paidCount_le)
  · obtain ⟨inactive, -, hsettled⟩ | ⟨hp, -, -, hsettled⟩ := settleable_of_arbitrate hlen hlt ho
    · obtain ⟨-, -, hsettled'⟩ | ⟨hq, -, -, -⟩ := settleable_of_arbitrate hlen' hlt ho'
      · rw [hsettled, hsettled']
        exact UInt64.le_refl _
      · exact absurd (h.activation_eq.trans inactive) hq.active
    · obtain ⟨inactive, -, -⟩ | ⟨-, -, -, hsettled'⟩ := settleable_of_arbitrate hlen' hlt ho'
      · exact absurd (h.activation_eq.symm.trans inactive) hp.active
      · rw [hsettled, hsettled']
        exact h.settledUpTo_le hp

end ProvenMore

structure PaysInFull (p : ProvingState) (proposed : TokenAmount) (after upTo : Epoch)
    (o : SettlementOutcome) : Prop where
  all : (∀ e, after < e → e ≤ upTo → p.Pays e) → o.amount = proposed ∧ o.settleUpTo = upTo
  none : (∀ e, after < e → e ≤ upTo → ¬ p.Pays e) → o.amount = 0

theorem paidCount_of_all (h : ∀ e, after < e → e ≤ upTo → p.Pays e) :
    p.paidCount after upTo = upTo.toNat - after.toNat := by
  rw [paidCount, paidEpochs, Finset.filter_true_of_mem, Nat.card_Ioc]
  intro n hn
  have hnat := toNat_ofNat_of_mem_Ioc hn
  rw [Finset.mem_Ioc] at hn
  apply h
  · rw [UInt64.lt_iff_toNat_lt, hnat]
    exact hn.1
  · rw [UInt64.le_iff_toNat_le, hnat]
    exact hn.2

theorem paysInFull_of_arbitrate (hlen : 0 < p.params.periodLength) (hlt : after < upTo)
    (h : p.arbitrate proposed after upTo current = .ok o) :
    p.PaysInFull proposed after upTo o := by
  have hamount := toNat_amount_of_arbitrate hlen hlt h
  constructor
  · intro hall
    have hpos : 0 < upTo.toNat - after.toNat := Nat.sub_pos_of_lt (UInt64.lt_iff_toNat_lt.mp hlt)
    rw [paidCount_of_all hall, Nat.mul_div_cancel _ hpos] at hamount
    refine ⟨BitVec.eq_of_toNat_eq hamount, ?_⟩
    -- the last epoch of the range is paid, so its period is proven
    have hlast := hall upTo hlt (UInt64.le_refl _)
    obtain ⟨inactive, -, -⟩ | ⟨-, -, -, hsettled⟩ := settleable_of_arbitrate hlen hlt h
    · exact absurd inactive hlast.1
    · rw [hsettled, settledUpTo, if_pos hlast.2.2]
  · intro hnone
    have hempty : p.paidCount after upTo = 0 := by
      rw [paidCount, paidEpochs_eq_empty, Finset.card_empty]
      intro e hlo hhi
      exact hnone e (UInt64.lt_iff_toNat_lt.mpr hlo) hhi
    rw [hempty, Nat.mul_zero, Nat.zero_div] at hamount
    exact BitVec.eq_of_toNat_eq hamount

end ProvingState

end WarmStorage

import WarmStorage.Arbitration
import WarmStorage.Proofs.Ledger.Operations
import WarmStorage.Proofs.Proving.Settlement

/-!
What arbitration answers when the ledger proposes a constant amount for each epoch: that amount
for every paid epoch, since the proven share of what is proposed is a whole number of epochs and
nothing is rounded.
-/

namespace WarmStorage

variable {p : ProvingState} {s : ServiceState} {rail : RailId} {proposed amount : TokenAmount}
  {after upTo current : Epoch} {o : SettlementOutcome} {rate : Nat}

theorem toNat_provenShare {count total : UInt64}
    (h : provenShare proposed count total = .ok amount) :
    amount.toNat = proposed.toNat * count.toNat / total.toNat := by
  unfold provenShare at h
  split at h
  · contradiction
  rename_i product hproduct
  split at h
  · contradiction
  rw [UInt256.exactMul?, UInt256.fit?_eq_some_iff, UInt256.toNat_ofWord] at hproduct
  rw [Except.ok.injEq] at h
  rw [← h, BitVec.toNat_udiv, hproduct, UInt256.toNat_ofWord]

namespace ProvingState

structure Arbitrated (p : ProvingState) (rate : Nat) (after current : Epoch)
    (o : SettlementOutcome) : Prop where
  amount : o.amount.toNat = rate * (p.paidEpochs after.toNat o.settleUpTo.toNat).card
  le : after ≤ o.settleUpTo
  inactive : p.activation = 0 → o.settleUpTo = after
  settled : ∀ e, after < e → e ≤ o.settleUpTo → p.activation ≤ e → e ≤ current ∧
    (p.isPeriodProven (p.schedule.periodContaining e) = true ∨
      p.schedule.periodContaining e < p.schedule.periodContaining current)

theorem arbitrated_of_inactive (inactive : p.activation = 0) (hamount : o.amount = 0)
    (hsettled : o.settleUpTo = after) : p.Arbitrated rate after current o := by
  refine ⟨?_, ?_, fun _ => hsettled, ?_⟩
  · rw [hamount, paidEpochs_eq_empty, Finset.card_empty]
    · rfl
    · intro e _ _ hpays
      exact hpays.1 inactive
  · rw [hsettled]
    exact UInt64.le_refl _
  · intro e hlo hhi
    rw [hsettled] at hhi
    exact absurd hhi (UInt64.not_le.mpr hlo)

theorem Settleable.arbitrated (h : p.Settleable after upTo) (hle : upTo ≤ current)
    (hsettled : o.settleUpTo = p.settledUpTo after upTo)
    (hamount : o.amount.toNat = rate * (p.paidEpochs after.toNat upTo.toNat).card) :
    p.Arbitrated rate after current o := by
  refine ⟨?_, ?_, fun inactive => absurd inactive h.active, ?_⟩
  · rw [hsettled, h.card_paidEpochs_settledUpTo, hamount]
  · rw [hsettled, UInt64.le_iff_toNat_le]
    exact h.le_settledUpTo
  · intro e hlo hhi hactivation
    rw [hsettled] at hhi
    refine ⟨UInt64.le_trans (UInt64.le_trans hhi h.settledUpTo_le) hle, ?_⟩
    cases h.proven_or_over (UInt64.lt_iff_toNat_lt.mp hlo) hhi hactivation with
    | inl hproven => exact .inl hproven
    | inr hover =>
      exact .inr (UInt64.lt_of_lt_of_le hover (Schedule.periodContaining_mono h.covers_upTo hle))

theorem arbitrate_eq_ok (h : p.arbitrate proposed after upTo current = .ok o) :
    p.activation = 0 ∧ o.amount = 0 ∧ o.settleUpTo = after ∨
    p.activation ≠ 0 ∧ ∃ r, p.provenEpochs after upTo current = .ok r ∧
      o.settleUpTo = r.settleUpTo ∧
      (r.count = 0 ∧ o.amount = 0 ∨
        provenShare proposed r.count (upTo - after) = .ok o.amount) := by
  unfold arbitrate at h
  split at h
  · rename_i inactive
    cases h
    left
    simpa [isActive] using inactive
  rename_i active
  rw [Bool.not_eq_true, Bool.not_eq_false', isActive_iff] at active
  refine .inr ⟨active, ?_⟩
  split at h
  · contradiction
  rename_i r hr
  refine ⟨r, hr, ?_⟩
  split at h
  · rename_i hzero
    cases h
    exact ⟨rfl, .inl ⟨hzero, rfl⟩⟩
  · obtain ⟨amount, hamount, h⟩ := Ledger.bind_eq_ok_iff.mp h
    cases h
    exact ⟨rfl, .inr hamount⟩

theorem settleable_of_arbitrate (hlen : 0 < p.params.periodLength) (hlt : after < upTo)
    (h : p.arbitrate proposed after upTo current = .ok o) :
    p.activation = 0 ∧ o.amount = 0 ∧ o.settleUpTo = after ∨
    p.Settleable after upTo ∧ upTo ≤ current ∧
      o.amount.toNat =
        proposed.toNat * (p.paidEpochs after.toNat upTo.toNat).card /
          (upTo.toNat - after.toNat) ∧
      o.settleUpTo = p.settledUpTo after upTo := by
  obtain ⟨inactive, hamount, hsettled⟩ | ⟨active, r, hr, hsettled, hamount⟩ := arbitrate_eq_ok h
  · exact .inl ⟨inactive, hamount, hsettled⟩
  obtain ⟨hactivation, hle⟩ := range_of_provenEpochs hr
  have hsettleable : p.Settleable after upTo := ⟨active, hlen, hlt, hactivation⟩
  obtain ⟨r', hr', hcount, hsettled'⟩ := hsettleable.provenEpochs_eq hle
  obtain rfl : r' = r := Except.ok.inj (hr'.symm.trans hr)
  refine .inr ⟨hsettleable, hle, ?_, hsettled.trans hsettled'⟩
  rw [← hcount]
  obtain ⟨hzero, hamount⟩ | hamount := hamount
  · rw [hamount, hzero]
    simp
  · rw [toNat_provenShare hamount, UInt64.toNat_sub_of_le _ _ (UInt64.le_of_lt hlt)]

theorem arbitrated_of_arbitrate (hlen : 0 < p.params.periodLength) (hlt : after < upTo)
    (hproposed : proposed.toNat = rate * (upTo.toNat - after.toNat))
    (h : p.arbitrate proposed after upTo current = .ok o) : p.Arbitrated rate after current o := by
  obtain ⟨inactive, hamount, hsettled⟩ | ⟨hsettleable, hle, hamount, hsettled⟩ :=
    settleable_of_arbitrate hlen hlt h
  · exact arbitrated_of_inactive inactive hamount hsettled
  · apply hsettleable.arbitrated hle hsettled
    have hpos : 0 < upTo.toNat - after.toNat := Nat.sub_pos_of_lt (UInt64.lt_iff_toNat_lt.mp hlt)
    rw [hamount, hproposed, Nat.mul_right_comm]
    exact Nat.mul_div_cancel _ hpos

end ProvingState

namespace ServiceState

def storageProving? (s : ServiceState) (rail : RailId) : Option ProvingState := do
  let id ← s.dataSetOfRail? rail
  let d ← s.dataSet? id
  if rail = d.storageRail then s.proving? id else none

theorem storageProving?_eq_some_iff : s.storageProving? rail = some p ↔
    ∃ id d, s.dataSetOfRail? rail = some id ∧ s.dataSet? id = some d ∧ rail = d.storageRail ∧
      s.proving? id = some p := by
  simp [storageProving?, Option.bind_eq_some_iff]

theorem arbitrate_of_storageProving? (hp : s.storageProving? rail = some p)
    (h : s.arbitrate rail proposed after upTo current = .ok o) :
    after < upTo ∧ p.arbitrate proposed after upTo current = .ok o := by
  obtain ⟨id, d, hid, hd, hrail, hproving⟩ := storageProving?_eq_some_iff.mp hp
  unfold arbitrate at h
  rw [hid] at h
  dsimp only at h
  split at h
  · contradiction
  rename_i hlt
  rw [hd] at h
  dsimp only at h
  rw [if_neg (not_not.mpr hrail), hproving] at h
  exact ⟨UInt64.not_le.mp hlt, h⟩

end ServiceState

end WarmStorage

import WarmStorage.Config

/-!
What storage costs. The rate of stored bytes is the larger of two quotients, each rounded down for
itself: the price of the bytes over the epochs of a month, and the floor. There is a rate whenever
the product of bytes and price is a word, and more bytes have no lower rate. Where the prices pass
their check, the floor is of no effect from a whole tebibyte on.
-/

namespace WarmStorage.Pricing

variable {p : Pricing} {a b bytes period : UInt64} {rate lockup : TokenAmount} {e : PricingError}

theorem validate_eq_ok_iff : p.validate = .ok () ↔ p.minimumPrice ≤ p.storagePrice := by
  unfold validate
  split
  · rename_i h
    simp only [reduceCtorEq, false_iff]
    exact BitVec.not_le.mpr h
  · rename_i h
    simp only [true_iff]
    exact BitVec.not_lt.mp h

theorem toNat_minimumRate : p.minimumRate.toNat = p.minimumPrice.toNat / 86400 := by
  rw [minimumRate, BitVec.toNat_udiv, UInt256.toNat_ofWord]
  rfl

def naturalRate (p : Pricing) (bytes : UInt64) : Nat :=
  bytes.toNat * p.storagePrice.toNat / (1099511627776 * 86400)

theorem storageRate_eq_error_iff : p.storageRate bytes = .error e ↔
    e = .storageRateOverflow ∧ UInt256.size ≤ bytes.toNat * p.storagePrice.toNat := by
  rw [← UInt256.toNat_ofWord, ← UInt256.fit?_eq_none_iff, ← UInt256.exactMul?, storageRate]
  cases UInt256.exactMul? (.ofWord bytes) p.storagePrice with
  | none => simp [eq_comm]
  | some product => simp

theorem storageRate_eq_ok_iff : p.storageRate bytes = .ok rate ↔
    bytes.toNat * p.storagePrice.toNat < UInt256.size ∧
      rate.toNat = max (p.naturalRate bytes) p.minimumRate.toNat := by
  have hmonth : (UInt256.ofWord bytesPerTib * UInt256.ofWord epochsPerMonth).toNat =
      1099511627776 * 86400 := rfl
  rw [storageRate]
  cases hproduct : UInt256.exactMul? (.ofWord bytes) p.storagePrice with
  | none =>
    rw [UInt256.exactMul?, UInt256.fit?_eq_none_iff, UInt256.toNat_ofWord] at hproduct
    simp only [reduceCtorEq, false_iff, not_and]
    intro hfits
    exact absurd hfits (Nat.not_lt.mpr hproduct)
  | some product =>
    rw [UInt256.exactMul?, UInt256.fit?_eq_some_iff, UInt256.toNat_ofWord] at hproduct
    have hfits := product.isLt
    have hnatural : (product / (.ofWord bytesPerTib * .ofWord epochsPerMonth)).toNat =
        p.naturalRate bytes := by
      rw [BitVec.toNat_udiv, hmonth, hproduct, naturalRate]
    rw [hproduct] at hfits
    simp only [Except.ok.injEq, hfits, true_and, ← BitVec.toNat_inj, BitVec.lt_def, ← hnatural]
    split
    · omega
    · omega

theorem storageRate_zero (p : Pricing) : p.storageRate 0 = .ok p.minimumRate := by
  rw [storageRate_eq_ok_iff, naturalRate, UInt64.toNat_zero, Nat.zero_mul, Nat.zero_div,
    Nat.zero_max]
  exact ⟨by decide, rfl⟩

theorem minimumLockup_eq_ok_iff : p.minimumLockup period = .ok lockup ↔
    lockup.toNat = p.minimumRate.toNat * period.toNat := by
  unfold minimumLockup
  rw [storageRate_zero, ← UInt256.toNat_ofWord, ← UInt256.fit?_eq_some_iff, ← UInt256.exactMul?]
  dsimp only [bind, Except.bind]
  split
  · rename_i hnone
    simp [hnone]
  · rename_i product hproduct
    simp [hproduct]

theorem naturalRate_mono (h : a ≤ b) : p.naturalRate a ≤ p.naturalRate b := by
  apply Nat.div_le_div_right
  exact Nat.mul_le_mul_right _ (UInt64.le_iff_toNat_le.mp h)

theorem storageRate_mono (h : a ≤ b) (hrate : p.storageRate b = .ok rate) :
    ∃ lower, p.storageRate a = .ok lower ∧ lower ≤ rate := by
  obtain ⟨hfits, hmax⟩ := storageRate_eq_ok_iff.mp hrate
  have hproduct := Nat.mul_le_mul_right p.storagePrice.toNat (UInt64.le_iff_toNat_le.mp h)
  cases hlower : p.storageRate a with
  | error e =>
    have hoverflow := (storageRate_eq_error_iff.mp hlower).2
    omega
  | ok lower =>
    have hmaxLower := (storageRate_eq_ok_iff.mp hlower).2
    have hnatural := p.naturalRate_mono h
    refine ⟨lower, rfl, ?_⟩
    rw [BitVec.le_def]
    omega

theorem naturalRate_mul_le : p.naturalRate bytes * 86400 * 1099511627776 ≤
    bytes.toNat * p.storagePrice.toNat := by
  rw [Nat.mul_assoc, Nat.mul_comm 86400]
  exact Nat.div_mul_le_self _ _

theorem minimumRate_mul_le : p.minimumRate.toNat * 86400 * 1099511627776 ≤
    p.minimumPrice.toNat * 1099511627776 := by
  rw [toNat_minimumRate]
  exact Nat.mul_le_mul_right _ (Nat.div_mul_le_self _ _)

theorem storageRate_mul_le (h : p.storageRate bytes = .ok rate) :
    rate.toNat * 86400 * 1099511627776 ≤
      max (bytes.toNat * p.storagePrice.toNat) (p.minimumPrice.toNat * 1099511627776) := by
  rw [(storageRate_eq_ok_iff.mp h).2]
  obtain hle | hle := Nat.le_total (p.naturalRate bytes) p.minimumRate.toNat
  · rw [Nat.max_eq_right hle]
    exact Nat.le_trans minimumRate_mul_le (Nat.le_max_right _ _)
  · rw [Nat.max_eq_left hle]
    exact Nat.le_trans naturalRate_mul_le (Nat.le_max_left _ _)

theorem minimumRate_le_naturalRate (hprice : p.minimumPrice ≤ p.storagePrice)
    (hbytes : bytesPerTib ≤ bytes) : p.minimumRate.toNat ≤ p.naturalRate bytes := by
  have hbytes : 1099511627776 ≤ bytes.toNat := UInt64.le_iff_toNat_le.mp hbytes
  calc p.minimumRate.toNat
      = p.minimumPrice.toNat / 86400 := toNat_minimumRate
    _ ≤ p.storagePrice.toNat / 86400 := Nat.div_le_div_right (BitVec.le_def.mp hprice)
    _ = 1099511627776 * p.storagePrice.toNat / (1099511627776 * 86400) :=
      (Nat.mul_div_mul_left _ _ (by decide)).symm
    _ ≤ p.naturalRate bytes := Nat.div_le_div_right (Nat.mul_le_mul_right _ hbytes)

/--
The rate is refused exactly when the product of bytes and price is no word, and is the rounded
price of the bytes or the floor otherwise. It does not fall as the bytes grow, over a month it asks
for no more than the price of the bytes or the floor, and for prices that pass their check it is
the rounded price alone from a tebibyte on.
-/
theorem storageRate_never_overcharges (p : Pricing) {a b : UInt64} (hle : a ≤ b) :
    (∀ e, p.storageRate b = .error e ↔
      e = .storageRateOverflow ∧ UInt256.size ≤ b.toNat * p.storagePrice.toNat) ∧
    ∀ rate, p.storageRate b = .ok rate →
      rate.toNat = max (b.toNat * p.storagePrice.toNat / (1099511627776 * 86400))
        (p.minimumPrice.toNat / 86400) ∧
      (∃ lower, p.storageRate a = .ok lower ∧ lower ≤ rate) ∧
      rate.toNat * 86400 * 1099511627776 ≤
        max (b.toNat * p.storagePrice.toNat) (p.minimumPrice.toNat * 1099511627776) ∧
      (p.validate = .ok () → bytesPerTib ≤ b →
        rate.toNat = b.toNat * p.storagePrice.toNat / (1099511627776 * 86400)) := by
  constructor
  · intro e
    exact storageRate_eq_error_iff
  · intro rate hrate
    have hmax := (storageRate_eq_ok_iff.mp hrate).2
    refine ⟨?_, storageRate_mono hle hrate, storageRate_mul_le hrate, ?_⟩
    · rw [hmax, naturalRate, toNat_minimumRate]
    · intro valid hbytes
      have hfloor := minimumRate_le_naturalRate (validate_eq_ok_iff.mp valid) hbytes
      rw [hmax, Nat.max_eq_left hfloor, naturalRate]

/-- A floor at the price itself, a byte below a tebibyte and at one. -/
theorem storageRate_never_overcharges_at_tebibyte :
    let p : Pricing := { storagePrice := 86400, minimumPrice := 86400 }
    (1099511627775 : UInt64) ≤ bytesPerTib ∧ p.storageRate bytesPerTib = .ok 1 ∧
      p.validate = .ok () ∧ (1 : TokenAmount).toNat =
        max (bytesPerTib.toNat * 86400 / (1099511627776 * 86400)) (86400 / 86400) ∧
      (∃ lower, p.storageRate 1099511627775 = .ok lower ∧ lower ≤ 1) ∧
      (1 : TokenAmount).toNat = bytesPerTib.toNat * 86400 / (1099511627776 * 86400) := by
  intro p
  have hle : (1099511627775 : UInt64) ≤ bytesPerTib := by decide
  have hrate : p.storageRate bytesPerTib = .ok 1 :=
    storageRate_eq_ok_iff.mpr ⟨by decide, by decide⟩
  have hvalid : p.validate = .ok () := validate_eq_ok_iff.mpr (by decide)
  obtain ⟨hfloor, hlower, -, hexact⟩ := (storageRate_never_overcharges p hle).2 1 hrate
  exact ⟨hle, hrate, hvalid, hfloor, hlower, hexact hvalid (UInt64.le_refl _)⟩

end WarmStorage.Pricing

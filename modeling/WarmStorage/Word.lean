/-!
Unsigned words of 64 and 256 bits, with the two kinds of arithmetic that do not wrap: *exact*
arithmetic, which refuses a result outside the range, and *clamped* arithmetic, which replaces it
by the nearest end of the range. Both are ordinary arithmetic on natural numbers followed by a
conversion, so the lemmas of this module carry every statement about them over to `Nat`.
-/

namespace WarmStorage

abbrev UInt256 := BitVec 256

namespace Word

def largest : UInt64 := 18446744073709551615

def fit? (n : Nat) : Option UInt64 :=
  if n < UInt64.size then some (UInt64.ofNat n) else none

def clamp (n : Nat) : UInt64 :=
  if n < UInt64.size then UInt64.ofNat n else largest

def exactAdd? (a b : UInt64) : Option UInt64 :=
  fit? (a.toNat + b.toNat)

def exactSub? (a b : UInt64) : Option UInt64 :=
  if b ≤ a then some (a - b) else none

def exactMul? (a b : UInt64) : Option UInt64 :=
  fit? (a.toNat * b.toNat)

def clampAdd (a b : UInt64) : UInt64 :=
  clamp (a.toNat + b.toNat)

def clampMul (a b : UInt64) : UInt64 :=
  clamp (a.toNat * b.toNat)

/-- The difference, or zero when `b` exceeds `a`. -/
def clampSub (a b : UInt64) : UInt64 :=
  clamp (a.toNat - b.toNat)

@[simp]
theorem toNat_largest : largest.toNat = 0xffffffffffffffff := rfl

theorem fit?_eq_some_iff {n : Nat} {w : UInt64} : fit? n = some w ↔ w.toNat = n := by
  unfold fit?
  split
  · rename_i h
    rw [Option.some.injEq]
    constructor
    · rintro rfl
      exact UInt64.toNat_ofNat_of_lt' h
    · rintro rfl
      exact UInt64.ofNat_toNat
  · rename_i h
    simp only [reduceCtorEq, false_iff]
    rintro rfl
    exact h w.toNat_lt

theorem exactSub?_eq {a b : UInt64} (h : b ≤ a) : exactSub? a b = some (a - b) :=
  if_pos h

theorem exactAdd?_eq {a b : UInt64} (h : a.toNat + b.toNat < 18446744073709551616) :
    exactAdd? a b = some (a + b) := by
  rw [exactAdd?, fit?_eq_some_iff, UInt64.toNat_add]
  exact Nat.mod_eq_of_lt h

theorem exactAdd?_one_eq {a b : UInt64} (h : a < b) : exactAdd? a 1 = some (a + 1) := by
  have hlt := UInt64.lt_iff_toNat_lt.mp h
  have := b.toNat_lt
  apply exactAdd?_eq
  rw [UInt64.toNat_one]
  omega

theorem exactAdd?_eq_none {a b : UInt64} (h : 18446744073709551616 ≤ a.toNat + b.toNat) :
    exactAdd? a b = none :=
  if_neg (Nat.not_lt.mpr h)

@[simp]
theorem toNat_clamp (n : Nat) : (clamp n).toNat = min n 0xffffffffffffffff := by
  simp only [clamp, UInt64.size]
  split
  · rename_i h
    rw [UInt64.toNat_ofNat_of_lt' h]
    omega
  · rw [toNat_largest]
    omega

@[simp]
theorem toNat_clampAdd (a b : UInt64) :
    (clampAdd a b).toNat = min (a.toNat + b.toNat) 0xffffffffffffffff :=
  toNat_clamp _

@[simp]
theorem toNat_clampMul (a b : UInt64) :
    (clampMul a b).toNat = min (a.toNat * b.toNat) 0xffffffffffffffff :=
  toNat_clamp _

@[simp]
theorem toNat_clampSub (a b : UInt64) : (clampSub a b).toNat = a.toNat - b.toNat := by
  have := a.toNat_lt
  rw [clampSub, toNat_clamp]
  omega

end Word

namespace UInt256

abbrev size : Nat := 0x10000000000000000000000000000000000000000000000000000000000000000

def largest : UInt256 := BitVec.allOnes 256

def fit? (n : Nat) : Option UInt256 :=
  if n < size then some (BitVec.ofNat 256 n) else none

def clamp (n : Nat) : UInt256 :=
  if n < size then BitVec.ofNat 256 n else largest

def ofWord (w : UInt64) : UInt256 :=
  BitVec.ofNat 256 w.toNat

def exactAdd? (a b : UInt256) : Option UInt256 :=
  fit? (a.toNat + b.toNat)

def exactMul? (a b : UInt256) : Option UInt256 :=
  fit? (a.toNat * b.toNat)

def clampAdd (a b : UInt256) : UInt256 :=
  clamp (a.toNat + b.toNat)

def clampMul (a b : UInt256) : UInt256 :=
  clamp (a.toNat * b.toNat)

def clampSub (a b : UInt256) : UInt256 :=
  clamp (a.toNat - b.toNat)

@[simp]
theorem toNat_largest :
    largest.toNat = 0xffffffffffffffffffffffffffffffffffffffffffffffffffffffffffffffff :=
  rfl

theorem fit?_eq_some_iff {n : Nat} {a : UInt256} : fit? n = some a ↔ a.toNat = n := by
  unfold fit?
  split
  · rename_i h
    rw [Option.some.injEq]
    constructor
    · rintro rfl
      rw [BitVec.toNat_ofNat, Nat.mod_eq_of_lt h]
    · rintro rfl
      simp
  · rename_i h
    simp only [reduceCtorEq, false_iff]
    rintro rfl
    exact h a.isLt

theorem fit?_eq_none_iff {n : Nat} : fit? n = none ↔ size ≤ n := by
  unfold fit?
  split
  · rename_i h
    simp [h]
  · rename_i h
    simp [Nat.not_lt.mp h]

@[simp]
theorem toNat_clamp (n : Nat) :
    (clamp n).toNat = min n 0xffffffffffffffffffffffffffffffffffffffffffffffffffffffffffffffff := by
  simp only [clamp, size]
  split
  · rename_i h
    rw [BitVec.toNat_ofNat, Nat.mod_eq_of_lt h]
    omega
  · rw [toNat_largest]
    omega

@[simp]
theorem toNat_ofWord (w : UInt64) : (ofWord w).toNat = w.toNat := by
  have := w.toNat_lt
  rw [ofWord, BitVec.toNat_ofNat]
  omega

@[simp]
theorem toNat_clampAdd (a b : UInt256) :
    (clampAdd a b).toNat = min (a.toNat + b.toNat)
      0xffffffffffffffffffffffffffffffffffffffffffffffffffffffffffffffff :=
  toNat_clamp _

@[simp]
theorem toNat_clampMul (a b : UInt256) :
    (clampMul a b).toNat = min (a.toNat * b.toNat)
      0xffffffffffffffffffffffffffffffffffffffffffffffffffffffffffffffff :=
  toNat_clamp _

@[simp]
theorem toNat_clampSub (a b : UInt256) : (clampSub a b).toNat = a.toNat - b.toNat := by
  have := a.isLt
  rw [clampSub, toNat_clamp]
  omega

@[simp]
theorem clampAdd_zero (a : UInt256) : clampAdd a 0 = a := by
  have := a.isLt
  apply BitVec.eq_of_toNat_eq
  simp only [toNat_clampAdd, BitVec.ofNat_eq_ofNat, BitVec.toNat_ofNat, Nat.zero_mod]
  omega

@[simp]
theorem clampSub_zero (a : UInt256) : clampSub a 0 = a := by
  apply BitVec.eq_of_toNat_eq
  rw [toNat_clampSub]
  simp

end UInt256

end WarmStorage

/-!
Numbers as bytes, most significant byte first. A number that fits in `count` bytes and those bytes
determine each other.
-/

namespace WarmStorage.Bytes

def capacity : Nat → Nat
  | 0 => 1
  | count + 1 => 256 * capacity count

def ofNat : Nat → Nat → List UInt8
  | 0, _ => []
  | count + 1, n => UInt8.ofNat (n / capacity count) :: ofNat count n

def toNatFrom (acc : Nat) : List UInt8 → Nat
  | [] => acc
  | b :: bs => toNatFrom (256 * acc + b.toNat) bs

def toNat (bs : List UInt8) : Nat :=
  toNatFrom 0 bs

def ofString (s : String) : List UInt8 :=
  s.toUTF8.toList

@[simp]
theorem length_ofNat (count n : Nat) : (ofNat count n).length = count := by
  induction count with
  | zero => rfl
  | succ count ih => simp [ofNat, ih]

theorem capacity_pos (count : Nat) : 0 < capacity count := by
  induction count with
  | zero => decide
  | succ count ih => exact Nat.mul_pos (by decide) ih

theorem toNatFrom_eq (acc : Nat) (bs : List UInt8) :
    toNatFrom acc bs = acc * capacity bs.length + toNat bs := by
  induction bs generalizing acc with
  | nil => simp [toNat, toNatFrom, capacity]
  | cons b bs ih =>
    have first : toNat (b :: bs) = b.toNat * capacity bs.length + toNat bs := by
      show toNatFrom (256 * 0 + b.toNat) bs = _
      rw [ih, Nat.mul_zero, Nat.zero_add]
    rw [toNatFrom, ih, first, List.length_cons, capacity, Nat.add_mul, Nat.mul_comm 256 acc,
      Nat.mul_assoc, Nat.add_assoc]

theorem toNat_cons (b : UInt8) (bs : List UInt8) :
    toNat (b :: bs) = b.toNat * capacity bs.length + toNat bs := by
  show toNatFrom (256 * 0 + b.toNat) bs = _
  rw [toNatFrom_eq, Nat.mul_zero, Nat.zero_add]

theorem toNat_lt (bs : List UInt8) : toNat bs < capacity bs.length := by
  induction bs with
  | nil => decide
  | cons b bs ih =>
    have hb : b.toNat < 256 := b.toNat_lt
    have : b.toNat * capacity bs.length + capacity bs.length ≤ 256 * capacity bs.length := by
      rw [← Nat.succ_mul]
      exact Nat.mul_le_mul_right _ hb
    rw [toNat_cons, List.length_cons, capacity]
    omega

theorem toNat_ofNat (count n : Nat) : toNat (ofNat count n) = n % capacity count := by
  induction count with
  | zero => simp [ofNat, toNat, toNatFrom, capacity, Nat.mod_one]
  | succ count ih =>
    rw [ofNat, toNat_cons, ih, length_ofNat, UInt8.toNat_ofNat', capacity, Nat.mul_comm 256,
      Nat.mod_mul, Nat.mul_comm (capacity count), Nat.add_comm]

theorem ofNat_toNat (bs : List UInt8) : ofNat bs.length (toNat bs) = bs := by
  suffices h : ∀ k, ofNat bs.length (k * capacity bs.length + toNat bs) = bs by simpa using h 0
  induction bs with
  | nil => simp [ofNat]
  | cons b bs ih =>
    intro k
    have lead : k * capacity (bs.length + 1) + (b.toNat * capacity bs.length + toNat bs)
        = (256 * k + b.toNat) * capacity bs.length + toNat bs := by
      rw [capacity, Nat.add_mul, ← Nat.mul_assoc, Nat.mul_comm k 256, Nat.add_assoc]
    rw [toNat_cons, List.length_cons, lead, ofNat, ih]
    congr 1
    apply UInt8.toNat_inj.1
    have := b.toNat_lt
    rw [Nat.mul_comm, Nat.mul_add_div (capacity_pos _), Nat.div_eq_of_lt (toNat_lt bs),
      UInt8.toNat_ofNat']
    omega

end WarmStorage.Bytes

/-!
The curve `y² = x³ + 7` over the integers modulo `prime`, whose points form a group of prime order
`order`. Points are kept in Jacobian coordinates, in which `(x, y, z)` stands for `(x / z², y / z³)`
and `z = 0` for the point at infinity, so that the group law needs no division.
-/

namespace WarmStorage.Secp256k1

def prime : Nat := 0xfffffffffffffffffffffffffffffffffffffffffffffffffffffffefffffc2f

def order : Nat := 0xfffffffffffffffffffffffffffffffebaaedce6af48a03bbfd25e8cd0364141

instance : @NeZero Nat Zero.ofOfNat0 prime := ⟨by decide⟩

instance : @NeZero Nat Zero.ofOfNat0 order := ⟨by decide⟩

abbrev Field := Fin prime

abbrev Scalar := Fin order

def bits (n : Nat) : List Bool :=
  (List.range 256).reverse.map n.testBit

def power {n : Nat} (one b : Fin n) (e : Nat) : Fin n :=
  (bits e).foldl (fun acc bit => if bit then acc * acc * b else acc * acc) one

def inverse {n : Nat} (one a : Fin n) : Fin n :=
  power one a (n - 2)

def Field.sqrt? (a : Field) : Option Field :=
  let r := power 1 a ((prime + 1) / 4)
  if r * r = a then some r else none

structure Point where
  x : Field
  y : Field
  z : Field

namespace Point

def infinity : Point := ⟨1, 1, 0⟩

def isInfinity (p : Point) : Bool :=
  p.z == 0

def ofAffine (x y : Field) : Point := ⟨x, y, 1⟩

def generator : Point :=
  ofAffine
    (Fin.ofNat prime 0x79be667ef9dcbbac55a06295ce870b07029bfcdb2dce28d959f2815b16f81798)
    (Fin.ofNat prime 0x483ada7726a3c4655da4fbfc0e1108a8fd17b448a68554199c47d08ffb10d4b8)

def affine? (p : Point) : Option (Field × Field) :=
  if p.isInfinity then none
  else
    let w := inverse 1 p.z
    let w₂ := w * w
    some (p.x * w₂, p.y * w₂ * w)

def lift? (x : Field) (odd : Bool) : Option Point := do
  let y ← Field.sqrt? (x * x * x + 7)
  let isOdd := y.val % 2 == 1
  return ofAffine x (if isOdd == odd then y else 0 - y)

def double (p : Point) : Point :=
  let a := p.x * p.x
  let b := p.y * p.y
  let c := b * b
  let d := 4 * p.x * b
  let e := 3 * a
  let x := e * e - 2 * d
  ⟨x, e * (d - x) - 8 * c, 2 * p.y * p.z⟩

def add (p q : Point) : Point :=
  if p.isInfinity then q
  else if q.isInfinity then p
  else
    let zz₁ := p.z * p.z
    let zz₂ := q.z * q.z
    let u₁ := p.x * zz₂
    let u₂ := q.x * zz₁
    let s₁ := p.y * zz₂ * q.z
    let s₂ := q.y * zz₁ * p.z
    let h := u₂ - u₁
    let r := s₂ - s₁
    if h = 0 then
      if r = 0 then double p else infinity
    else
      let hh := h * h
      let hhh := hh * h
      let v := u₁ * hh
      let x := r * r - hhh - 2 * v
      ⟨x, r * (v - x) - s₁ * hhh, p.z * q.z * h⟩

def mul (k : Scalar) (p : Point) : Point :=
  (bits k.val).foldl (fun acc bit => if bit then acc.double.add p else acc.double) infinity

end Point

end WarmStorage.Secp256k1

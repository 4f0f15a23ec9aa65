import Mathlib.Tactic.IntervalCases
import WarmStorage.Hash.Keccak

/-!
Keccak with the state held row by row. A lane of a vector is found by going past the lanes before
it; with the rows as fields a round is evaluated without looking lanes up, so that the hash of given
bytes takes few steps to evaluate.
-/

namespace WarmStorage.Hash.Keccak

namespace State

variable {f g : Nat → Nat → UInt64} {s : State}

theorem lane_tabulate (x y : Nat) : (tabulate f).lane x y = f (x % 5) (y % 5) := by
  have hcolumn : (x % 5 + 5 * (y % 5)) % 5 = x % 5 := by omega
  have hrow : (x % 5 + 5 * (y % 5)) / 5 = y % 5 := by omega
  calc (tabulate f).lane x y
    _ = f ((x % 5 + 5 * (y % 5)) % 5) ((x % 5 + 5 * (y % 5)) / 5) := Vector.getElem_ofFn _
    _ = f (x % 5) (y % 5) := by rw [hcolumn, hrow]

theorem tabulate_congr (h : ∀ x < 5, ∀ y < 5, f x y = g x y) : tabulate f = tabulate g := by
  refine Vector.ext fun i hi => ?_
  simp only [tabulate, Vector.getElem_ofFn]
  exact h (i % 5) (by omega) (i / 5) (by omega)

theorem tabulate_lane (s : State) : tabulate s.lane = s := by
  refine Vector.ext fun i hi => ?_
  have hindex : i % 5 % 5 + 5 * (i / 5 % 5) = i := by omega
  simp only [tabulate, lane, Vector.getElem_ofFn, hindex]
  rfl

end State

structure Row where
  a : UInt64
  b : UInt64
  c : UInt64
  d : UInt64
  e : UInt64

namespace Row

def lane (r : Row) : Nat → UInt64
  | 0 => r.a
  | 1 => r.b
  | 2 => r.c
  | 3 => r.d
  | _ => r.e

def add (r r' : Row) : Row :=
  ⟨r.a ^^^ r'.a, r.b ^^^ r'.b, r.c ^^^ r'.c, r.d ^^^ r'.d, r.e ^^^ r'.e⟩

def effect (r : Row) : Row where
  a := r.e ^^^ rotateLeft r.b 1
  b := r.a ^^^ rotateLeft r.c 1
  c := r.b ^^^ rotateLeft r.d 1
  d := r.c ^^^ rotateLeft r.e 1
  e := r.d ^^^ rotateLeft r.a 1

def chi (r : Row) : Row where
  a := r.a ^^^ (~~~r.b &&& r.c)
  b := r.b ^^^ (~~~r.c &&& r.d)
  c := r.c ^^^ (~~~r.d &&& r.e)
  d := r.d ^^^ (~~~r.e &&& r.a)
  e := r.e ^^^ (~~~r.a &&& r.b)

end Row

structure Rows where
  r₀ : Row
  r₁ : Row
  r₂ : Row
  r₃ : Row
  r₄ : Row

namespace Rows

variable {s : Rows} {constant : UInt64}

def row (s : Rows) : Nat → Row
  | 0 => s.r₀
  | 1 => s.r₁
  | 2 => s.r₂
  | 3 => s.r₃
  | _ => s.r₄

def toState (s : Rows) : State :=
  .tabulate fun x y => (s.row y).lane x

def ofState (s : State) : Rows :=
  let row (y : Nat) : Row := ⟨s.lane 0 y, s.lane 1 y, s.lane 2 y, s.lane 3 y, s.lane 4 y⟩
  ⟨row 0, row 1, row 2, row 3, row 4⟩

def map (f : Row → Row) (s : Rows) : Rows :=
  ⟨f s.r₀, f s.r₁, f s.r₂, f s.r₃, f s.r₄⟩

def theta (s : Rows) : Rows :=
  s.map fun r => r.add ((((s.r₀.add s.r₁).add s.r₂).add s.r₃).add s.r₄).effect

def rhoPi (s : Rows) : Rows where
  r₀ := ⟨rotateLeft s.r₀.a 0, rotateLeft s.r₁.b 44, rotateLeft s.r₂.c 43, rotateLeft s.r₃.d 21,
    rotateLeft s.r₄.e 14⟩
  r₁ := ⟨rotateLeft s.r₀.d 28, rotateLeft s.r₁.e 20, rotateLeft s.r₂.a 3, rotateLeft s.r₃.b 45,
    rotateLeft s.r₄.c 61⟩
  r₂ := ⟨rotateLeft s.r₀.b 1, rotateLeft s.r₁.c 6, rotateLeft s.r₂.d 25, rotateLeft s.r₃.e 8,
    rotateLeft s.r₄.a 18⟩
  r₃ := ⟨rotateLeft s.r₀.e 27, rotateLeft s.r₁.a 36, rotateLeft s.r₂.b 10, rotateLeft s.r₃.c 15,
    rotateLeft s.r₄.d 56⟩
  r₄ := ⟨rotateLeft s.r₀.c 62, rotateLeft s.r₁.d 55, rotateLeft s.r₂.e 39, rotateLeft s.r₃.a 41,
    rotateLeft s.r₄.b 2⟩

def chi (s : Rows) : Rows :=
  s.map Row.chi

def iota (constant : UInt64) (s : Rows) : Rows :=
  { s with r₀ := { s.r₀ with a := s.r₀.a ^^^ constant } }

def permute (s : Rows) : Rows :=
  roundConstants.foldl (fun s constant => iota constant s.theta.rhoPi.chi) s

theorem toState_ofState (s : State) : (ofState s).toState = s := by
  conv_rhs => rw [← State.tabulate_lane s]
  refine State.tabulate_congr fun x hx y hy => ?_
  interval_cases x <;> interval_cases y <;> rfl

theorem lane_toState (x y : Nat) : s.toState.lane x y = (s.row (y % 5)).lane (x % 5) :=
  State.lane_tabulate x y

theorem parity_toState (x : Nat) (hx : x < 5) : parity s.toState x =
    ((((s.r₀.add s.r₁).add s.r₂).add s.r₃).add s.r₄).lane x := by
  simp only [parity, lane_toState]
  interval_cases x <;> rfl

theorem toState_theta : s.theta.toState = Keccak.theta s.toState := by
  have get_ofFn (f : Fin 5 → UInt64) (i : Fin 5) : (Vector.ofFn f).get i = f i :=
    Vector.getElem_ofFn _
  unfold Keccak.theta
  refine State.tabulate_congr fun x hx y hy => ?_
  simp only [get_ofFn, lane_toState, parity_toState _ (Nat.mod_lt _ (by decide))]
  interval_cases x <;> interval_cases y <;> rfl

theorem toState_rhoPi : s.rhoPi.toState = Keccak.rhoPi s.toState := by
  refine State.tabulate_congr fun x hx y hy => ?_
  simp only [lane_toState]
  interval_cases x <;> interval_cases y <;> rfl

theorem toState_chi : s.chi.toState = Keccak.chi s.toState := by
  refine State.tabulate_congr fun x hx y hy => ?_
  simp only [lane_toState]
  interval_cases x <;> interval_cases y <;> rfl

theorem toState_iota : (s.iota constant).toState = Keccak.iota constant s.toState := by
  refine Vector.ext fun i hi => ?_
  unfold Keccak.iota
  by_cases hfirst : i = 0
  · subst hfirst
    have hlane : s.toState.get 0 = s.r₀.a := lane_toState 0 0
    rw [Vector.getElem_set_self, hlane]
    exact lane_toState 0 0
  rw [Vector.getElem_set_ne _ _ (Ne.symm hfirst)]
  simp only [toState, State.tabulate, Vector.getElem_ofFn]
  interval_cases i <;> first | contradiction | rfl

theorem toState_permute : s.permute.toState = Keccak.permute s.toState := by
  unfold permute Keccak.permute
  generalize roundConstants = constants
  induction constants generalizing s with
  | nil => rfl
  | cons constant constants ih =>
    rw [List.foldl_cons, List.foldl_cons, ih, toState_iota, toState_chi, toState_rhoPi,
      toState_theta]

end Rows

def absorbByRows : Nat → State → List UInt8 → State
  | 0, s, _ => s
  | count + 1, s, bytes =>
    absorbByRows count (Rows.ofState (addBlock s (bytes.take rate))).permute.toState
      (bytes.drop rate)

theorem absorb_eq_absorbByRows (count : Nat) (s : State) (bytes : List UInt8) :
    absorb count s bytes = absorbByRows count s bytes := by
  induction count generalizing s bytes with
  | zero => rfl
  | succ count ih =>
    rw [absorb, absorbByRows, Rows.toState_permute, Rows.toState_ofState, ih]

def hashBytesByRows (message : List UInt8) : List UInt8 :=
  let padded := pad message
  squeeze (absorbByRows (padded.length / rate) .zero padded)

theorem hashBytes_eq_hashBytesByRows (message : List UInt8) :
    hashBytes message = hashBytesByRows message := by
  rw [hashBytes, hashBytesByRows, absorb_eq_absorbByRows]

end WarmStorage.Hash.Keccak

import WarmStorage.Identifier

/-!
The geometry of proving periods. A data set proves on a fixed schedule anchored at its activation
epoch `a`: with periods of `m` epochs, period `p` covers the epochs `(a + p * m, a + (p + 1) * m]`
and its last epoch is its deadline. Proofs are accepted in the challenge window, the trailing
epochs of a period. Results past the last epoch of 64 bits are clamped to it.
-/

namespace WarmStorage

/-- The epochs in which a proof for a deadline is accepted, both ends included. -/
structure ChallengeWindow where
  first : Epoch
  last : Epoch
deriving DecidableEq, Repr

namespace ChallengeWindow

def endingAt (deadline : Epoch) (size : UInt64) : ChallengeWindow :=
  ⟨Word.clampSub deadline size, deadline⟩

def contains (w : ChallengeWindow) (epoch : Epoch) : Bool :=
  w.first ≤ epoch && epoch ≤ w.last

def text (w : ChallengeWindow) : String :=
  s!"[{w.first}, {w.last}]"

theorem contains_iff {w : ChallengeWindow} {epoch : Epoch} :
    w.contains epoch = true ↔ w.first ≤ epoch ∧ epoch ≤ w.last := by
  simp [contains]

end ChallengeWindow

structure ProvingParams where
  periodLength : UInt64
  windowSize : UInt64
deriving DecidableEq, Repr

/-- Epochs in a day; an epoch lasts 30 seconds. -/
def epochsPerDay : UInt64 := 2880

def epochsPerMonth : UInt64 := 86400

namespace ProvingParams

/-- A window has at least one epoch before the deadline, and leaves one outside it. -/
def Valid (params : ProvingParams) : Prop :=
  0 < params.windowSize ∧ params.windowSize < params.periodLength

instance (params : ProvingParams) : Decidable params.Valid :=
  inferInstanceAs (Decidable (_ ∧ _))

end ProvingParams

/-- The answer for an epoch that lies in no period. -/
def noPeriod : UInt64 := Word.largest

/-- Periods anchored at an activation epoch, which is zero while proving was never activated. -/
structure Schedule where
  activation : Epoch
  params : ProvingParams
deriving DecidableEq, Repr

namespace Schedule

def isActive (s : Schedule) : Bool :=
  s.activation != 0

def covers (s : Schedule) (epoch : Epoch) : Bool :=
  s.isActive && s.activation ≤ epoch && s.params.periodLength != 0

/-- Whole periods between the activation and `epoch`; a deadline counts toward the next period. -/
def periodIndex (s : Schedule) (epoch : Epoch) : UInt64 :=
  if s.covers epoch then (epoch - s.activation) / s.params.periodLength else noPeriod

def deadline (s : Schedule) (period : UInt64) : Epoch :=
  Word.clampAdd s.activation
    (Word.clampMul (Word.clampAdd period 1) s.params.periodLength)

def start (s : Schedule) (period : UInt64) : Epoch :=
  Word.clampSub (s.deadline period) s.params.periodLength

def periodOfDeadline (s : Schedule) (deadline : Epoch) : UInt64 :=
  if s.covers deadline && s.activation < deadline then
    (deadline - s.activation - 1) / s.params.periodLength
  else
    noPeriod

/-- The period that has `epoch` in its range; the activation epoch counts toward period 0. -/
def periodContaining (s : Schedule) (epoch : Epoch) : UInt64 :=
  if s.covers epoch then
    Word.clampSub (epoch - s.activation) 1 / s.params.periodLength
  else
    noPeriod

def windowStart (s : Schedule) (deadline : Epoch) : Epoch :=
  Word.clampSub deadline s.params.windowSize

def window (s : Schedule) (deadline : Epoch) : ChallengeWindow :=
  ChallengeWindow.endingAt deadline s.params.windowSize

def nextDeadlineAfter (s : Schedule) (epoch : Epoch) : Epoch :=
  if epoch < s.activation then s.deadline 0 else s.deadline (s.periodIndex epoch)

end Schedule

/-- Whole periods that passed after `deadline` before the one that contains `epoch`. -/
def periodsSkipped (deadline epoch : Epoch) (periodLength : UInt64) : UInt64 :=
  if epoch ≤ deadline || periodLength == 0 then 0 else (epoch - (deadline + 1)) / periodLength

end WarmStorage

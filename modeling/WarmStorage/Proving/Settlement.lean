import WarmStorage.Proving.State

/-!
How many epochs of a range are paid. An epoch is paid when its period is proven; the range is cut
into the rest of its first period, whole periods, and a beginning of its last one. Settlement
moves up to the end of the range when the last period is proven, and only to the last deadline
before it otherwise, so that the rest can still be paid once it is proven. Sums and differences on
the way are expected to be words.
-/

namespace WarmStorage

inductive SettlementError where
  | beforeActivation (upTo activation : Epoch)
  | inFuture (upTo current : Epoch)
  | provenEpochsOverflow
  -- not a refusal: the program breaks down at a result that is no word
  | breakdown (operation : String)
deriving DecidableEq, Repr

def SettlementError.message : SettlementError → String
  | beforeActivation upTo activation =>
    s!"Settlement end {upTo} before activation epoch {activation}"
  | inFuture upTo current => s!"Settlement end {upTo} after current epoch {current}"
  | provenEpochsOverflow => "Arithmetic overflow computing proven epochs"
  | breakdown operation => s!"attempt to {operation} with overflow"

namespace Word

def orBreakdown (operation : String) : Option UInt64 → Except SettlementError UInt64
  | some w => .ok w
  | none => .error (.breakdown operation)

def sum (a b : UInt64) : Except SettlementError UInt64 :=
  orBreakdown "add" (exactAdd? a b)

def difference (a b : UInt64) : Except SettlementError UInt64 :=
  orBreakdown "subtract" (exactSub? a b)

theorem sum_eq {a b : UInt64} (h : a.toNat + b.toNat < 18446744073709551616) :
    sum a b = .ok (a + b) := by
  rw [sum, exactAdd?_eq h, orBreakdown]

theorem sum_one_eq {a b : UInt64} (h : a < b) : sum a 1 = .ok (a + 1) := by
  rw [sum, exactAdd?_one_eq h, orBreakdown]

theorem difference_eq {a b : UInt64} (h : b ≤ a) : difference a b = .ok (a - b) := by
  rw [difference, exactSub?_eq h, orBreakdown]

end Word

structure ProvenEpochs where
  count : UInt64
  settleUpTo : Epoch
deriving DecidableEq, Repr

namespace ProvingState

def provenInPeriod (s : ProvingState) (period after upTo : UInt64) :
    Except SettlementError ProvenEpochs :=
  if s.isPeriodProven period then do
    let count ← Word.difference upTo after
    return ⟨count, upTo⟩
  else return ⟨0, after⟩

def provenRest (s : ProvingState) (period after : UInt64) : Except SettlementError UInt64 :=
  if s.isPeriodProven period then Word.difference (s.schedule.deadline period) after
  else return 0

def provenAcross (s : ProvingState) (first last after upTo : UInt64) :
    Except SettlementError ProvenEpochs := do
  let start ← s.provenRest first after
  let next ← Word.sum first 1
  let whole := s.proven.countIn next last
  match (Word.exactMul? whole s.params.periodLength).bind (Word.exactAdd? · start) with
  | none => throw .provenEpochsOverflow
  | some count =>
    let previous ← Word.difference last 1
    let settled := s.schedule.deadline previous
    if s.isPeriodProven last then
      let rest ← Word.difference upTo settled
      let count ← Word.sum count rest
      return ⟨count, upTo⟩
    else return ⟨count, settled⟩

def provenEpochs (s : ProvingState) (after upTo current : Epoch) :
    Except SettlementError ProvenEpochs :=
  if upTo < s.activation then .error (.beforeActivation upTo s.activation)
  else if current < upTo then .error (.inFuture upTo current)
  else do
    let after := max after (Word.clampSub s.activation 1)
    let next ← Word.sum after 1
    let first := s.schedule.periodContaining next
    if upTo ≤ s.schedule.deadline first then s.provenInPeriod first after upTo
    else s.provenAcross first (s.schedule.periodContaining upTo) after upTo

end ProvingState

end WarmStorage

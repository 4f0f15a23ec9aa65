import WarmStorage.Proving.Periods
import WarmStorage.Schedule

/-!
The proving state of a data set. Proving is activated by the first advance; after that either a
period is open, which a proof in its challenge window marks as proven, or none is. A proof or an
advance is first checked, and applied when it was accepted.
-/

namespace WarmStorage

def challengesPerProof : UInt64 := 5

/-- The challenge epoch that says nothing is left to prove. -/
def noChallenge : Epoch := 0

/-- The deadline while no period is open. -/
def noDeadline : Epoch := 0

inductive ProvingError where
  | alreadyProven
  | tooFewChallenges (count : UInt64)
  | notStarted
  /-- Epoch zero stands for "never activated". -/
  | activationAtGenesis
  | periodPassed (deadline epoch : Epoch)
  | windowNotStarted (window : ChallengeWindow) (epoch : Epoch)
  | alreadyAdvanced (deadline epoch : Epoch)
  | challengeOutsideWindow (challenge : Epoch) (window : ChallengeWindow)
  | firstDeadlineOverflow
  | nextDeadlineOverflow
deriving DecidableEq, Repr

def ProvingError.message (id : DataSetId) : ProvingError → String
  | alreadyProven => s!"Proof already submitted for the current period of data set {id}"
  | tooFewChallenges count =>
    s!"Invalid challenge count {count}, at least {challengesPerProof} required"
  | notStarted => s!"Proving not started for data set {id}"
  | activationAtGenesis => s!"Cannot activate proving for data set {id} at epoch 0"
  | periodPassed deadline epoch =>
    s!"Proving period passed for data set {id}: deadline {deadline}, epoch {epoch}"
  | windowNotStarted window epoch =>
    s!"Challenge window not started for data set {id}: window {window.text}, epoch {epoch}"
  | alreadyAdvanced deadline epoch =>
    s!"Next proving period already called for data set {id}: deadline {deadline}, epoch {epoch}"
  | challengeOutsideWindow challenge window =>
    s!"Invalid challenge epoch {challenge} for data set {id}, window {window.text}"
  | firstDeadlineOverflow => "Arithmetic overflow computing first deadline"
  | nextDeadlineOverflow => "Arithmetic overflow computing next deadline"

inductive AdvanceKind where
  | activated
  | reopened
  | advanced
  | closed
deriving DecidableEq, Repr

structure Advance where
  kind : AdvanceKind
  activation : Epoch
  previousDeadline : Epoch
  nextDeadline : Epoch
  faultedPeriods : UInt64
deriving DecidableEq, Repr

structure ProvingState where
  params : ProvingParams
  activation : Epoch := 0
  deadline : Epoch := noDeadline
  provenThisPeriod : Bool := false
  proven : ProvenPeriods := .empty

namespace ProvingState

def schedule (s : ProvingState) : Schedule :=
  ⟨s.activation, s.params⟩

def isActive (s : ProvingState) : Bool :=
  s.activation != 0

def isOpen (s : ProvingState) : Bool :=
  s.deadline != noDeadline

def currentWindow? (s : ProvingState) : Option ChallengeWindow :=
  if s.isOpen then some (s.schedule.window s.deadline) else none

def isPeriodProven (s : ProvingState) (period : UInt64) : Bool :=
  s.proven.contains period

def checkProof (s : ProvingState) (epoch : Epoch) (count : UInt64) : Except ProvingError UInt64 :=
  let window := s.schedule.window s.deadline
  if s.provenThisPeriod then .error .alreadyProven
  else if count < challengesPerProof then .error (.tooFewChallenges count)
  else if !s.isOpen then .error .notStarted
  else if s.deadline < epoch then .error (.periodPassed s.deadline epoch)
  else if epoch < window.first then .error (.windowNotStarted window epoch)
  else .ok (s.schedule.periodOfDeadline s.deadline)

def recordProof (s : ProvingState) (period : UInt64) : ProvingState :=
  { s with provenThisPeriod := true, proven := s.proven.insert period }

def checkChallenge (s : ProvingState) (deadline challenge : Epoch) : Except ProvingError Unit :=
  let window := s.schedule.window deadline
  if window.contains challenge then .ok ()
  else .error (.challengeOutsideWindow challenge window)

def checkActivation (s : ProvingState) (epoch challenge : Epoch) : Except ProvingError Advance := do
  if epoch = 0 then
    throw .activationAtGenesis
  match Word.exactAdd? epoch s.params.periodLength with
  | none => throw .firstDeadlineOverflow
  | some next =>
    s.checkChallenge next challenge
    return ⟨.activated, epoch, noDeadline, next, 0⟩

def checkReopening (s : ProvingState) (epoch challenge : Epoch) : Except ProvingError Advance := do
  let next := s.schedule.nextDeadlineAfter epoch
  s.checkChallenge next challenge
  return ⟨.reopened, s.activation, noDeadline, next, 0⟩

def checkNext (s : ProvingState) (epoch challenge : Epoch) : Except ProvingError Advance := do
  if epoch ≤ s.deadline then
    throw (.alreadyAdvanced s.deadline epoch)
  let skipped := periodsSkipped s.deadline epoch s.params.periodLength
  let faulted := skipped + (if s.provenThisPeriod then 0 else 1)
  if challenge = noChallenge then
    return ⟨.closed, s.activation, s.deadline, noDeadline, faulted⟩
  match (Word.exactMul? s.params.periodLength (skipped + 1)).bind (Word.exactAdd? s.deadline) with
  | none => throw .nextDeadlineOverflow
  | some next =>
    s.checkChallenge next challenge
    return ⟨.advanced, s.activation, s.deadline, next, faulted⟩

def checkAdvance (s : ProvingState) (epoch challenge : Epoch) : Except ProvingError Advance :=
  if !s.isActive then s.checkActivation epoch challenge
  else if !s.isOpen then s.checkReopening epoch challenge
  else s.checkNext epoch challenge

def applyAdvance (s : ProvingState) (a : Advance) : ProvingState :=
  { s with activation := a.activation, deadline := a.nextDeadline, provenThisPeriod := false }

end ProvingState

end WarmStorage

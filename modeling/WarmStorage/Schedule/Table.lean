import WarmStorage.Schedule

/-!
The table of a schedule: one row for each period, from the activation on.
-/

namespace WarmStorage

def Text.alignRight (width : Nat) (s : String) : String :=
  String.ofList (List.replicate (width - s.length) ' ') ++ s

structure PeriodRow where
  period : UInt64
  firstEpoch : Epoch
  deadline : Epoch
  window : ChallengeWindow
deriving DecidableEq, Repr

namespace PeriodRow

/--
How many rows there can be at a time: a row takes 40 bytes of memory, and there are at most `2 ^ 47`
bytes.
-/
def limit : UInt64 := 3518437208883

def line (period first deadline window : String) : String :=
  Text.alignRight 8 period ++ " " ++ Text.alignRight 12 first ++ " " ++
    Text.alignRight 12 deadline ++ "  " ++ window ++ "\n"

def heading : String :=
  line "period" "first" "deadline" "window"

def text (r : PeriodRow) : String :=
  line (toString r.period) (toString r.firstEpoch) (toString r.deadline) r.window.text

end PeriodRow

namespace Schedule

def row (s : Schedule) (period : UInt64) : PeriodRow :=
  { period := period
    firstEpoch := s.start period + 1
    deadline := s.deadline period
    window := s.window (s.deadline period) }

def rows (s : Schedule) (count : UInt64) : List PeriodRow :=
  (List.range count.toNat).map fun period => s.row (UInt64.ofNat period)

@[simp]
theorem length_rows (s : Schedule) (count : UInt64) : (s.rows count).length = count.toNat := by
  simp [rows]

def table (s : Schedule) (count : UInt64) : String :=
  (s.rows count).foldl (fun text r => text ++ r.text) PeriodRow.heading

end Schedule

end WarmStorage

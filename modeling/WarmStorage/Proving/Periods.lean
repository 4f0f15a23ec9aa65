import Std.Data.ExtTreeMap
import WarmStorage.Word

/-!
Sets of proven periods, packed: period `64 * i + j` is in the set when bit `j` of word `i` is set.
Words without a set bit need not be stored.
-/

namespace WarmStorage

namespace Word

def hasBit (w i : UInt64) : Bool :=
  w &&& (1 <<< i) != 0

def setBits (w : UInt64) : List UInt64 :=
  ((List.range 64).map UInt64.ofNat).filter (hasBit w)

def bitCount (w : UInt64) : UInt64 :=
  UInt64.ofNat (setBits w).length

end Word

structure ProvenPeriods where
  words : Std.ExtTreeMap UInt64 UInt64 := ∅

namespace ProvenPeriods

def empty : ProvenPeriods := {}

def word (s : ProvenPeriods) (i : UInt64) : UInt64 :=
  s.words.getD i 0

def insert (s : ProvenPeriods) (period : UInt64) : ProvenPeriods :=
  ⟨s.words.insert (period / 64) (s.word (period / 64) ||| (1 <<< (period % 64)))⟩

def contains (s : ProvenPeriods) (period : UInt64) : Bool :=
  Word.hasBit (s.word (period / 64)) (period % 64)

def size (s : ProvenPeriods) : UInt64 :=
  s.words.foldl (fun sum _ w => sum + Word.bitCount w) 0

def isEmpty (s : ProvenPeriods) : Bool :=
  s.words.isEmpty

def maskWithin (first last i : UInt64) : UInt64 :=
  let low := if i = first / 64 then Word.largest <<< (first % 64) else Word.largest
  let high := if i = last / 64 then Word.largest >>> (63 - last % 64) else Word.largest
  low &&& high

def countIn (s : ProvenPeriods) (start stop : UInt64) : UInt64 :=
  if stop ≤ start then 0
  else
    let last := stop - 1
    s.words.foldl (fun sum i w =>
      if start / 64 ≤ i && i ≤ last / 64 then sum + Word.bitCount (w &&& maskWithin start last i)
      else sum) 0

def toList (s : ProvenPeriods) : List UInt64 :=
  s.words.toList.flatMap fun (i, w) => (Word.setBits w).map (i * 64 + ·)

end ProvenPeriods

end WarmStorage

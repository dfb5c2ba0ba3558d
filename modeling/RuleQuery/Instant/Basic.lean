import RuleQuery.Instant.Calendar

/-!
Points in time with nanoseconds. A leap second is kept as the 59th second of its minute with
nanoseconds from 10^9 up, so that it orders after that second and before the next.
-/
namespace RuleQuery

/-- Seconds since 1970-01-01T00:00:00 UTC and nanoseconds within the second. -/
structure Instant where
  seconds : Int
  nanos : Nat
  nanos_lt : nanos < 2000000000
  leap : 1000000000 ≤ nanos → seconds % 60 = 59
deriving DecidableEq

namespace Instant

def epoch : Instant := ⟨0, 0, by decide, by decide⟩

def compare (a b : Instant) : Ordering :=
  (Ord.compare a.seconds b.seconds).then (Ord.compare a.nanos b.nanos)

structure Parts where
  date : Date
  hour : Nat
  minute : Nat
  second : Nat
  nanos : Nat
  offset : Int

/-- The instant of local parts. The 60th second is a leap second in any minute. Offsets of a day
or more, and dates that leave the calendar, are refused. -/
def ofParts? (p : Parts) : Option Instant :=
  if p.date.isValid && p.hour ≤ 23 && p.minute ≤ 59 && p.second ≤ 60 && p.offset.natAbs < 86400 then
    let second := if p.second = 60 then 59 else p.second
    let nanos := if p.second = 60 then p.nanos + 1000000000 else p.nanos
    let seconds : Int :=
      p.date.toDays * 86400 + ((p.hour * 3600 + p.minute * 60 + second : Nat) : Int) - p.offset
    if h : nanos < 2000000000 ∧ (1000000000 ≤ nanos → seconds % 60 = 59) then
      if Date.yearInRange (Date.ofDays (seconds / 86400)).year then
        some ⟨seconds, nanos, h.1, h.2⟩
      else none
    else none
  else none

def padded (width n : Nat) : String :=
  let digits := (toString n).toList
  String.ofList (List.replicate (width - digits.length) '0' ++ digits)

def yearText (year : Int) : String :=
  if 0 ≤ year ∧ year ≤ 9999 then padded 4 year.toNat
  else (if year < 0 then "-" else "+") ++ padded 4 year.natAbs

def fractionText (nanos : Nat) : String :=
  if nanos = 0 then ""
  else if nanos % 1000000 = 0 then "." ++ padded 3 (nanos / 1000000)
  else if nanos % 1000 = 0 then "." ++ padded 6 (nanos / 1000)
  else "." ++ padded 9 nanos

def write (zone : String) (t : Instant) : String :=
  let date := Date.ofDays (t.seconds / 86400)
  let second := (t.seconds % 86400).toNat
  let leap := 1000000000 ≤ t.nanos
  yearText date.year ++ "-" ++ padded 2 date.month ++ "-" ++ padded 2 date.day ++ "T" ++
    padded 2 (second / 3600) ++ ":" ++ padded 2 (second / 60 % 60) ++ ":" ++
    padded 2 (second % 60 + if leap then 1 else 0) ++
    fractionText (if leap then t.nanos - 1000000000 else t.nanos) ++ zone

def toText (t : Instant) : String := t.write "+00:00"

def toDocumentText (t : Instant) : String := t.write "Z"

end Instant

end RuleQuery

/-!
Days of the calendar and times of day. A time with a zone is an instant, the same in every zone.
-/
namespace TagRules

structure Day where
  year : Nat
  month : Nat
  day : Nat
  deriving DecidableEq, Repr, Inhabited

/-- A time of day, and the minutes its zone is ahead of universal time. -/
structure TimeOfDay where
  hour : Nat
  minute : Nat
  second : Nat
  microsecond : Nat
  offset : Option Int
  deriving DecidableEq, Repr, Inhabited

namespace Day

def isLeapYear (year : Nat) : Bool := year % 4 == 0 && (year % 100 != 0 || year % 400 == 0)

def daysInMonth (year month : Nat) : Nat :=
  if month = 2 then (if isLeapYear year then 29 else 28)
  else if month ∈ [4, 6, 9, 11] then 30
  else 31

/-- The days from the start of the calendar, this one included. -/
def number (d : Day) : Nat :=
  let years := d.year - 1
  let months := (List.range (d.month - 1)).foldl (fun n m => n + daysInMonth d.year (m + 1)) 0
  years * 365 + years / 4 - years / 100 + years / 400 + months + d.day

end Day
namespace TimeOfDay

/-- The microseconds from the start of the calendar by the clock. -/
def clock (d : Day) (t : TimeOfDay) : Int :=
  (((d.number * 24 + t.hour) * 60 + t.minute) * 60 + t.second) * 1000000 + t.microsecond

/-- The microseconds from the start of the calendar in universal time, if the zone is known. -/
def instant? (d : Day) (t : TimeOfDay) : Option Int := t.offset.map fun minutes => clock d t - minutes * 60000000

end TimeOfDay
end TagRules

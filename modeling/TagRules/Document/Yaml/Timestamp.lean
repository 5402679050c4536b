import TagRules.Document.Yaml.Cursor
import TagRules.Document.Yaml.ImpliedType
import TagRules.Value.Basic

/-!
Days of the calendar and moments of time from their texts.
-/
namespace TagRules.Yaml

def dayOf (year month day : Nat) : Except Error Day :=
  if year = 0 then .error (.value "year 0 is out of range")
  else if month = 0 ∨ month > 12 then .error (.value "month must be in 1..12")
  else if day = 0 ∨ day > Day.daysInMonth year month then .error (.value "day is out of range for month")
  else .ok ⟨year, month, day⟩

def leadingNumber (cs : List Char) : Nat × List Char :=
  let digits := cs.takeWhile Char.isDigit
  ((ofDigits? 10 digits).getD 0, cs.drop digits.length)

/-- The minutes that a time zone is ahead; nothing if there is no zone. -/
def zoneOf (cs : List Char) : Except Error (Option Int) :=
  match cs.dropWhile Shape.isSpace with
  | [] => .ok none
  | sign :: rest =>
    let (hours, rest) := leadingNumber rest
    let minutes := hours * 60 + (leadingNumber (rest.drop 1)).1
    if sign = 'Z' then .ok (some 0)
    else if minutes < 24 * 60 then .ok (some (if sign = '-' then -(minutes : Int) else minutes))
    else
      let shown : Int := if sign = '-' then -(minutes : Int) else minutes
      let days := shown.fdiv (24 * 60)
      let seconds := shown.fmod (24 * 60) * 60
      let size := s!"days={days}" ++ if seconds = 0 then "" else s!", seconds={seconds}"
      .error (.value <| "offset must be a timedelta strictly between -timedelta(hours=24) and "
        ++ "timedelta(hours=24), not datetime.timedelta(" ++ size ++ ").")

/-- The microseconds that digits behind a point stand for. -/
def microseconds (digits : List Char) : Nat :=
  let kept := digits.take 6
  ((ofDigits? 10 kept).getD 0) * Nat.pow 10 (6 - kept.length)

/-- A day, or a moment with a time of day and perhaps a zone. -/
def timestampOf (text : String) : Except Error Value := do
  let cs := withoutLastBreak text.toList
  let dateOnly := Shape.all [.fourDigits, .char '-', .oneOrTwoDigits, .char '-', .oneOrTwoDigits]
  if !(isTimestamp cs || dateOnly.fits cs) then throw .noTimestamp
  let (year, cs) := leadingNumber cs
  let (month, cs) := leadingNumber (cs.drop 1)
  let (day, cs) := leadingNumber (cs.drop 1)
  if cs.isEmpty then return .day (← dayOf year month day)
  let (hour, cs) := leadingNumber (cs.dropWhile (!·.isDigit))
  let (minute, cs) := leadingNumber (cs.drop 1)
  let (second, cs) := leadingNumber (cs.drop 1)
  let fraction := if cs.head? = some '.' then (cs.drop 1).takeWhile Char.isDigit else []
  let offset ← zoneOf (if cs.head? = some '.' then (cs.drop 1).dropWhile Char.isDigit else cs)
  let d ← dayOf year month day
  if hour > 23 then throw (.value "hour must be in 0..23")
  if minute > 59 then throw (.value "minute must be in 0..59")
  if second > 59 then throw (.value "second must be in 0..59")
  return .moment d ⟨hour, minute, second, microseconds fraction, offset⟩

end TagRules.Yaml

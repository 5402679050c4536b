import TagRules.Number.Integer
import TagRules.Number.Shortest
import TagRules.Text.Lines
import TagRules.Text.Quoted
import TagRules.Value.Basic

/-!
Texts of values: `display` shows a value as messages quote it, `shown` leaves a plain text unquoted.
-/
namespace TagRules

/-- A number with leading zeros up to a width. -/
def padded (width n : Nat) : String :=
  let s := toString n
  .ofList (List.replicate (width - s.length) '0') ++ s

namespace Day

def text (d : Day) : String := joined "-" [padded 4 d.year, padded 2 d.month, padded 2 d.day]

def display (d : Day) : String := s!"datetime.date({d.year}, {d.month}, {d.day})"

end Day
namespace TimeOfDay

def offsetText (minutes : Int) : String :=
  let m := minutes.natAbs
  (if minutes < 0 then "-" else "+") ++ padded 2 (m / 60) ++ ":" ++ padded 2 (m % 60)

def text (t : TimeOfDay) : String :=
  joined ":" [padded 2 t.hour, padded 2 t.minute, padded 2 t.second]
    ++ (if t.microsecond = 0 then "" else "." ++ padded 6 t.microsecond)
    ++ (t.offset.map offsetText).getD ""

/-- A zone as whole days and the seconds that follow them. -/
def zoneDisplay (minutes : Int) : String :=
  if minutes = 0 then "datetime.timezone.utc" else
  let seconds := minutes * 60
  let days := seconds.fdiv 86400
  let rest := seconds.fmod 86400
  let parts := (if days = 0 then [] else [s!"days={days}"]) ++ (if rest = 0 then [] else [s!"seconds={rest}"])
  "datetime.timezone(datetime.timedelta(" ++ joined ", " parts ++ "))"

def display (d : Day) (t : TimeOfDay) : String :=
  let date := [d.year, d.month, d.day, t.hour, t.minute]
  let tail := if t.microsecond ≠ 0 then [t.second, t.microsecond] else if t.second ≠ 0 then [t.second] else []
  let zone := (t.offset.map fun m => "tzinfo=" ++ zoneDisplay m).toList
  "datetime.datetime(" ++ joined ", " ((date ++ tail).map toString ++ zone) ++ ")"

end TimeOfDay
namespace Value

/-- What stands for a collection inside itself. -/
def cut : Value → String
  | .list _ => "[...]"
  | .tuple _ => "(...)"
  | .map _ => "\x7b...\x7d"
  | _ => "..."

mutual

/-- A value inside knots that are being shown, with what stands for each of them. -/
def displayIn (knots : List (Nat × String)) : Value → String
  | .null => "None"
  | .bool b => if b then "True" else "False"
  | .int n => toString n
  | .float x => x.text Binary64.plain
  | .text s => Quoted.text s
  | .bytes bs => Quoted.bytes bs
  | .day d => d.display
  | .moment d t => t.display d
  | .list xs => "[" ++ joined ", " (displays knots xs) ++ "]"
  | .tuple xs => match displays knots xs with
    | [one] => "(" ++ one ++ ",)"
    | ds => "(" ++ joined ", " ds ++ ")"
  | .set xs => if xs.isEmpty then "set()" else "\x7b" ++ joined ", " (displays knots xs) ++ "\x7d"
  | .map es => "\x7b" ++ joined ", " (entryDisplays knots es) ++ "\x7d"
  | .record _ name fs => name ++ "(" ++ joined ", " (fieldDisplays knots fs) ++ ")"
  | .recordType _ name => "<class 'types." ++ name ++ "'>"
  | .opaqueObject _ => "<object object>"
  | .knot name body => match knots.lookup name with
    | some mark => mark
    | none => displayIn ((name, body.cut) :: knots) body
  | .back name => (knots.lookup name).getD "..."

def displays (knots : List (Nat × String)) : List Value → List String
  | [] => []
  | x :: xs => x.displayIn knots :: displays knots xs

def entryDisplays (knots : List (Nat × String)) : List (Value × Value) → List String
  | [] => []
  | (k, v) :: es => (k.displayIn knots ++ ": " ++ v.displayIn knots) :: entryDisplays knots es

def fieldDisplays (knots : List (Nat × String)) : List (String × Value) → List String
  | [] => []
  | (n, v) :: fs => (n ++ "=" ++ v.displayIn knots) :: fieldDisplays knots fs

end

/-- A value as messages quote it. A collection inside itself is cut short. -/
def display (v : Value) : String := v.displayIn []

/-- A value as text: a text is itself. -/
def shown : Value → String
  | .text s => s
  | .day d => d.text
  | .moment d t => d.text ++ " " ++ t.text
  | v => v.display

mutual

/-- Whether a value has a text: none of its integers has too many digits. -/
def hasText : Value → Bool
  | .int n => n.natAbs < Nat.pow 10 IntegerError.digitLimit
  | .list xs | .tuple xs | .set xs => allHaveText xs
  | .map es => entriesHaveText es
  | .record _ _ fs => fieldsHaveText fs
  | .knot _ body => body.hasText
  | _ => true

def allHaveText : List Value → Bool
  | [] => true
  | x :: xs => x.hasText && allHaveText xs

def entriesHaveText : List (Value × Value) → Bool
  | [] => true
  | (k, v) :: es => k.hasText && v.hasText && entriesHaveText es

def fieldsHaveText : List (String × Value) → Bool
  | [] => true
  | (_, v) :: fs => v.hasText && fieldsHaveText fs

end

/-- What is said instead of a value without a text. -/
def withoutText : String := IntegerError.limitMessage ""

end Value
end TagRules

/-!
Texts without the control sequences that terminals take for colours and the like: an escape character, an
opening bracket, parameters, marks between them and the end, and one character that ends the sequence.
-/
namespace TagRules.Plain

/-- Digits and the marks that divide and precede them. -/
def isParameter (c : Char) : Bool := '0' ≤ c && c ≤ '?'

/-- A mark between the parameters and the end. -/
def isBetween (c : Char) : Bool := ' ' ≤ c && c ≤ '/'

def isFinal (c : Char) : Bool := '@' ≤ c && c ≤ '~'

/-- What follows a control sequence, given what follows its escape character. -/
def behindControl? : List Char → Option (List Char)
  | '[' :: rest =>
    match (rest.dropWhile isParameter).dropWhile isBetween with
    | c :: after => if isFinal c then some after else none
    | [] => none
  | _ => none

/-- The characters outside control sequences; their number bounds the steps. -/
def visible : Nat → List Char → List Char
  | 0, cs => cs
  | _, [] => []
  | fuel + 1, c :: rest =>
    match if c = '\x1b' then behindControl? rest else none with
    | some after => visible fuel after
    | none => c :: visible fuel rest

def text (s : String) : String := .ofList (visible s.length s.toList)

/-- A text without an escape character stays as it is. -/
theorem visible_of_not_mem (fuel : Nat) {cs : List Char} (h : '\x1b' ∉ cs) : visible fuel cs = cs := by
  induction fuel generalizing cs with
  | zero => rfl
  | succ fuel ih =>
    cases cs with
    | nil => rfl
    | cons c rest =>
      rw [List.mem_cons, not_or] at h
      simp [visible, Ne.symm h.1, ih h.2]

end TagRules.Plain

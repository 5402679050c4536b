import TagRules.Pattern.Escape

/-!
Character sets in brackets. A closing bracket that comes first, and a minus sign at either end, stand for
themselves.
-/
namespace TagRules.Pattern

def memberOf : Piece → Read Member
  | .plain c => return .code c.toNat
  | .escaped c => do
    match ← readEscape true c with
    | .code n => return .code n
    | .category negated category => return .category negated category
    | _ => failEscape "bad escape" [c]
  | .dangling => fail "bad escape (end of pattern)"

/-- The range between two members. -/
def rangeOf (first last : Piece) (a b : Member) : Read Member := do
  let bad : Read Member :=
    failAt (first.text.length + 1 + last.text.length)
      ("bad character range " ++ .ofList (first.text ++ '-' :: last.text))
  match a, b with
  | .code low, .code high => if high < low then bad else return .range low high
  | _, _ => bad

/-- The members of a set, up to its closing bracket; `start` is the place of the opening one. -/
def readMembers (start : Nat) : Nat → List Member → Read (List Member)
  | 0, _ => fail "unterminated character set"
  | fuel + 1, members => do
    let unterminated : Read (List Member) := do failAt ((← get).position - start) "unterminated character set"
    match ← take with
    | none => unterminated
    | some first =>
      if first = .plain ']' && !members.isEmpty then return members
      let a ← memberOf first
      if ← accept '-' then
        match ← take with
        | none => unterminated
        | some last =>
          if last = .plain ']' then return members ++ [a, .code '-'.toNat]
          let b ← memberOf last
          readMembers start fuel (members ++ [← rangeOf first last a b])
      else readMembers start fuel (members ++ [a])

def readSet : Read Pattern := do
  let start := (← get).position - 1
  let negated ← accept '^'
  match (← readMembers start ((← get).rest.length + 1) []).eraseDups with
  | [.code n] => return .literal negated n
  | members => return .oneOf negated members

end TagRules.Pattern

import TagRules.Pattern.Reader
import TagRules.Text.Word

/-!
Flags inside a pattern: for all of it, or turned on and off for one group.
-/
namespace TagRules.Pattern

/-- What flags in parentheses are for. -/
inductive Inline
  | everywhere
  | group (on off : Flags)

def flag? : Char → Option Flag
  | 'i' => some .ignoreCase
  | 'L' => some .locale
  | 'm' => some .multiline
  | 's' => some .dotAll
  | 'x' => some .verbose
  | 'a' => some .ascii
  | 't' => some .template
  | 'u' => some .unicode
  | _ => none

def Piece.char? : Piece → Option Char
  | .plain c => some c
  | _ => none

def flagOf? (p : Piece) : Option Flag := p.char?.bind flag?

/-- Fails at a piece that is neither a flag nor what else could stand there. -/
def failFlag {α : Type} (p : Piece) (missing : String) : Read α :=
  failAt p.text.length (if p.text.all isLetterChar then "unknown flag" else missing)

/-- Flags turned on, from the first one on, and the mark after them. -/
def readOn : Nat → Flag → Flags → Read (Flags × Char)
  | 0, _, on => return (on, ')')
  | fuel + 1, flag, on => do
    if flag = .locale then fail "bad inline flags: cannot use 'L' flag with a str pattern"
    let on := on ++ [flag]
    if Flags.isType flag && on.any fun f => Flags.isType f && f != flag then
      fail "bad inline flags: flags 'a', 'u' and 'L' are incompatible"
    match ← take with
    | none => fail "missing -, : or )"
    | some p =>
      match p with
      | .plain ')' => return (on, ')')
      | .plain '-' => return (on, '-')
      | .plain ':' => return (on, ':')
      | _ => match flagOf? p with
        | some next => readOn fuel next on
        | none => failFlag p "missing -, : or )"

/-- Flags turned off, from the first one on. -/
def readOff : Nat → Flag → Flags → Read Flags
  | 0, _, off => return off
  | fuel + 1, flag, off => do
    if Flags.isType flag then fail "bad inline flags: cannot turn off flags 'a', 'u' and 'L'"
    let off := off ++ [flag]
    match ← take with
    | none => fail "missing :"
    | some p =>
      if p = .plain ':' then return off
      match flagOf? p with
      | some next => readOff fuel next off
      | none => failFlag p "missing :"

/-- Flags after a question mark, given the first piece of them. -/
def readFlags (first : Piece) : Read Inline := do
  let fuel := (← get).rest.length + 1
  let (on, mark) ← match flagOf? first with
    | some flag => readOn fuel flag []
    | none => pure ([], '-')
  if mark = ')' then
    modify fun r => { r with flags := r.flags ++ on }
    return .everywhere
  if on.contains .template then failAt 1 "bad inline flags: cannot turn on global flag"
  let off ← if mark = ':' then pure [] else
    match ← take with
    | none => fail "missing flag"
    | some p => match flagOf? p with
      | some flag => readOff fuel flag []
      | none => failFlag p "missing flag"
  if off.contains .template then failAt 1 "bad inline flags: cannot turn off global flag"
  if on.any off.contains then failAt 1 "bad inline flags: flag turned on and off"
  return .group on off

end TagRules.Pattern

import TagRules.Text.Lines
import TagRules.Text.Quoted

/-!
Command lines: options, the arguments between them, and what is wrong with a line. After two dashes alone
nothing is an option any more.
-/
namespace TagRules.Command

inductive UsageError
  | noSuchOption (name : String) (similar : List String)
  | noSuchCommand (name : String) (similar : List String)
  | missingCommand
  | needsValue (option : String)
  | takesNoValue (option : String)
  | missingArgument (name : String)
  | extraArguments (args : List String)
  | noFile (parameter path : String)
  | isDirectory (parameter path : String)
  | cannotOpen (parameter path reason : String)
  | noConfiguration

namespace UsageError

/-- A question about one similar name, or about several. -/
def suggestion : List String → String
  | [] => ""
  | [one] => " Did you mean " ++ Quoted.text one ++ "?"
  | several => " (Did you mean one of: " ++ joined ", " (several.map Quoted.text) ++ "?)"

def message : UsageError → String
  | .noSuchOption name similar => "No such option " ++ Quoted.text name ++ "." ++ suggestion similar
  | .noSuchCommand name similar => "No such command " ++ Quoted.text name ++ "." ++ suggestion similar
  | .missingCommand => "Missing command."
  | .needsValue option => "Option " ++ Quoted.text option ++ " requires an argument."
  | .takesNoValue option => "Option " ++ Quoted.text option ++ " does not take a value."
  | .missingArgument name => "Missing argument '" ++ name ++ "'."
  | .extraArguments args =>
    "Got unexpected extra argument" ++ (if args.length = 1 then "" else "s") ++ " (" ++ joined " " args ++ ")"
  | .noFile parameter path =>
    "Invalid value for '" ++ parameter ++ "': File " ++ Quoted.text path ++ " does not exist."
  | .isDirectory parameter path =>
    "Invalid value for '" ++ parameter ++ "': File " ++ Quoted.text path ++ " is a directory."
  | .cannotOpen parameter path reason =>
    "Invalid value for '" ++ parameter ++ "': '" ++ path ++ "': " ++ reason
  | .noConfiguration => "No configuration given; use --config or TAGTHEM_CONFIG."

end UsageError

structure OptionSpec where
  name : String
  takesValue : Bool

/-- What a command line says: options with their values in order, and the other arguments. -/
structure Parsed where
  options : List (String × String)
  arguments : List String

namespace Parsed

/-- The last value given to an option. -/
def value? (p : Parsed) (option : String) : Option String := p.options.reverse.lookup option

def values (p : Parsed) (option : String) : List String := (p.options.filter (·.1 == option)).map (·.2)

def has (p : Parsed) (option : String) : Bool := p.options.any (·.1 == option)

end Parsed
namespace Similar

def commonStart : List Char → List Char → Nat
  | a :: as, b :: bs => if a = b then commonStart as bs + 1 else 0
  | _, _ => 0

/-- The longest run that two lists share: its places in both and its length; the first one of several. -/
def longestRun (as bs : List Char) : Nat × Nat × Nat :=
  (List.range as.length).foldl (fun best i =>
    (List.range bs.length).foldl (fun best j =>
      let n := commonStart (as.drop i) (bs.drop j)
      if best.2.2 < n then (i, j, n) else best) best) (0, 0, 0)

/-- How many characters two lists share in runs: the longest one, and those on both sides of it. -/
def shared : Nat → List Char → List Char → Nat
  | 0, _, _ => 0
  | fuel + 1, as, bs =>
    let (i, j, n) := longestRun as bs
    if n = 0 then 0
    else n + shared fuel (as.take i) (bs.take j) + shared fuel (as.drop (i + n)) (bs.drop (j + n))

/-- Twice the shared characters of two names, and all their characters: the measure of their likeness. -/
def likeness (a b : String) : Nat × Nat :=
  (2 * shared (a.length + b.length) a.toList b.toList, a.length + b.length)

/-- Up to three names that share at least six tenths with a given one, in order of the alphabet. -/
def names (given : String) (known : List String) : List String :=
  let rated := (known.map fun name => (likeness name given, name)).filter fun ((n, d), _) => 6 * d ≤ 10 * n
  let best := rated.mergeSort fun ((n, d), a) ((n', d'), b) => n' * d < n * d' || (n' * d == n * d' && decide (b ≤ a))
  ((best.take 3).map (·.2)).mergeSort fun a b => decide (a ≤ b)

end Similar

def readOption (specs : List OptionSpec) (arg : String) (rest : List String) :
    Except UsageError ((String × String) × List String) :=
  let cs := arg.toList
  let name := String.ofList (cs.takeWhile (· ≠ '='))
  let attached := if cs.contains '=' then some (String.ofList ((cs.dropWhile (· ≠ '=')).drop 1)) else none
  match specs.find? (·.name == name) with
  | some spec =>
    match spec.takesValue, attached, rest with
    | true, some v, rest => .ok ((name, v), rest)
    | true, none, v :: rest => .ok ((name, v), rest)
    | true, none, [] => .error (.needsValue name)
    | false, some _, _ => .error (.takesNoValue name)
    | false, none, rest => .ok ((name, ""), rest)
  | none => match cs with
    | '-' :: '-' :: _ => .error (.noSuchOption name (Similar.names name (specs.map (·.name))))
    | _ => .error (.noSuchOption (.ofList (cs.take 2)) [])

/-- Reads a command line. Without `mixed`, the first argument that is no option ends the options. -/
def parseArguments (specs : List OptionSpec) (mixed : Bool) : Nat → List String → Except UsageError Parsed
  | 0, args => .ok ⟨[], args⟩
  | _, [] => .ok ⟨[], []⟩
  | fuel + 1, arg :: rest =>
    if arg = "--" then .ok ⟨[], rest⟩
    else if arg.startsWith "-" && arg.length > 1 then do
      let (given, rest) ← readOption specs arg rest
      let p ← parseArguments specs mixed fuel rest
      return { p with options := given :: p.options }
    else if mixed then do
      let p ← parseArguments specs mixed fuel rest
      return { p with arguments := arg :: p.arguments }
    else .ok ⟨[], arg :: rest⟩

end TagRules.Command

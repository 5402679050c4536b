import TagRules.Command.Run

/-!
The program: gathers what a command can see, runs it, and prints what it says.
-/
namespace TagRules

/-- The paths that a command line can be about. -/
def mentionedPaths (env : Environment) (args : List String) : List String :=
  (env.lookup Settings.configVariable).toList ++ args.flatMap fun arg =>
    [arg, .ofList ((arg.toList.dropWhile (· ≠ '=')).drop 1)]

def lookAt (path : String) : IO (Option (String × Command.FileEntry)) := do
  match ← (IO.FS.readFile path).toBaseIO with
  | .ok text => return some (path, .file text.toList)
  | .error (.noFileOrDirectory ..) => return none
  | .error _ => return some (path, .directory)

def lookAround (paths : List String) : IO Command.Files :=
  (paths.flatMap fun p => Command.Files.directoriesAbove p ++ [normalPath p]).filterMapM lookAt

/-- The settings variables that are set. -/
def environment : IO Environment := do
  let names := [Settings.configVariable, Settings.levelVariable, Settings.caseVariable]
  names.filterMapM fun name => do return (← IO.getEnv name).map ((name, ·))

partial def readInput (h : IO.FS.Stream) (text : String) : IO String := do
  let line ← h.getLine
  if line.isEmpty then return text else readInput h (text ++ line)

end TagRules

open TagRules in
def main (args : List String) : IO UInt32 := do
  let env ← environment
  let files ← lookAround (mentionedPaths env args)
  let input ← readInput (← IO.getStdin) ""
  let (outcome, level) := Command.run ⟨files, input.toList, env⟩ args
  IO.print outcome.output
  IO.eprint (outcome.errors level)
  if let .crashed c := outcome.ending then IO.eprintln c.message
  return outcome.exitCode.toUInt32

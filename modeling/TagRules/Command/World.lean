import TagRules.Command.Usage
import TagRules.Document.Json.Writer
import TagRules.Document.Yaml.Cursor
import TagRules.Extractor.Problem
import TagRules.Log
import TagRules.Settings
import TagRules.Text.Plain

/-!
What a command can see, and what comes out of it: files, input and environment on one side, the texts it
prints and the way it ends on the other.
-/
namespace TagRules.Command

inductive FileEntry
  | directory
  | file (content : List Char)

inductive Unreadable
  | missing
  | belowFile
  | directory
  | nameTooLong
  deriving DecidableEq, Repr

namespace Unreadable

def reason : Unreadable → String
  | .missing => "No such file or directory"
  | .belowFile => "Not a directory"
  | .directory => "Is a directory"
  | .nameTooLong => "File name too long"

def number : Unreadable → Nat
  | .missing => 2
  | .belowFile => 20
  | .directory => 21
  | .nameTooLong => 36

end Unreadable

abbrev Files := List (String × FileEntry)

namespace Files

/-- The greatest size of a path and of a part of it, in bytes. -/
def pathLimit : Nat := 4095

def partLimit : Nat := 255

/-- Whether a directory is needed at a path, from how it ends. -/
def endsInDirectory (path : String) : Bool :=
  let ending := (path.splitOn "/").getLast?
  path.contains '/' && (ending == some "" || ending == some ".")

/-- How a normal path begins: with the slashes that lead to the root, or with nothing. -/
def root (normal : String) : String := .ofList (normal.toList.takeWhile (· = '/'))

/-- The directories that a path leads through, from the outermost. -/
def directoriesAbove (path : String) : List String :=
  let parts := pathParts path
  (List.range (parts.length - 1)).map fun n => root (normalPath path) ++ joined "/" (parts.take (n + 1))

/-- Goes down to the last part of a path, over directories. -/
def descend (fs : Files) (above : String) : List String → Except Unreadable String
  | [] => .ok above
  | part :: rest =>
    if part.utf8ByteSize > partLimit then .error .nameTooLong else
    let here := above ++ part
    if rest.isEmpty then .ok here else
    match fs.lookup here with
    | some (.file _) => .error .belowFile
    | some .directory => descend fs (here ++ "/") rest
    | none => .error .missing

def read (fs : Files) (path : String) : Except Unreadable (List Char) := do
  if path.isEmpty then throw .missing
  if path.utf8ByteSize > pathLimit then throw .nameTooLong
  let normal := normalPath path
  let place ← fs.descend (root normal) (pathParts path)
  match fs.lookup (if place.isEmpty then "." else place) with
  | some (.file content) => if endsInDirectory path then throw .belowFile else return content
  | some .directory => throw .directory
  | none => throw .missing

end Files

structure World where
  files : Files
  input : List Char
  environment : Environment

inductive Crash
  | mismatch (m : Mismatch)
  | output (e : Json.WriteError)
  | nameWithoutText
  | nullInPath
  | level (m : LogLevel.Misnomer)
  | definition (e : DefinitionError)
  | document (e : Yaml.Error)

def Crash.message : Crash → String
  | .mismatch m => m.message
  | .output e => e.message
  | .nameWithoutText => Value.withoutText
  | .nullInPath => "embedded null byte"
  | .level m => m.message
  | .definition e => e.message
  | .document e => e.message

inductive Ending
  | done
  | failed (message : String)
  | misused (e : UsageError)
  | crashed (c : Crash)

/-- What a command prints, what it logs, and how it ends. -/
structure Outcome where
  output : String
  log : List Note
  ending : Ending

namespace Outcome

def exitCode (o : Outcome) : Nat :=
  match o.ending with
  | .done => 0
  | .misused _ => 2
  | _ => 1

def logLine (n : Note) : String := "DEBUG " ++ n.source ++ ": " ++ n.text ++ "\n"

/-- The text for errors: the log if it is shown, and a message. Only the log keeps control sequences. -/
def errors (o : Outcome) (level : LogLevel) : String :=
  (if level.showsNotes then .join (o.log.map logLine) else "") ++
    match o.ending with
    | .failed message => Plain.text message ++ "\n"
    | .misused e => "Error: " ++ Plain.text e.message ++ "\n"
    | _ => ""

end Outcome

structure Transcript where
  output : String
  log : List Note

/-- A step of a command: it prints and logs, and may end the command. -/
abbrev Step := ExceptT Ending (StateM Transcript)

namespace Step

def note (notes : List Note) : Step Unit := modify fun p => { p with log := p.log ++ notes }

/-- Prints a text without control sequences. -/
def print (text : String) : Step Unit := modify fun p => { p with output := p.output ++ Plain.text text }

def finish {α : Type} (e : Ending) : Step α := throw e

def orFinish {ε α : Type} (r : Except ε α) (ending : ε → Ending) : Step α :=
  match r with
  | .ok a => pure a
  | .error e => throw (ending e)

def outcome (s : Step Unit) : Outcome :=
  match s.run.run ⟨"", []⟩ with
  | (.ok (), p) => ⟨p.output, p.log, .done⟩
  | (.error e, p) => ⟨p.output, p.log, e⟩

end Step

end TagRules.Command

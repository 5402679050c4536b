import TagRules.Text.Case
import TagRules.Text.Lines

/-!
Settings from the environment: where the configuration is, how much is logged, and how operators are read.
-/
namespace TagRules

/-- How much is logged, from everything to the gravest. -/
inductive LogLevel
  | all
  | debug
  | info
  | warning
  | error
  | critical
  deriving DecidableEq, Repr

namespace LogLevel

def name : LogLevel → String
  | .all => "NOTSET"
  | .debug => "DEBUG"
  | .info => "INFO"
  | .warning => "WARNING"
  | .error => "ERROR"
  | .critical => "CRITICAL"

/-- Whether notes for those who ask for details are logged. -/
def showsNotes (l : LogLevel) : Bool := l == .all || l == .debug

/-- A name that belongs to the logging of lines but is no level. -/
inductive Misnomer
  | lineFormat
  | styles
  deriving DecidableEq, Repr

def Misnomer.message : Misnomer → String
  | .lineFormat => "Unknown level: '%(levelname)s:%(name)s:%(message)s'"
  | .styles =>
    "Level not an integer or a valid string: \x7b'%': (<class 'logging.PercentStyle'>, "
      ++ "'%(levelname)s:%(name)s:%(message)s'), '\x7b': (<class 'logging.StrFormatStyle'>, "
      ++ "'\x7blevelname\x7d:\x7bname\x7d:\x7bmessage\x7d'), '$': (<class 'logging.StringTemplateStyle'>, "
      ++ "'$\x7blevelname\x7d:$\x7bname\x7d:$\x7bmessage\x7d')\x7d"

/-- The level that a name in any case stands for; an unknown name stands for warnings. -/
def ofName (name : String) : Except Misnomer LogLevel :=
  match upperText name with
  | "NOTSET" => .ok .all
  | "DEBUG" => .ok .debug
  | "INFO" => .ok .info
  | "ERROR" => .ok .error
  | "CRITICAL" | "FATAL" => .ok .critical
  | "BASIC_FORMAT" => .error .lineFormat
  | "_STYLES" => .error .styles
  | _ => .ok .warning

end LogLevel

/-- The parts of a path between slashes, without empty ones and single dots. -/
def pathParts (path : String) : List String := (path.splitOn "/").filter fun p => !(p.isEmpty || p == ".")

/-- A path without what does not count in it. Exactly two slashes at the start are kept. -/
def normalPath (path : String) : String :=
  let slashes := (path.toList.takeWhile (· = '/')).length
  let root := if slashes = 0 then "" else if slashes = 2 then "//" else "/"
  let text := root ++ joined "/" (pathParts path)
  if text.isEmpty then "." else text

abbrev Environment := List (String × String)

structure Settings where
  configPath : Option String
  logLevel : String
  caseSensitive : Bool

namespace Settings

def configVariable : String := "TAGTHEM_CONFIG"

def levelVariable : String := "TAGTHEM_LOG_LEVEL"

def caseVariable : String := "TAGTHEM_CASE_SENSITIVE"

def ofEnvironment (env : Environment) : Settings where
  configPath := ((env.lookup configVariable).filter (!·.isEmpty)).map normalPath
  logLevel := upperText ((env.lookup levelVariable).getD "WARNING")
  caseSensitive :=
    ["1", "true", "yes", "on"].contains (.ofList (((env.lookup caseVariable).getD "").toList.map toLower))

end Settings
end TagRules

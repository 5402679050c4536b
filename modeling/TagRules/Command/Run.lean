import TagRules.Command.World
import TagRules.Config.Load
import TagRules.Document.Json.Writer
import TagRules.Engine
import TagRules.Expr.Walk

/-!
The command line as a function: from arguments and what a command can see to what is printed. A command
parses an expression, checks a configuration, or tags a document and shows the tags or the rules that
match.
-/
namespace TagRules.Command

def definitionEnding (message : String → String) (e : DefinitionError) : Ending :=
  match e with
  | .mismatch m => .crashed (.mismatch m)
  | .missingParam _ | .badPattern _ _ .tooManyRepetitions | .badPattern _ _ .tooWideBehind => .crashed (.definition e)
  | e => .failed (message e.message)

def loadEnding (message : String → String) (e : LoadError) : Ending :=
  match e with
  | .document e => match e with
    | .value _ | .malformed => .failed (message e.message)
    | e => .crashed (.document e)
  | .config (.mismatch m) => .crashed (.mismatch m)
  | .config (.definition e) => definitionEnding message e
  | .config e => .failed (message e.message)

def buildEnding (message : String → String) (e : BuildError) : Ending :=
  match e with
  | .definition e => definitionEnding message e
  | .rule (.mismatch m) => .crashed (.mismatch m)
  | .rule e => .failed (message e.message)

def processEnding (message : String → String) (e : ProcessError) : Ending :=
  match e with
  | .tagging (.mismatch m) => .crashed (.mismatch m)
  | e => .failed (message e.message)

/-- Loads the configuration at a given path, or at that of the settings, and builds its engine. -/
def load (w : World) (given : Option String) : Step (Config × Engine) := do
  let settings := Settings.ofEnvironment w.environment
  let some path := (given.map normalPath).or settings.configPath | Step.finish (.misused .noConfiguration)
  let content ← Step.orFinish (w.files.read path) fun e =>
    .failed (s!"Cannot read configuration: [Errno {e.number}] {e.reason}: " ++ Quoted.text path)
  let invalid (reason : String) := "Invalid configuration " ++ path ++ ": " ++ reason
  let config ← Step.orFinish (Config.ofFile content) (loadEnding invalid)
  let caseSensitive := if settings.caseSensitive then some true else none
  let (engine, notes) ← Step.orFinish (Engine.ofConfig config [] .search caseSensitive) (buildEnding invalid)
  Step.note notes
  return (config, engine)

/-- The argument at a position, and no more of them than expected. -/
def onlyArgument (p : Parsed) : Step Unit := do
  if p.arguments.length > 1 then Step.finish (.misused (.extraArguments p.arguments.tail))

def requirePath (path : String) : Step Unit := do
  if path.contains '\x00' then Step.finish (.crashed .nullInPath)

def requireFile (w : World) (parameter path : String) : Step Unit := do
  requirePath path
  match w.files.read path with
  | .ok _ => return ()
  | .error .directory => Step.finish (.misused (.isDirectory parameter path))
  | .error _ => Step.finish (.misused (.noFile parameter path))

def runParse (w : World) (p : Parsed) : Step Unit := do
  let some source := p.arguments.head? | Step.finish (.misused (.missingArgument "EXPRESSION"))
  onlyArgument p
  let settings := Settings.ofEnvironment w.environment
  let (r, parser) := (Parser.ofSource source (p.has "--case-sensitive" || settings.caseSensitive)).parse
  let e ← Step.orFinish r fun e => .failed ("Invalid expression: " ++ e.message)
  let paths := parser.memory.fieldPaths
  Step.print e.pretty
  Step.print ("\nTags: " ++ joined ", " parser.memory.tags ++ "\n")
  if !paths.isEmpty then Step.print ("Field paths: " ++ joined ", " paths ++ "\n")

def runValidate (w : World) (p : Parsed) : Step Unit := do
  let some path := p.arguments.head? | Step.finish (.misused (.missingArgument "CONFIG_PATH"))
  requireFile w "CONFIG_PATH" path
  onlyArgument p
  let (config, engine) ← load w (some path)
  Step.print s!"Loaded {config.definitions.length} extractor(s):\n"
  for d in config.definitions do
    if !(d.name.hasText && d.type.hasText) then Step.finish (.crashed .nameWithoutText)
    Step.print ("  ✓ " ++ d.name.shown ++ " (" ++ d.type.shown ++ ")\n")
  Step.print s!"\nLoaded {engine.store.rules.length} rule(s):\n"
  for (name, expressions) in engine.store.rules do
    Step.print s!"  ✓ {name} ({expressions.length} expressions)\n"
  Step.print "\nConfiguration is valid.\n"

/-- The characters of the document to work on: a file, or the input if it is a single dash. -/
def readSource (w : World) (p : Parsed) : Step (List Char) := do
  let path := p.arguments.head?.getD "-"
  if path = "-" then return uniformLines w.input
  requirePath path
  let content ← Step.orFinish (w.files.read path) fun e => .misused (.cannotOpen "[SOURCE]" path e.reason)
  return uniformLines content

def resultsValue (results : List (Value × Findings)) : Value :=
  .map (results.map fun (name, f) => (name, .map [(.text "tags", .list f.tags), (.text "runData", f.runData)]))

def fieldValue (f : Field) : Value :=
  .map [(.text "name", .text f.name), (.text "extractors", resultsValue f.results)]

def matchesValue (m : Matches) : Value :=
  .map (m.map fun (name, sources) => (.text name, .list (sources.map .text)))

/-- The paths to tag: those on the command line, or else those of the configuration. -/
def selection (p : Parsed) (c : Config) : Selection :=
  let orElse (given configured : List String) := if given.isEmpty then configured else given
  ⟨orElse (p.values "--include") c.included, orElse (p.values "--exclude") c.excluded⟩

/-- Tags a document or a text, and shows what `present` makes of it. -/
def runOnSource (w : World) (p : Parsed) (failure : String)
    (onText : Engine → String → Except ProcessError Value)
    (onFields : Engine → List Field → Except ProcessError Value) : Step Unit := do
  if let some path := p.value? "--config" then requireFile w "--config" path
  let content ← readSource w p
  onlyArgument p
  let (config, engine) ← load w (p.value? "--config")
  let ending := processEnding fun reason => failure ++ ": " ++ reason
  let result ←
    if p.has "--text" then
      Step.orFinish (onText engine (.ofList (dropFinalLines content))) ending
    else do
      let (tagged, notes) := engine.tagDocument (Json.decodeText content) (selection p config)
      Step.note notes
      Step.orFinish (tagged >>= onFields engine) ending
  let text ← Step.orFinish (Json.document? result) fun e => .crashed (.output e)
  Step.print (text ++ "\n")

def runTag (w : World) (p : Parsed) : Step Unit :=
  runOnSource w p "Tagging failed" (fun g s => do return resultsValue (← g.tagText s))
    fun _ fields => .ok (.list (fields.map fieldValue))

def runEvaluate (w : World) (p : Parsed) : Step Unit :=
  runOnSource w p "Evaluation failed" (fun g s => do return matchesValue (← g.processText s))
    fun g fields => do return matchesValue (← g.matchFields fields)

structure Entry where
  name : String
  options : List OptionSpec
  run : World → Parsed → Step Unit

def helpOption : OptionSpec := ⟨"--help", false⟩

def sourceOptions : List OptionSpec :=
  [⟨"--config", true⟩, ⟨"--include", true⟩, ⟨"--exclude", true⟩, ⟨"--text", false⟩, helpOption]

def entries : List Entry :=
  [⟨"parse", [⟨"--case-sensitive", false⟩, helpOption], runParse⟩,
   ⟨"validate", [helpOption], runValidate⟩,
   ⟨"tag", sourceOptions, runTag⟩,
   ⟨"evaluate", sourceOptions, runEvaluate⟩]

def help (name : String) (options : List OptionSpec) : String :=
  "Usage: " ++ name ++ "\n\nOptions:\n" ++ .join (options.map fun o => "  " ++ o.name ++ "\n")

def mainOptions : List OptionSpec := [⟨"--log-level", true⟩, helpOption]

def levelFor (w : World) (p : Parsed) : Except LogLevel.Misnomer LogLevel :=
  let given := (p.value? "--log-level").filter (!·.isEmpty)
  LogLevel.ofName (given.getD (Settings.ofEnvironment w.environment).logLevel)

def runEntry (w : World) (e : Entry) (args : List String) : Step Unit := do
  let p ← Step.orFinish (parseArguments e.options true args.length args) .misused
  if p.has "--help" then Step.print (help ("tagthem " ++ e.name ++ " [OPTIONS]") e.options)
  else e.run w p

def mainHelp : String :=
  help "tagthem [OPTIONS] COMMAND [ARGS]..." mainOptions ++ "\nCommands:\n"
    ++ .join (entries.map fun e => "  " ++ e.name ++ "\n")

def startsLikeOption (name : String) : Bool :=
  name.toList.head?.any fun c => !isWordChar c || c == '_'

/-- Ends with what is wrong with a line that begins with no command. If it could be an option, it is taken
for one first. -/
def runUnknown (name : String) (args : List String) : Step Unit := do
  let p ← if startsLikeOption name then
      Step.orFinish (parseArguments mainOptions false args.length args) .misused
    else pure ⟨[], args⟩
  if p.has "--help" then Step.print mainHelp
  else Step.finish (.misused (.noSuchCommand name (Similar.names name (entries.map (·.name)))))

/-- Runs a command line: what it prints, and at which level it logs. -/
def run (w : World) (args : List String) : Outcome × LogLevel :=
  let only (s : Step Unit) : Outcome × LogLevel := (s.outcome, .warning)
  match parseArguments mainOptions false args.length args with
  | .error e => only (Step.finish (.misused e))
  | .ok p =>
    if p.has "--help" then only (Step.print mainHelp)
    else match p.arguments with
    | [] => only (Step.finish (.misused .missingCommand))
    | name :: rest =>
      match entries.find? (·.name == name) with
      | none => only (runUnknown name p.arguments)
      | some e =>
        match levelFor w p with
        | .error m => only (Step.finish (.crashed (.level m)))
        | .ok level => ((runEntry w e rest).outcome, level)

end TagRules.Command

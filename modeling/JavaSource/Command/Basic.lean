import JavaSource.Command.Completion
import JavaSource.Command.Grammar
import JavaSource.Report.Checked
import JavaSource.Report.Explained
import JavaSource.Report.Rendered

/-!
# Commands

The program has four commands: it renders a template, checks templates, explains a template, and writes completion
scripts.  `Command.parse` reads a command line; `Command.run` carries a command out in a workspace and yields an
**outcome**: an exit status, what is printed, what went wrong, and a file to be written.
-/

namespace JavaSource

/-- What the program is asked to do. -/
inductive Command where
  | render (template : Text) (values : List Text) (pairs : List (Text × Text)) (json config package : Option Text)
      (shorten withImports : Bool)
  | check (templates : List Text) (config : Option Text)
  | explain (template : Text) (config : Option Text) (json : Bool)
  | completions (shell : Command.Shell) (output : Option Text)

/-- What came of a command. -/
structure Outcome where
  status : Nat := 0
  output : Text := []
  failures : List Failure := []
  /-- A file to be written, with its content. -/
  file : Option (Text × Text) := none

namespace Command

/-! ## Command lines -/

/-- The name of the program. -/
def program : Text := "listing"

/-- The version of the program. -/
def version : Text := "0.3.0"

/-- Asks for help. -/
def helpOption : Opt := ⟨"help", some 'h', .help⟩

/-- Asks for more messages, again and again. -/
def verboseOption : Opt := ⟨"verbose", some 'v', .flag true⟩

/-- Asks for the version. -/
def versionOption : Opt := ⟨"version", some 'V', .version⟩

/-- Names the configuration file. -/
def configOption : Opt := ⟨"config", some 'c', .setting .path false⟩

/-- What may stand before the name of a command. -/
def topGrammar : Grammar where
  options := [helpOption, versionOption, verboseOption]

/-- The command line of `render`. -/
def renderGrammar : Grammar where
  options := [helpOption, verboseOption, configOption, ⟨"set", none, .setting .pair true⟩,
    ⟨"json", none, .setting .path false⟩, ⟨"package", none, .setting .text false⟩,
    ⟨"resolve", none, .flag false⟩, ⟨"imports", none, .flag false⟩]
  operands := [.path]
  further := some .text
  required := 1

/-- The command line of `check`. -/
def checkGrammar : Grammar where
  options := [helpOption, verboseOption, configOption]
  further := some .path
  required := 1

/-- The command line of `explain`. -/
def explainGrammar : Grammar where
  options := [helpOption, verboseOption, configOption, ⟨"json", none, .flag false⟩]
  operands := [.path]
  required := 1

/-- The command line of `completions`. -/
def completionsGrammar : Grammar where
  options := [helpOption, verboseOption, ⟨"output", some 'o', .setting .path false⟩]
  operands := [.word (Shell.all.map Shell.name)]
  required := 1

/-- The pairs among the values of an option. -/
def readPairs (written : List Text) : List (Text × Text) :=
  written.filterMap fun t =>
    match KeyValue.parse t with
    | .ok p => some (p.key, p.value)
    | .error _ => none

/-- The command `render` with its options. -/
def ofRender (g : Given) : Option Command :=
  match g.operands with
  | [] => none
  | template :: values =>
    some (.render template values (readPairs (g.values "set")) (g.value? "json") (g.value? "config")
      (g.value? "package") (g.has "resolve") (g.has "imports"))

/-- The command `check` with its options. -/
def ofCheck (g : Given) : Option Command := some (.check g.operands (g.value? "config"))

/-- The command `explain` with its options. -/
def ofExplain (g : Given) : Option Command :=
  g.operands.head?.map fun template => .explain template (g.value? "config") (g.has "json")

/-- The command `completions` with its options. -/
def ofCompletions (g : Given) : Option Command :=
  (g.operands.head?.bind Shell.ofName?).map fun shell => .completions shell (g.value? "output")

/-- The commands by name. -/
def table : List (Text × Grammar × (Given → Option Command)) := [
  ("render", renderGrammar, ofRender), ("check", checkGrammar, ofCheck),
  ("explain", explainGrammar, ofExplain), ("completions", completionsGrammar, ofCompletions)]

/-- The names that may follow `help`. -/
def topics : List Text := table.map (·.1) ++ [("help" : Text)]

/-- Reads what follows the name of a command. -/
def parseNamed (name : Text) (words : List Text) : Parsed Command :=
  if name = "help" then
    match words with
    | [] => .help
    | [topic] => if topics.contains topic then .help else .mistake
    | _ => .mistake
  else
    match table.lookup name with
    | none => .mistake
    | some (grammar, build) =>
      match grammar.parse words with
      | .help => .help
      | .version => .version
      | .mistake => .mistake
      | .run g =>
        match build g with
        | some c => .run c
        | none => .mistake

/-- The word is an option that may stand before the name of a command; two hyphens alone end the options. -/
def isTopOption (word : Text) : Bool := isOption word && word != "--"

/-- Reads a command line, without the name of the program.  A name behind two hyphens names no command. -/
def parse (words : List Text) : Parsed Command :=
  match topGrammar.parse (words.takeWhile isTopOption) with
  | .help => .help
  | .version => .version
  | .mistake => .mistake
  | .run _ =>
    match words.dropWhile isTopOption with
    | [] => .mistake
    | name :: rest => parseNamed name rest

/-! ## Carrying commands out -/

/-- The outcome of a failed command. -/
def failed (f : Failure) : Outcome := { status := 1, failures := [f] }

/-- Goes on with a value, or fails. -/
def orFail {ε α : Type} (failure : ε → Failure) (x : Except ε α) (next : α → Outcome) : Outcome :=
  match x with
  | .ok a => next a
  | .error e => failed (failure e)

/-- A configuration error as a failure. -/
def configFailure (e : ConfigError) : Failure := .diagnostic e.diagnostic

/-- An input error as a failure. -/
def inputFailure (e : InputError) : Failure := .plain e.message

/-- A parse error as a failure. -/
def parseFailure (e : ParseError) : Failure := .diagnostic e.diagnostic

/-- An evaluation error as a failure. -/
def evalFailure (e : EvalError) : Failure := .diagnostic e.diagnostic

/-- Checks the template at a path. -/
def checkPath (w : Workspace) (m : Markers) (path : Text) : Checked :=
  match w.read path with
  | .ok source => Checked.ofSource m path source
  | .error e => ⟨path, .error (.plain ("failed to read " ++ path ++ ": " ++ e.reason))⟩

/-- Carries a command out. -/
def run (w : Workspace) : Command → Outcome
  | .render template values pairs json config package shorten withImports =>
    orFail configFailure (Config.load w config) fun c =>
    let c := { c with package := package.getD c.package }
    orFail inputFailure (w.template template) fun source =>
    orFail parseFailure (Template.parse source c.markers) fun t =>
    orFail inputFailure (w.bindings json values pairs) fun b =>
    orFail evalFailure (c.render t b shorten withImports) fun r => { output := r.report.terminal }
  | .check templates config =>
    orFail configFailure (Config.load w config) fun c =>
    let checked := templates.map (checkPath w c.markers)
    let report := Checked.report checked
    { status := if Checked.allValid checked then 0 else 1
      output := report.terminal
      failures := report.failures }
  | .explain template config json =>
    orFail configFailure (Config.load w config) fun c =>
    orFail inputFailure (w.template template) fun source =>
    orFail parseFailure (Template.parse source c.markers) fun t =>
    let e : Explained := ⟨template, c.markers, t⟩
    { output := if json then e.json.pretty ++ "\n" else e.report.terminal }
  | .completions shell output =>
    let script := shell.script program topics
    match output with
    | none => { output := script }
    | some path =>
      if w.canCreate path then { file := some (path, script) }
      else failed (inputFailure (.cannotCreate path))

/-- How the program is called. -/
def usage : Text :=
  "Render Java source from marker templates with automatic imports\n\nUsage: " ++ program ++
    " [-v] <command>\n\nCommands:\n" ++
    "  render <template> [values]... [--set KEY=VALUE]... [--json FILE] [-c FILE] [--package NAME] " ++
    "[--resolve] [--imports]\n" ++
    "  check <templates>... [-c FILE]\n" ++
    "  explain <template> [-c FILE] [--json]\n" ++
    "  completions <bash|elvish|fish|powershell|zsh> [-o FILE]\n" ++
    "  help [command]\n"

/-- Reads a command line and carries it out in a workspace.  A mistake in the command line gives status 2. -/
def perform (w : Workspace) (words : List Text) : Outcome :=
  match parse words with
  | .run c => c.run w
  | .help => { output := usage }
  | .version => { output := program ++ " " ++ version ++ "\n" }
  | .mistake => { status := 2, failures := [.plain usage] }

end Command

end JavaSource

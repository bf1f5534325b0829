import SpringAtlas.Cli.Options
import SpringAtlas.Files.Config
import SpringAtlas.Files.Load
import SpringAtlas.Log.Setup
import SpringAtlas.Report.Markdown

/-!
# `Cli.Command` — the commands of the program

`analyze` reads a directory, analyses it and writes or prints a report; `init` writes a configuration file. A
command works on a directory tree and gives back the tree with what it wrote, its output and its log, so that the
outermost layer only carries them out.

## Contents
* `Session`, `Outcome`
* `analyzeCommand`, `initCommand`
* `runCommandLine`
-/

namespace SpringAtlas.Cli

/-- What a command works with: the working directory and its full path, the environment, and the identity of the
    run. -/
structure Session where
  tree : FileTree
  base : String
  env : Environment := []
  runId : String
  timestamp : Timestamp

/-- What a command did. -/
structure Outcome where
  exitCode : Nat := 0
  output : String := ""
  /-- log records, each under the setup in force -/
  log : List (LogSetup × LogRecord) := []
  tree : FileTree

/-- The exit code of a command line that is refused. -/
def usageExit : Nat := 2

def Session.refused (s : Session) : Outcome :=
  { exitCode := usageExit, tree := s.tree }

def Session.failed (s : Session) (setup : LogSetup) (message : String) : Outcome :=
  { exitCode := 1, tree := s.tree, log := [(setup, ⟨.int 40, LogSetup.rootLogger, message, []⟩)] }

/-- A failure that no command expects: it ends the program without a log line. -/
def Session.crashed (s : Session) : Outcome :=
  { exitCode := 1, tree := s.tree }

/-! ## Options -/

def helpOption : OptionSpec :=
  { name := "--help" }

def globalOptions : List OptionSpec :=
  [{ name := "--config", short := some 'c', takesValue := true }, { name := "--verbose", short := some 'v' },
   { name := "--quiet", short := some 'q' }, { name := "--ci" }, { name := "--version" }, helpOption]

def analyzeOptions : List OptionSpec :=
  [{ name := "--output", short := some 'o', takesValue := true },
   { name := "--format", short := some 'f', takesValue := true }, { name := "--dry-run" }, helpOption]

def initOptions : List OptionSpec :=
  [{ name := "--force" }, helpOption]

def logFlags (p : ParsedOptions) : LogFlags :=
  ⟨p.has "--verbose", p.has "--quiet", p.has "--ci"⟩

def tidyPath (path : String) : String :=
  String.ofList (Path.tidy path.toList)

/-- The directory of a written path. -/
def parentPath (path : String) : String :=
  tidyPath (String.ofList (Path.directory path.toList))

/-! ## Analyze -/

/-- The path of the report: the one asked for, else the configured one, which has to be a text. -/
def outputPath? (p : ParsedOptions) (config : Config) : Option String :=
  match p.value? "--output", config.output.path with
  | some path, _ => some path
  | none, .str path => some path
  | none, _ => none

/-- Writes a report to a file; one that cannot be encoded leaves the file empty. -/
def writeReport (t : FileTree) (path text : String) : Except WriteError FileTree :=
  match FileTree.names? path with
  | none => .ok t
  | some names =>
    let content := if (Text.encodingFault? text.toList).isSome then "" else text
    t.writeFile names (tidyPath path) (parentPath path) content.toUTF8

/-- The exit code of a run: problems are reported by it. -/
def analysisExit (a : Analysis) : Nat :=
  if a.problems.isEmpty then 0 else 2

/-- Prints or writes the report of an analysis. -/
def deliver (s : Session) (setup : LogSetup) (p : ParsedOptions) (path : String) (format : ReportFormat)
    (a : Analysis) : Outcome :=
  let text := Report.write format a
  let refuse (s : Session) (message : String) := s.failed setup ("Rendering failed: " ++ message)
  match if p.has "--dry-run" then .ok s.tree else writeReport s.tree path text with
  | .error e => refuse s e.message
  | .ok tree =>
    match Text.encodingFault? text.toList with
    | some fault => refuse { s with tree } fault.message
    | none =>
      { exitCode := analysisExit a, tree
        output := (if p.has "--dry-run" then text else "Report written to: " ++ tidyPath path) ++ "\n" }

/-- The format of the report: the one asked for, if it is not empty, else the configured one. -/
def formatName (p : ParsedOptions) (config : Config) : String :=
  match p.value? "--format" with
  | some f => if f.isEmpty then config.output.format.name else f
  | none => config.output.format.name

/-- Analyses the directory at a place of the tree. -/
def analyzeDirectory (s : Session) (config : Config) (setup : LogSetup) (p : ParsedOptions)
    (root : List String) : Outcome :=
  match outputPath? p config with
  | none => s.crashed
  | some path =>
    match ReportFormat.ofName? (formatName p config) with
    | none =>
      s.failed setup ("Invalid format: " ++ formatName p config ++ ". Use 'markdown' or 'json'")
    | some format =>
      match loadCorpus s.tree root s.base ((root.getLast?).getD "") config.analyzer with
      | .error _ => s.crashed
      | .ok corpus =>
        match analyze config.analyzer corpus s.runId s.timestamp with
        | .error _ => s.crashed
        | .ok a => deliver s setup p path format a

def analyzeCommand (s : Session) (config : Config) (setup : LogSetup) (args : List String) : Outcome :=
  match parseOptions analyzeOptions true args with
  | .error _ => s.refused
  | .ok p =>
    if p.has "--help" then { tree := s.tree }
    else
      match p.arguments with
      | [] => analyzeDirectory s config setup p s.tree.home
      | [path] =>
        match (s.tree.resolveWritten? path).filter fun place => !path.isEmpty && s.tree.isDirectory place with
        | none => s.refused
        | some root => analyzeDirectory s config setup p root
      | _ => s.refused

/-! ## Init -/

def configPlace : List String :=
  [".springlens", "config.yaml"]

def initCommand (s : Session) (setup : LogSetup) (args : List String) : Outcome :=
  match parseOptions initOptions true args with
  | .error _ => s.refused
  | .ok p =>
    if p.has "--help" then { tree := s.tree }
    else if !p.arguments.isEmpty then s.refused
    else
      let shown := "/".intercalate configPlace
      if s.tree.contains (s.tree.home ++ configPlace) && !p.has "--force" then
        s.failed setup ("Config already exists: " ++ shown)
      else
        match s.tree.writeFile configPlace shown ".springlens" defaultConfigText.toUTF8 with
        | .error _ => s.crashed
        | .ok tree =>
          { output := "SpringLens configuration initialized\n   Config: " ++ shown ++ "\n", tree }

/-! ## Command lines -/

def version : String :=
  "0.1.0"

def commands : List String :=
  ["analyze", "init"]

/-- Whether the configuration file named on the command line is a file. -/
def configIsFile (s : Session) (p : ParsedOptions) : Bool :=
  match p.value? "--config" with
  | none => true
  | some path => (s.tree.resolveWritten? path).any s.tree.isFile

/-- A command after the configuration has been read. -/
def dispatch (s : Session) (config : Config) (setup : LogSetup) (command : String) (args : List String) :
    Outcome :=
  if command == "analyze" then analyzeCommand s config setup args else initCommand s setup args

/-- Reads the configuration and runs a command. -/
def runCommand (s : Session) (p : ParsedOptions) (command : String) (args : List String) : Outcome :=
  match (logFlags p).setup (.str "human") (.str "INFO") false with
  | .error _ => s.crashed
  | .ok early =>
    match loadConfig s.tree s.env s.base (p.value? "--config") true with
    | .error e => s.failed early ("Failed to load config: " ++ e.message)
    | .ok loaded =>
      let logging := loaded.config.logging
      match (logFlags p).setup (.str logging.mode.name) (.str logging.level) false with
      | .error _ => s.crashed
      | .ok setup => dispatch s loaded.config setup command args

/-- Runs a command line. -/
def runCommandLine (s : Session) (args : List String) : Outcome :=
  match parseOptions globalOptions false args with
  | .error _ => s.refused
  | .ok p =>
    match p.options.find? fun o => o.1 == "--version" || o.1 == "--help" with
    | some ("--version", _) => { output := "springlens " ++ version ++ "\n", tree := s.tree }
    | some _ => { tree := s.tree }
    | none =>
      match p.arguments with
      | [] => s.refused
      | command :: rest =>
        if !configIsFile s p || !commands.contains command then s.refused
        else runCommand s p command rest

end SpringAtlas.Cli

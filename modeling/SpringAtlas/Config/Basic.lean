import SpringAtlas.Config.Environment
import SpringAtlas.Text.Case
import SpringAtlas.Yaml.Json

/-!
# `Config.Basic` — how an analysis is configured

A configuration has three sections: limits and file selection of the analysis, where and how the report is
written, and logging. Values come from YAML, so a section has to be checked before it is used.

## Contents
* `AnalyzerConfig`, `OutputConfig`, `LoggingConfig`, `Config` — with their defaults
* `ConfigError`
* `AnalyzerConfig.corpusExtensions` — the extensions of the files that are read
-/

namespace SpringAtlas

/-! ## Errors -/

/-- Why a configuration is refused. -/
inductive ConfigError where
  | environment (cause : ExpansionError)
  /-- a limit that is not a positive integer -/
  | notPositive (limit : String) (value : Yaml.Value)
  | unknownFormat (value : Yaml.Value)
  | unknownMode (value : Yaml.Value)
  /-- a value without the operation that its use needs -/
  | lacks (operation : String) (value : Yaml.Value)
  /-- a value that should hold items -/
  | notItems (value : Yaml.Value)
  /-- a document that cannot be asked for a section -/
  | notSearchable (value : Yaml.Value)
  /-- bytes, which cannot be asked for a text -/
  | searchedBytes
  /-- a document that holds the name of a section but no sections -/
  | notIndexed (value : Yaml.Value)
  /-- a collection where a single value is compared -/
  | notComparable (value : Yaml.Value)
  /-- bytes among texts that are put in order -/
  | notOrdered
deriving Repr

/-- The kind of a value, as messages name it. -/
def Yaml.Value.kindName : Yaml.Value → String
  | null => "NoneType"
  | bool _ => "bool"
  | int _ => "int"
  | float _ => "float"
  | str _ => "str"
  | date _ => "datetime.date"
  | time _ => "datetime.datetime"
  | binary _ => "bytes"
  | list _ => "list"
  | map _ => "dict"
  | set _ => "set"
  | pair _ _ => "tuple"
  | again mark => if mark == "\x7b...\x7d" then "dict" else if mark == "(...)" then "tuple" else "list"

namespace ConfigError

/-- A message that shows a value, which has to be one that can be written. -/
def showing (value : Yaml.Value) (text : String) : String :=
  if value.fitsText then text else Yaml.Fault.unwrittenInteger.message

def message : ConfigError → String
  | environment (.unset name) => "Environment variable not set: " ++ name
  | environment .endless => Yaml.Fault.endless.message
  | notPositive limit value =>
    showing value (limit ++ " must be a positive integer (got " ++ value.spelled ++ ")")
  | unknownFormat value => showing value ("Invalid output format: " ++ value.text ++ ".")
  | unknownMode value => showing value ("Invalid logging mode: " ++ value.text ++ ".")
  | lacks operation value =>
    "'" ++ value.kindName ++ "' object has no attribute '" ++ operation ++ "'"
  | notItems value => "'" ++ value.kindName ++ "' object is not iterable"
  | notSearchable value => "argument of type '" ++ value.kindName ++ "' is not iterable"
  | searchedBytes => "a bytes-like object is required, not 'str'"
  | notIndexed (.str _) => "string indices must be integers, not 'str'"
  | notIndexed (.list _) => "list indices must be integers or slices, not str"
  | notIndexed value => "'" ++ value.kindName ++ "' object is not subscriptable"
  | notComparable value => "unhashable type: '" ++ (value.unkeyed?.getD value).kindName ++ "'"
  | notOrdered => "'<' not supported between instances of 'bytes' and 'str'"

end ConfigError

/-! ## Sections -/

/-- Directories that hold no sources of their own. -/
def defaultExcludedDirs : List String :=
  [".git", ".svn", ".hg", ".idea", ".vscode", ".gradle", ".mvn", "target", "build", "out", "bin",
   "node_modules"]

def textItems (ss : List String) : List Yaml.Value :=
  ss.map Yaml.Value.str

/-- Limits and file selection of an analysis. -/
structure AnalyzerConfig where
  /-- the deepest build descriptor that makes a module -/
  maxWalkDepth : Nat := 3
  /-- longer endpoint paths are dropped -/
  maxEndpointPathLength : Nat := 200
  /-- lines searched after an annotation for what it belongs to -/
  lookaheadLines : Nat := 4
  maxFlowPaths : Nat := 10
  topFindings : Nat := 10
  workers : Nat := 1
  sourceExtensions : List Yaml.Value := textItems [".java"]
  configExtensions : List Yaml.Value := textItems [".properties", ".yml", ".yaml"]
  excludeDirs : List Yaml.Value := textItems defaultExcludedDirs
deriving Repr

inductive ReportFormat where
  | markdown
  | json
deriving Repr, BEq, DecidableEq

namespace ReportFormat

def name : ReportFormat → String
  | markdown => "markdown"
  | json => "json"

def ofName? (s : String) : Option ReportFormat :=
  [markdown, json].find? fun f => f.name == s

end ReportFormat

structure OutputConfig where
  path : Yaml.Value := .str "springlens-report.md"
  format : ReportFormat := .markdown
deriving Repr

/-- How log lines are written. -/
inductive LogMode where
  | human
  | verbose
  | json
deriving Repr, BEq, DecidableEq

namespace LogMode

def name : LogMode → String
  | human => "human"
  | verbose => "verbose"
  | json => "json"

def ofName? (s : String) : Option LogMode :=
  [human, verbose, json].find? fun m => m.name == s

end LogMode

structure LoggingConfig where
  mode : LogMode := .human
  /-- in capitals -/
  level : String := "INFO"
deriving Repr, BEq, DecidableEq

structure Config where
  analyzer : AnalyzerConfig := {}
  output : OutputConfig := {}
  logging : LoggingConfig := {}
deriving Repr

/-! ## Extensions -/

/-- A text or bytes in small letters. -/
def lowered (v : Yaml.Value) : Except ConfigError Yaml.Value :=
  match v with
  | .str s => .ok (.str (String.ofList (Text.lower s.toList)))
  | .binary bytes => .ok (.binary (bytes.map fun b => if 65 ≤ b && b ≤ 90 then b + 32 else b))
  | v => .error (.lacks "lower" v)

/-- What the extensions of files are compared with, in small letters. -/
def AnalyzerConfig.corpusItems (c : AnalyzerConfig) : Except ConfigError (List Yaml.Value) :=
  (c.sourceExtensions ++ c.configExtensions).mapM lowered

/-- The extensions of the files that are read into a corpus; bytes are the extension of no file. -/
def AnalyzerConfig.corpusExtensions (c : AnalyzerConfig) : Except ConfigError (List String) := do
  return Text.distinct ((← c.corpusItems).filterMap fun v =>
    match v with
    | .str s => some s
    | _ => none)

/-- The extensions in order; bytes and texts have no common order. -/
def AnalyzerConfig.sortedExtensions (c : AnalyzerConfig) : Except ConfigError (List String) := do
  if (← c.corpusItems).any fun v => v matches .binary _ then throw .notOrdered
  return (← c.corpusExtensions).mergeSort fun a b => decide (a ≤ b)

/-! ## Configurations as documents -/

def AnalyzerConfig.toJson (c : AnalyzerConfig) : Json :=
  let values (vs : List Yaml.Value) : Json := .arr (vs.map Yaml.Value.toJson)
  .obj [("max_walk_depth", .nat c.maxWalkDepth), ("max_endpoint_path_length", .nat c.maxEndpointPathLength),
    ("lookahead_lines", .nat c.lookaheadLines), ("max_flow_paths", .nat c.maxFlowPaths),
    ("top_findings", .nat c.topFindings), ("workers", .nat c.workers),
    ("source_extensions", values c.sourceExtensions), ("config_extensions", values c.configExtensions),
    ("exclude_dirs", values c.excludeDirs)]

/-- The fields of a configuration, with the extensions in order. -/
def Config.toFields (c : Config) : Except ConfigError (List (String × Json)) := do
  return [("analyzer", c.analyzer.toJson),
    ("corpus_extensions", .ofStrings (← c.analyzer.sortedExtensions)),
    ("output", .obj [("path", c.output.path.toJson), ("format", .str c.output.format.name)]),
    ("logging", .obj [("mode", .str c.logging.mode.name), ("level", .str c.logging.level)])]

end SpringAtlas

import SpringAtlas.Config.Basic

/-!
# `Config.Load` — configurations from YAML values

Unknown keys are ignored and missing ones keep their defaults. A section that is empty in any sense counts as
given without keys; one that is something else than a mapping is refused.

## Contents
* `Yaml.Value.isEmptyish`, `Yaml.Value.items?`
* `readAnalyzer`, `readOutput`, `readLogging`
* `Config.ofValue`, `defaultConfigText`
-/

namespace SpringAtlas

/-! ## Values -/

/-- Whether a value counts as missing: null, false, zero, or without content. -/
def Yaml.Value.isEmptyish : Yaml.Value → Bool
  | null => true
  | bool b => !b
  | int n => n == 0
  | float x => x.equalsInt 0
  | str s => s.isEmpty
  | binary bytes => bytes.isEmpty
  | list items => items.isEmpty
  | map entries => entries.isEmpty
  | set items => items.isEmpty
  | _ => false

/-- The items of a value that has some; a text has its characters and a mapping its keys. -/
def Yaml.Value.items? : Yaml.Value → Option (List Yaml.Value)
  | str s => some (s.toList.map fun c => str (String.singleton c))
  | list items => some items
  | map entries => some (entries.map Prod.fst)
  | set items => some items
  | binary bytes => some (bytes.map fun (b : Nat) => int (Int.ofNat b))
  | pair k v => some [k, v]
  | _ => none

def allItems (v : Yaml.Value) : Except ConfigError (List Yaml.Value) :=
  match v.items? with
  | some items => .ok items
  | none => .error (.notItems v)

/-! ## Sections -/

/-- A section of a configuration, as its entries. -/
abbrev Section := List (Yaml.Value × Yaml.Value)

/-- The value under a section's name, if the document has one. -/
def sectionValue? (document : Yaml.Value) (name : String) : Except ConfigError (Option Yaml.Value) :=
  match document with
  | .map entries => .ok (Yaml.Value.lookup name entries)
  | .list items | .set items =>
    if items.any fun v => v.sameKey (.str name) then .error (.notIndexed document) else .ok none
  | .str s => if Text.contains name.toList s.toList then .error (.notIndexed document) else .ok none
  | .binary _ => .error .searchedBytes
  | v => .error (.notSearchable v)

/-- The entries of a section. -/
def sectionOf (v : Yaml.Value) : Except ConfigError Section :=
  match v with
  | .map entries => .ok entries
  | v => if v.isEmptyish then .ok [] else .error (.lacks "get" v)

/-- A limit: the value under its name, which has to be a positive integer, or the default. -/
def readLimit (s : Section) (name : String) (default : Nat) : Except ConfigError Nat :=
  match Yaml.Value.lookup name s with
  | none => .ok default
  | some (.int n) => if 1 ≤ n then .ok n.toNat else .error (.notPositive name (.int n))
  | some v => .error (.notPositive name v)

def readItems (s : Section) (name : String) (default : List Yaml.Value) :
    Except ConfigError (List Yaml.Value) :=
  match Yaml.Value.lookup name s with
  | none => .ok default
  | some v => allItems v

/-- The analyzer section. Lists are read before limits are checked. -/
def readAnalyzer (s : Section) : Except ConfigError AnalyzerConfig := do
  let d : AnalyzerConfig := {}
  let sourceExtensions ← readItems s "source_extensions" d.sourceExtensions
  let configExtensions ← readItems s "config_extensions" d.configExtensions
  let excludeDirs ← readItems s "exclude_dirs" d.excludeDirs
  return {
    maxWalkDepth := ← readLimit s "max_walk_depth" d.maxWalkDepth
    maxEndpointPathLength := ← readLimit s "max_endpoint_path_length" d.maxEndpointPathLength
    lookaheadLines := ← readLimit s "lookahead_lines" d.lookaheadLines
    maxFlowPaths := ← readLimit s "max_flow_paths" d.maxFlowPaths
    topFindings := ← readLimit s "top_findings" d.topFindings
    workers := ← readLimit s "workers" d.workers
    sourceExtensions, configExtensions, excludeDirs }

/-- A choice among names: a text that names one, or the default. Other values that can be sought among the names are
    refused; a set can be sought although it is no key. -/
def readChoice {α : Type} (s : Section) (name : String) (default : α) (choose : String → Option α)
    (refuse : Yaml.Value → ConfigError) : Except ConfigError α :=
  match Yaml.Value.lookup name s with
  | none => .ok default
  | some (.str t) =>
    match choose t with
    | some a => .ok a
    | none => .error (refuse (.str t))
  | some (.set items) => .error (refuse (.set items))
  | some v => if v.isKey then .error (refuse v) else .error (.notComparable v)

def readOutput (s : Section) : Except ConfigError OutputConfig := do
  let d : OutputConfig := {}
  return {
    path := (Yaml.Value.lookup "path" s).getD d.path
    format := ← readChoice s "format" d.format ReportFormat.ofName? .unknownFormat }

def readLevel (s : Section) (default : String) : Except ConfigError String :=
  match Yaml.Value.lookup "level" s with
  | none => .ok default
  | some (.str t) => .ok (String.ofList (Text.upper t.toList))
  | some (.binary bytes) =>
    .ok (Yaml.Value.binary (bytes.map fun b => if 97 ≤ b && b ≤ 122 then b - 32 else b)).text
  | some v => .error (.lacks "upper" v)

def readLogging (s : Section) : Except ConfigError LoggingConfig := do
  let d : LoggingConfig := {}
  return {
    mode := ← readChoice s "mode" d.mode LogMode.ofName? .unknownMode
    level := ← readLevel s d.level }

/-- A section read by a function, or its default if the document does not have it. -/
def readSection {α : Type} (document : Yaml.Value) (name : String) (default : α)
    (read : Section → Except ConfigError α) : Except ConfigError α := do
  match ← sectionValue? document name with
  | none => return default
  | some v => read (← sectionOf v)

/-! ## Configurations -/

namespace Config

/-- The configuration that a document gives, with environment variables substituted. -/
def ofValue (env : Environment) (document : Yaml.Value) : Except ConfigError Config := do
  let document ← (env.expand document).mapError ConfigError.environment
  return {
    analyzer := ← readSection document "analyzer" {} readAnalyzer
    output := ← readSection document "output" {} readOutput
    logging := ← readSection document "logging" {} readLogging }

/-- The configuration of a file's document; one without content gives the defaults. -/
def ofDocument (env : Environment) (document : Yaml.Value) : Except ConfigError Config :=
  ofValue env (if document.isEmptyish then .map [] else document)

end Config

/-- The configuration file that a new project starts with. -/
def defaultConfigText : String :=
  "# SpringLens Configuration\n" ++
  "\n" ++
  "# Analysis limits\n" ++
  "analyzer:\n" ++
  "  max_walk_depth: 3              # Deepest pom.xml / build.gradle used as a module\n" ++
  "  max_endpoint_path_length: 200  # Longer endpoint paths are ignored\n" ++
  "  lookahead_lines: 4             # Lines searched for the method after a mapping annotation\n" ++
  "  max_flow_paths: 10             # Data-flow paths generated per run\n" ++
  "  top_findings: 10               # Findings shown in the summary\n" ++
  "  workers: 1                     # >1 parses files on a thread pool\n" ++
  "  # exclude_dirs: [\".git\", \"target\", \"build\", \"node_modules\"]\n" ++
  "\n" ++
  "# Output settings\n" ++
  "output:\n" ++
  "  path: \"springlens-report.md\"\n" ++
  "  format: \"markdown\"  # markdown, json\n" ++
  "\n" ++
  "# Logging\n" ++
  "logging:\n" ++
  "  mode: \"human\"  # human, verbose, json\n" ++
  "  level: \"INFO\"\n"

end SpringAtlas

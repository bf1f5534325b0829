import SpringAtlas.Config.Load
import SpringAtlas.Files.Tree
import SpringAtlas.Yaml.Document

/-!
# `Files.Config` — configuration files

The configuration is read from a file that is named explicitly, else from the first of the usual places that
exists, else it is the default.
-/

namespace SpringAtlas

/-- Why there is no configuration. -/
inductive ConfigFileError where
  | missing (path : String)
  | isADirectory (path : String)
  | notText (fault : Text.Utf8Fault)
  | yaml (fault : Yaml.Fault)
  | config (cause : ConfigError)
deriving Repr

def ConfigFileError.message : ConfigFileError → String
  | missing path => "Config file not found: " ++ path
  | isADirectory path => "[Errno 21] Is a directory: " ++ Text.quoted path
  | notText fault => fault.message
  | yaml fault => fault.message
  | config cause => cause.message

/-- A fault as a reader in pieces meets it: a character that is cut off is alone in the last piece. -/
def Text.Utf8Fault.whileReading (f : Text.Utf8Fault) : Text.Utf8Fault :=
  if f.cause = .cutOff then { f with position := 0 } else f

/-- The usual places of a configuration file. -/
def configPlaces : List (List String) :=
  [[".springlens", "config.yaml"], ["springlens.yaml"]]

/-- The first usual place below the working directory where something lies. -/
def findConfig? (t : FileTree) : Option (List String) :=
  configPlaces.find? fun place => t.contains (t.home ++ place)

/-- The configuration in a file; `shown` is its path in messages. -/
def readConfig (t : FileTree) (env : Environment) (path : List String) (shown : String) :
    Except ConfigFileError Config :=
  match t.content? path with
  | none => .error (if t.isDirectory path then .isADirectory shown else .missing shown)
  | some content =>
    match decodeText content with
    | .error fault => .error (.notText fault.whileReading)
    | .ok text =>
      match Yaml.single text.toList with
      | .error fault => .error (.yaml fault)
      | .ok document => (Config.ofDocument env document).mapError ConfigFileError.config

/-- A configuration and the place it comes from. -/
structure LoadedConfig where
  config : Config := {}
  path : Option String := none

/-- The configuration from a file named explicitly, or from a usual place if `discover` holds. The working directory
    is called `base` in messages. -/
def loadConfig (t : FileTree) (env : Environment) (base : String) (named : Option String) (discover : Bool) :
    Except ConfigFileError LoadedConfig := do
  match named with
  | some path =>
    let shown := String.ofList (Path.tidy path.toList)
    match t.resolve? path with
    | none => throw (.missing shown)
    | some place => return ⟨← readConfig t env place shown, some shown⟩
  | none =>
    match if discover then findConfig? t else none with
    | none => return {}
    | some place =>
      let shown := "/".intercalate place
      return ⟨← readConfig t env (t.home ++ place) (base ++ "/" ++ shown), some shown⟩

end SpringAtlas

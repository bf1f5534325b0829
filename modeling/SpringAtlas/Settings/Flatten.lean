import SpringAtlas.Settings.Properties
import SpringAtlas.Yaml.Value

/-!
# `Settings.Flatten` — documents as flat entries

A YAML document becomes entries like those of a properties file: the key of a scalar is its path, with a dot
before each key and the index of each list item in brackets. Of two scalars with one path the last one counts.
-/

namespace SpringAtlas.Settings

/-- The text of a scalar: null is empty, truth values are in small letters. -/
def scalarText : Yaml.Value → Except Yaml.Fault String
  | .null => .ok ""
  | .bool b => .ok (if b then "true" else "false")
  | v => v.text?

/-- The path of a key below `path`. -/
def childPath (path key : String) : String :=
  if path.isEmpty then key else path ++ "." ++ key

def itemPath (path : String) (index : Nat) : String :=
  path ++ "[" ++ toString index ++ "]"

/-- Sets the value of each of some keys. -/
def Entries.update (es more : Entries) : Entries :=
  more.foldl (fun es e => es.set e.1 e.2) es

mutual

/-- The entries of a document whose path is given; a scalar without a path has none. A collection inside itself has
    no end. -/
def flatten : Yaml.Value → String → Except Yaml.Fault Entries
  | .map entries, path => flattenEntries entries path
  | .list items, path => flattenItems items path 0
  | .again _, _ => .error .endless
  | v, path => if path.isEmpty then .ok [] else (scalarText v).map fun text => [(path, text)]

def flattenEntries : List (Yaml.Value × Yaml.Value) → String → Except Yaml.Fault Entries
  | [], _ => .ok []
  | (k, v) :: rest, path => do
    let found ← flatten v (childPath path (← k.text?))
    return found.update (← flattenEntries rest path)

def flattenItems : List Yaml.Value → String → Nat → Except Yaml.Fault Entries
  | [], _, _ => .ok []
  | v :: rest, path, index => do
    let found ← flatten v (itemPath path index)
    return found.update (← flattenItems rest path (index + 1))

end

/-- The entries of documents, up to the first that has no end or holds what cannot be written. -/
def flattenAll : List Yaml.Value → List Entries × Option Yaml.Fault
  | [] => ([], none)
  | v :: vs =>
    match flatten v "" with
    | .error fault => ([], some fault)
    | .ok found =>
      let (more, fault) := flattenAll vs
      (found :: more, fault)

/-- The entries of the documents of a YAML text, one list a document, and the fault at which reading stopped. -/
def yamlEntries [Yaml.Loader] (cs : List Char) : List Entries × Option Yaml.Fault :=
  let (docs, fault) := Yaml.Loader.documents cs
  let (found, bad) := flattenAll docs
  (found, bad.or fault)

end SpringAtlas.Settings

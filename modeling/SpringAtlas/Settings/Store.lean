import SpringAtlas.Corpus.Basic
import SpringAtlas.Settings.Flatten

/-!
# `Settings.Store` — the settings of a module

A module reads its settings from several configuration files: base files before profile files, and properties
before YAML. The first file that defines a key wins. Keys are looked up in *relaxed* form, so
`service-url.default_zone` and `serviceurl.defaultZone` are one key.

## Contents
* `relaxedKey` — the form under which keys are stored and looked up
* `configName?`, `selectFiles` — which files hold settings, and their precedence
* `Store`, `Store.update`, `Store.load`, `Store.get?`
-/

namespace SpringAtlas.Settings

/-- The canonical form of a key: trimmed, in small letters, without dashes and underscores. -/
def relaxedKey (key : String) : String :=
  String.ofList ((Text.lower (Text.trim key.toList)).filter fun c => c != '-' && c != '_')

/-! ## Configuration files -/

open Pattern in
/-- The name of a configuration file, with the profile it is for in group 1. -/
def configNamePattern : Pattern :=
  textStart ++ oneOf ["application", "bootstrap"] ++
  opt (lit "-" ++ group 1 (plus (one fun c => Text.isWord c || c == '.' || c == '-'))) ++
  lit "." ++ oneOf ["properties", "yaml", "yml"] ++ lastLineEnd

def isConfigName (name : String) : Bool :=
  (configNamePattern.matchStart? name.toList).isSome

/-- The profile that a configuration file is for. -/
def profileOf? (name : String) : Option String :=
  (configNamePattern.matchStart? name.toList).bind fun m =>
    (m.group? name.toList 1).map String.ofList

/-- The rank of a file: profile files after base files, YAML after properties. -/
def fileRank (f : SourceFile) : Bool × Bool :=
  ((profileOf? f.name).isSome, !f.isProperties)

/-- The order in which settings files are read: by rank, then by path. -/
def readBefore (a b : SourceFile) : Bool :=
  if (fileRank a).1 != (fileRank b).1 then !(fileRank a).1
  else if (fileRank a).2 != (fileRank b).2 then !(fileRank a).2
  else decide (a.path ≤ b.path)

/-- The settings files among some files, in the order in which they are read. Tests have settings of their
    own, which do not count. -/
def selectFiles (files : List SourceFile) : List SourceFile :=
  (files.filter fun f => isConfigName f.name && !f.isTest).mergeSort readBefore

/-- The entries of a settings file, one list a document, and the fault at which reading stopped. -/
def fileEntries [Yaml.Loader] (f : SourceFile) : List Entries × Option Yaml.Fault :=
  if f.isProperties then ([parseProperties f.chars], none) else yamlEntries f.chars

/-! ## Stores -/

/-- Merged settings: values by relaxed key, in order of first appearance, and the profiles whose files were
    read. -/
structure Store where
  entries : Entries := []
  profiles : List String := []
deriving Repr, BEq

namespace Store

/-- Adds the entries whose keys are new. -/
def update (s : Store) (more : Entries) : Store :=
  { s with entries := more.foldl (fun es e => es.setDefault (relaxedKey e.1) e.2) s.entries }

/-- Adds the settings of a file. What stands before a fault counts; the profile does not. -/
def load [Yaml.Loader] (s : Store) (f : SourceFile) : Store × Option Yaml.Fault :=
  let (found, fault) := fileEntries f
  let loaded := found.foldl update s
  match fault with
  | some x => (loaded, some x)
  | none => ({ loaded with profiles := loaded.profiles ++ (profileOf? f.name).toList }, none)

def contains (s : Store) (key : String) : Bool :=
  (s.entries.lookup (relaxedKey key)).isSome

/-- The value of a key, if it has one that is not empty. -/
def get? (s : Store) (key : String) : Option String :=
  (s.entries.lookup (relaxedKey key)).filter fun v => !v.isEmpty

end Store

end SpringAtlas.Settings

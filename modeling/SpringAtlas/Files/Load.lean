import SpringAtlas.Config.Basic
import SpringAtlas.Corpus.Basic
import SpringAtlas.Files.Tree

/-!
# `Files.Load` — a corpus from a directory

Sources, settings and build descriptors below a directory are read as text. A file that is not UTF-8 is skipped
and listed.
-/

namespace SpringAtlas

/-- Why a corpus cannot be loaded. -/
inductive LoadError where
  | missingRoot (path : String)
  | notADirectory (path : String)
  | config (cause : ConfigError)
deriving Repr

def LoadError.message : LoadError → String
  | missingRoot path => "Corpus root does not exist: " ++ path
  | notADirectory path => "Corpus root is not a directory: " ++ path
  | config cause => cause.message

/-- The names of directories that are not entered. -/
def AnalyzerConfig.excluded (c : AnalyzerConfig) : Except ConfigError (List String) :=
  match c.excludeDirs.find? fun v => !v.isKey with
  | some v => .error (.notComparable v)
  | none => .ok (c.excludeDirs.filterMap fun v =>
      match v with
      | .str s => some s
      | _ => none)

/-- A file that was read: a source or settings file, a descriptor, or one that could not be decoded. -/
inductive LoadedFile where
  | source (f : SourceFile)
  | descriptor (d : BuildDescriptor)
  | skipped (path : String)

/-- Whether a file is a build descriptor. -/
def isDescriptorName (name : String) : Bool :=
  (DescriptorKind.byFileName.lookup name).isSome

/-- What a file below the root is to the corpus, if anything. -/
def loadFile (extensions : List String) (path : List String) (content : ByteArray) : Option LoadedFile :=
  let name := (path.getLast?).getD ""
  let shown := "/".intercalate path
  if isDescriptorName name || extensions.contains (String.ofList (Path.suffix name.toList)) then
    match decodeText content with
    | .error _ => some (.skipped shown)
    | .ok text =>
      if isDescriptorName name then some (.descriptor (.ofFile shown text))
      else some (.source ⟨shown, text⟩)
  else none

/-- The corpus of some files that were read. -/
def corpusOfLoaded (name : String) (loaded : List LoadedFile) : Corpus :=
  Corpus.ofFiles
    (loaded.filterMap fun f => match f with | .source f => some f | _ => none)
    (loaded.filterMap fun f => match f with | .descriptor d => some d | _ => none)
    name
    (loaded.filterMap fun f => match f with | .skipped p => some p | _ => none)

/-- The corpus below a directory of a tree; `shown` is the directory's path in messages. -/
def loadCorpus (t : FileTree) (root : List String) (shown name : String) (config : AnalyzerConfig) :
    Except LoadError Corpus := do
  if !t.contains root then throw (.missingRoot shown)
  if !t.isDirectory root then throw (.notADirectory shown)
  let extensions ← config.corpusExtensions.mapError LoadError.config
  let excluded ← config.excluded.mapError LoadError.config
  return corpusOfLoaded name ((t.walk root excluded.contains).filterMap fun (path, content) =>
    loadFile extensions path content)

end SpringAtlas

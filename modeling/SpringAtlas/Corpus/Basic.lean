import SpringAtlas.Corpus.Path

/-!
# `Corpus.Basic` — the files of a code base

A corpus is an ordered collection of source files and build descriptors. Paths are normalized, and of several
files with one path the first counts.

## Contents
* `SourceFile`, `BuildDescriptor`, `DescriptorKind`
* `Corpus`, `Corpus.ofFiles` — building a corpus
* `Corpus.get?`, `Corpus.javaFiles`, `Corpus.configFiles`
-/

namespace SpringAtlas

/-- One file with its text. -/
structure SourceFile where
  path : String
  text : String
deriving Repr, BEq, DecidableEq

namespace SourceFile

def chars (f : SourceFile) : List Char :=
  f.text.toList

def name (f : SourceFile) : String :=
  String.ofList (Path.fileName f.path.toList)

def suffix (f : SourceFile) : String :=
  String.ofList (Path.suffix f.path.toList)

def isJava (f : SourceFile) : Bool :=
  f.suffix == ".java"

def isProperties (f : SourceFile) : Bool :=
  f.suffix == ".properties"

def isConfig (f : SourceFile) : Bool :=
  [".properties", ".yml", ".yaml"].contains f.suffix

def isTest (f : SourceFile) : Bool :=
  Path.isTest f.path.toList

/-- The file under its normalized path. -/
def normalized (f : SourceFile) : SourceFile :=
  { f with path := String.ofList (Path.normalize f.path.toList) }

end SourceFile

/-! ## Build descriptors -/

/-- The build tool that a descriptor is written for. -/
inductive DescriptorKind where
  | maven
  | gradle
  | gradleSettings
  /-- a descriptor nothing is read from -/
  | other (label : String)
deriving Repr, BEq, DecidableEq

namespace DescriptorKind

def label : DescriptorKind → String
  | maven => "maven"
  | gradle => "gradle"
  | gradleSettings => "gradle-settings"
  | other label => label

def ofLabel (s : String) : DescriptorKind :=
  if s == "maven" then maven
  else if s == "gradle" then gradle
  else if s == "gradle-settings" then gradleSettings
  else other s

/-- The names of build descriptors. -/
def byFileName : List (String × DescriptorKind) :=
  [("pom.xml", maven), ("build.gradle", gradle), ("build.gradle.kts", gradle),
   ("settings.gradle", gradleSettings), ("settings.gradle.kts", gradleSettings)]

/-- The kind of a descriptor with a path. -/
def ofPath (path : String) : DescriptorKind :=
  (byFileName.lookup (String.ofList (Path.fileName path.toList))).getD (other "unknown")

end DescriptorKind

/-- A build descriptor with its text. -/
structure BuildDescriptor where
  path : String
  text : String
  kind : DescriptorKind
deriving Repr, BEq, DecidableEq

namespace BuildDescriptor

/-- A descriptor whose kind goes by its file name. -/
def ofFile (path text : String) : BuildDescriptor :=
  ⟨path, text, .ofPath path⟩

/-- The directory of the descriptor, empty for the root of the corpus. -/
def directory (d : BuildDescriptor) : String :=
  String.ofList (Path.directory (Path.normalize d.path.toList))

/-- The number of parts of the path; a descriptor at the root has depth one. -/
def depth (d : BuildDescriptor) : Nat :=
  (Path.parts (Path.normalize d.path.toList)).length

/-- The descriptor under its normalized path. -/
def normalized (d : BuildDescriptor) : BuildDescriptor :=
  { d with path := String.ofList (Path.normalize d.path.toList) }

end BuildDescriptor

/-! ## Corpora -/

structure Corpus where
  files : List SourceFile
  descriptors : List BuildDescriptor
  name : String := "root"
  /-- paths that could not be read -/
  skipped : List String := []
deriving Repr, BEq, DecidableEq

/-- The first of each group of elements with one key, in order. -/
def distinctBy {α κ : Type} [BEq κ] (key : α → κ) (xs : List α) : List α :=
  xs.foldl (fun seen x => if seen.any fun y => key y == key x then seen else seen ++ [x]) []

namespace Corpus

/-- The corpus of some files and descriptors, with normalized and distinct paths. -/
def ofFiles (files : List SourceFile) (descriptors : List BuildDescriptor) (name : String)
    (skipped : List String) : Corpus :=
  { files := distinctBy SourceFile.path (files.map SourceFile.normalized)
    descriptors := distinctBy BuildDescriptor.path (descriptors.map BuildDescriptor.normalized)
    name, skipped }

/-- The file with a path. -/
def get? (c : Corpus) (path : String) : Option SourceFile :=
  c.files.find? fun f => f.path == String.ofList (Path.normalize path.toList)

def javaFiles (c : Corpus) : List SourceFile :=
  c.files.filter SourceFile.isJava

def configFiles (c : Corpus) : List SourceFile :=
  c.files.filter SourceFile.isConfig

def isEmpty (c : Corpus) : Bool :=
  c.files.isEmpty && c.descriptors.isEmpty

end Corpus

end SpringAtlas

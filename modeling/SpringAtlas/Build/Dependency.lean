import SpringAtlas.Corpus.Basic
import SpringAtlas.Json
import SpringAtlas.Pattern.Search

/-!
# `Build.Dependency` — what a build descriptor declares

Descriptors are read by patterns, in two views: the identifiers of all artifacts they name, from which the role of
a module is judged, and the dependencies they declare, which are reported.

## Contents
* `Dependency`, `Dependency.coordinates`
* `BuildDescriptor.artifactIds`, `BuildDescriptor.dependencies`
* `BuildDescriptor.declaresModules` — whether a descriptor has modules below it
-/

namespace SpringAtlas

/-- A dependency that a descriptor declares. -/
structure Dependency where
  groupId : Option String
  artifactId : String
  version : Option String := none
  scope : String := "compile"
  sourceFile : Option String := none
deriving Repr, BEq, DecidableEq

namespace Dependency

/-- The dependency as `group:artifact`, with the version behind it if there is one. -/
def coordinates (d : Dependency) : String :=
  d.groupId.getD "" ++ ":" ++ d.artifactId ++
  match d.version with
  | some v => if v.isEmpty then "" else ":" ++ v
  | none => ""

def toJson (d : Dependency) : Json :=
  .obj [("group_id", .ofOption d.groupId), ("artifact_id", .str d.artifactId),
    ("version", .ofOption d.version), ("scope", .str d.scope), ("source_file", .ofOption d.sourceFile)]

end Dependency

/-! ## Maven -/

open Pattern in
def xmlComment : Pattern :=
  lit "<!--" ++ lazyStar any ++ lit "-->"

/-- A descriptor's text without comments. -/
def withoutComments (text : List Char) : List Char :=
  xmlComment.replaceAll [] text

open Pattern in
def artifactPattern : Pattern :=
  lit "<artifactId>" ++ blanks ++ group 1 (plus (one fun c => c != '<' && !Text.isBlank c)) ++ blanks ++
  lit "</artifactId>"

open Pattern in
def dependencyBlock : Pattern :=
  lit "<dependency>" ++ group 1 (lazyStar any) ++ lit "</dependency>"

open Pattern in
def modulesPattern : Pattern :=
  lit "<modules>" ++ blanks ++ lit "<module>"

open Pattern in
def tagPattern (tag : String) : Pattern :=
  lit ("<" ++ tag ++ ">") ++ blanks ++ group 1 (lazyStar (except "<")) ++ blanks ++
  lit ("</" ++ tag ++ ">")

/-- The trimmed text of the first element with a name, if it is not empty. -/
def tagText? (block : List Char) (tag : String) : Option String :=
  ((tagPattern tag).search? block).bind fun m =>
    let text := m.group block 1
    if text.isEmpty then none else some (String.ofList text)

/-- The dependency that a block describes, if it names an artifact. -/
def mavenDependency? (path : String) (block : List Char) : Option Dependency :=
  (tagText? block "artifactId").map fun artifactId =>
    { groupId := tagText? block "groupId"
      artifactId
      version := tagText? block "version"
      scope := (tagText? block "scope").getD "compile"
      sourceFile := some path }

/-! ## Gradle -/

open Pattern in
def coordinatePart : Pattern :=
  plus (one fun c => Text.isWord c || c == '.' || c == '-')

open Pattern in
/-- Quoted coordinates: group, artifact and perhaps a version, in groups from `i` on. -/
def coordinatePattern (i : Nat) : Pattern :=
  among "'\"" ++ group i coordinatePart ++ lit ":" ++ group (i + 1) coordinatePart ++
  opt (lit ":" ++ group (i + 2) (plus (one fun c => Text.isWord c || ".$\x7b\x7d-".toList.contains c))) ++
  among "'\""

/-- The configurations that dependencies are declared in, and the scopes they stand for. -/
def gradleScopes : List (String × String) :=
  [("implementation", "compile"), ("api", "compile"), ("compile", "compile"),
   ("compileOnly", "provided"), ("runtimeOnly", "runtime"), ("runtime", "runtime"),
   ("testImplementation", "test"), ("testCompile", "test"), ("testRuntimeOnly", "test"),
   ("annotationProcessor", "provided"), ("kapt", "provided")]

open Pattern in
def gradleDependencyPattern : Pattern :=
  wordEdge ++ group 1 (oneOf (gradleScopes.map Prod.fst)) ++ blanks ++ opt (lit "(") ++ blanks ++
  coordinatePattern 2

open Pattern in
def includePattern : Pattern :=
  lineStart ++ blanks ++ lit "include" ++ blanks ++ opt (lit "(") ++ blanks ++ among "'\""

open Pattern in
def subprojectsPattern : Pattern :=
  lineStart ++ blanks ++ lit "subprojects" ++ blanks ++ lit "\x7b"

def gradleDependency (path : String) (text : List Char) (m : Match) : Dependency :=
  { groupId := some (String.ofList (m.group text 2))
    artifactId := String.ofList (m.group text 3)
    version := (m.group? text 4).map String.ofList
    scope := (gradleScopes.lookup (String.ofList (m.group text 1))).getD "compile"
    sourceFile := some path }

/-! ## Descriptors -/

namespace BuildDescriptor

/-- The identifiers of the artifacts that a descriptor names, its own and its parent's included. -/
def artifactIds (d : BuildDescriptor) : List String :=
  let found : List (List Char) := match d.kind with
    | .maven =>
      let text := withoutComments d.text.toList
      (artifactPattern.findAll text).map fun m => m.group text 1
    | .gradle =>
      let text := d.text.toList
      ((coordinatePattern 1).findAll text).map fun m => m.group text 2
    | _ => []
  Text.distinct (found.map String.ofList)

/-- The dependencies that a descriptor declares, in order. -/
def dependencies (d : BuildDescriptor) : List Dependency :=
  match d.kind with
  | .maven =>
    let text := withoutComments d.text.toList
    (dependencyBlock.findAll text).filterMap fun m => mavenDependency? d.path (m.group text 1)
  | .gradle =>
    let text := d.text.toList
    (gradleDependencyPattern.findAll text).map (gradleDependency d.path text)
  | _ => []

/-- Whether a descriptor has modules below it. -/
def declaresModules (d : BuildDescriptor) : Bool :=
  match d.kind with
  | .maven => modulesPattern.occursIn (withoutComments d.text.toList)
  | .gradle => subprojectsPattern.occursIn d.text.toList
  | .gradleSettings => includePattern.occursIn d.text.toList
  | .other _ => false

end BuildDescriptor

end SpringAtlas

import SpringAtlas.Fact.Basic
import SpringAtlas.Link.Peers
import SpringAtlas.Link.Scan
import SpringAtlas.Module.Detect
import SpringAtlas.Module.Profile
import SpringAtlas.Problem
import SpringAtlas.Settings.Module

/-!
# `Module.Map` — the services of a corpus and how they talk

The corpus is divided among its modules, each module is described from its files, and the links of all sources
are gathered. A settings file that cannot be read is recorded as a problem, and the module is described from the
rest.

## Contents
* `loadSettings` — the settings of some files, with problems
* `describeModule`, `gatewayLinks`
* `ServiceMap`, `mapServices`
-/

namespace SpringAtlas

/-! ## Describing a module -/

/-- The settings of some files, read in order, and a problem for each file that has a fault. -/
def loadSettings [Yaml.Loader] (files : List SourceFile) : Settings.Store × List Problem :=
  files.foldl (fun (store, problems) f =>
    match store.load f with
    | (store, none) => (store, problems)
    | (store, some _) =>
      (store, problems ++ [.failed "microservices" "configuration" (some f.path)])) ({}, [])

/-- The source files of a module that are not tests, with their masked texts. -/
def maskedSources (files : List SourceFile) : List (SourceFile × List Char) :=
  (files.filter fun f => f.isJava && !f.isTest).map fun f => (f, Source.mask f.chars)

/-- A text, unless it is empty. -/
def orElse (s : Option String) (other : String) : String :=
  match s with
  | some s => if s.isEmpty then other else s
  | none => other

/-- The module described from its files, its descriptor and the facts it owns. -/
def describeModule [Yaml.Loader] (m : BuildModule) (files : List SourceFile)
    (descriptor : Option BuildDescriptor) (owned : List ClassFact) : Except Yaml.Fault (BuildModule × List Problem) := do
  let sources := maskedSources files
  let (store, problems) := loadSettings (Settings.selectFiles files)
  let settings ← Settings.ofStore store
  let artifacts := (descriptor.map BuildDescriptor.artifactIds).getD []
  let profile := Profile.ofSources artifacts (sources.map Prod.snd)
  return ({ m with
      role := serviceRoleRules.classify profile
      applicationName := some (orElse settings.applicationName m.name)
      serverPort := orElse settings.serverPort "8080"
      profiles := settings.profiles
      basePackage := (entryPoint? sources).bind fun s => (Source.packageName? s.2).map String.ofList
      discoveryUrl := settings.discoveryUrl
      routes := settings.routes
      database := settings.database.or (databaseOf? artifacts)
      dependencies := artifacts
      capabilities := profile.capabilities
      classCount := owned.length
      endpointCount := (owned.flatMap ClassFact.endpoints).length }, problems)

/-- Whether a file belongs to the module with a directory. -/
def isOwnedBy (modules : List BuildModule) (m : BuildModule) (path : String) : Bool :=
  (ownerOf? modules path).any fun owner => owner.rootPath == m.rootPath

/-- The facts that count for a module: those of its files that are not tests. -/
def ownedFacts (modules : List BuildModule) (m : BuildModule) (facts : List ClassFact) : List ClassFact :=
  facts.filter fun c => !Path.isTest c.filePath.toList && isOwnedBy modules m c.filePath

/-- A module described from what belongs to it in a corpus. -/
def describeIn [Yaml.Loader] (c : Corpus) (modules : List BuildModule) (facts : List ClassFact)
    (m : BuildModule) : Except Yaml.Fault (BuildModule × List Problem) :=
  describeModule m (c.files.filter fun f => isOwnedBy modules m f.path)
    (c.descriptors.find? fun d => d.path == m.descriptorPath.getD "") (ownedFacts modules m facts)

/-! ## Links -/

/-- The links of a gateway, one for each of its routes. -/
def gatewayLinks (m : BuildModule) : List Link :=
  if m.capabilities.gateway || m.role == .apiGateway then
    m.routes.map fun r =>
      { source := m.name
        technology := .gatewayRoute
        target := (r.uri.bind fun u => serviceOfUrl? u.toList).map String.ofList
        url := r.uri
        isLoadBalanced := r.uri.any fun u => isLoadBalancedUrl u.toList
        description := "Gateway route " ++ r.id
        endpointPath := r.path? }
  else []

/-- The source files that are searched for links. -/
def linkedFiles (c : Corpus) : List SourceFile :=
  c.javaFiles.filter fun f => !f.isTest

/-- The links that the sources of a corpus show. -/
def sourceLinks (c : Corpus) (modules : List BuildModule) : List Link :=
  (linkedFiles c).flatMap fun f => scanLinks (sourceName modules f.path) f

/-! ## The map -/

/-- The modules of a corpus, the links between them, the dependencies they declare, and the facts with the
    modules they belong to. -/
structure ServiceMap where
  modules : List BuildModule := []
  links : List Link := []
  dependencies : List Dependency := []
  facts : List ClassFact := []
  problems : List Problem := []
deriving Repr, BEq

/-- The facts with the modules they belong to filled in. -/
def assignModules (modules : List BuildModule) (facts : List ClassFact) : List ClassFact :=
  facts.map fun f => f.assignModule ((ownerOf? modules f.filePath).map BuildModule.name)

/-- The service map of a corpus whose modules have been described, with their problems. -/
def ServiceMap.ofModules (c : Corpus) (detected : List BuildModule) (described : List (BuildModule × List Problem))
    (facts : List ClassFact) : ServiceMap :=
  let modules := described.map Prod.fst
  { modules
    links := resolvePeers (sourceLinks c detected ++ modules.flatMap gatewayLinks)
    dependencies := c.descriptors.flatMap BuildDescriptor.dependencies
    facts := assignModules detected facts
    problems := described.flatMap Prod.snd }

/-- The service map of a corpus whose classes have the given facts. -/
def mapServices [Yaml.Loader] (maxDepth : Int) (c : Corpus) (facts : List ClassFact) :
    Except Yaml.Fault ServiceMap := do
  let detected := detectModules maxDepth c
  return .ofModules c detected (← detected.mapM (describeIn c detected facts)) facts

end SpringAtlas

import SpringAtlas.Build.Dependency
import SpringAtlas.Module.Basic

/-!
# `Module.Detect` — the modules of a corpus

Every directory with a Maven or Gradle descriptor, down to a given depth, is a module. The root is none if its
descriptor only gathers the modules below it. A corpus without usable descriptors is one module.
-/

namespace SpringAtlas

/-- The name of a module: that of its directory, or of the corpus. -/
def moduleName (directory corpusName : String) : String :=
  if directory.isEmpty then corpusName else String.ofList (Path.fileName directory.toList)

/-- Whether a descriptor makes its directory a module. -/
def isModuleDescriptor (maxDepth : Int) (d : BuildDescriptor) : Bool :=
  (d.kind == .maven || d.kind == .gradle) && decide (d.depth ≤ maxDepth)

/-- Whether a descriptor at the root gathers the modules below it. -/
def rootAggregates (c : Corpus) : Bool :=
  c.descriptors.any fun d => d.directory.isEmpty && d.declaresModules

/-- The descriptors that make modules, the first of each directory. -/
def moduleDescriptors (maxDepth : Int) (c : Corpus) : List BuildDescriptor :=
  distinctBy BuildDescriptor.directory
    (c.descriptors.filter fun d =>
      isModuleDescriptor maxDepth d && !(d.directory.isEmpty && rootAggregates c))

/-- The one module of a corpus that declares none. -/
def implicitModule (c : Corpus) : BuildModule :=
  { name := c.name
    descriptorPath := (c.descriptors.find? fun d => d.directory.isEmpty).map BuildDescriptor.path }

/-- The modules of a corpus, in the order of their descriptors. -/
def detectModules (maxDepth : Int) (c : Corpus) : List BuildModule :=
  if c.isEmpty then []
  else
    match moduleDescriptors maxDepth c with
    | [] => [implicitModule c]
    | ds => ds.map fun d =>
        { name := moduleName d.directory c.name
          rootPath := d.directory
          descriptorPath := some d.path }

end SpringAtlas

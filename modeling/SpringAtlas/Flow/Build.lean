import SpringAtlas.Fact.Basic
import SpringAtlas.Flow.Graph
import SpringAtlas.Total

/-!
# `Flow.Build` — how data flows through an application

Classes are sorted into buckets by name and annotation. Those of the first four buckets become nodes on the four
layers, and each node is connected to every node of the next layer: a picture of how the layers depend on each
other, not of single calls. Each of the first endpoints gives a path through the first node of every layer.

## Contents
* `Bucket`, `bucketRules`
* `buildGraph` — nodes and edges
* `FlowPath`, `LayerInfo`, `FlowSummary`, `DataFlow`
* `dataFlow`
-/

namespace SpringAtlas

/-! ## Buckets -/

/-- What a class is for the flow of data. -/
inductive Bucket where
  | controller
  | service
  | repository
  | entity
  | dto
deriving Repr, BEq, DecidableEq

namespace Bucket

def label : Bucket → String
  | controller => "CONTROLLER"
  | service => "SERVICE"
  | repository => "REPOSITORY"
  | entity => "ENTITY"
  | dto => "DTO"

/-- The layer on which classes of a bucket stand; transfer objects stand on none. -/
def layer? : Bucket → Option Layer
  | controller => some .api
  | service => some .service
  | repository => some .repository
  | entity => some .entity
  | dto => none

end Bucket

/-- The bucket of a class, strongest role first. -/
def bucketRules : RuleTable ClassFact (Option Bucket) where
  rules :=
    [⟨"controller", fun c => c.name.endsWith "Controller" || c.hasAnnotation "Controller" ||
        c.hasAnnotation "RestController", some .controller⟩,
     ⟨"service", fun c => c.name.endsWith "Service" || c.hasAnnotation "Service", some .service⟩,
     ⟨"repository", fun c => c.name.endsWith "Repository" || c.hasAnnotation "Repository",
        some .repository⟩,
     ⟨"entity", fun c => c.hasAnnotation "Entity", some .entity⟩,
     ⟨"dto", fun c => ["DTO", "Dto", "Request", "Response"].any fun s => c.name.endsWith s, some .dto⟩]
  fallback := none

/-! ## Nodes and edges -/

/-- Adds the node of a class, if it stands on a layer; nodes are numbered. -/
def addClass (g : FlowGraph) (fact : ClassFact) : FlowGraph :=
  match bucketRules.classify fact with
  | none => g
  | some bucket =>
    match bucket.layer? with
    | none => g
    | some layer => g.addNode {
        id := layer.name ++ "_" ++ toString g.nodes.length
        name := fact.name
        kind := bucket.label
        className := fact.name
        layer }

/-- A connection between neighbouring layers. -/
structure LayerLink where
  source : Layer
  target : Layer
  kind : String
  label : String

def layerLinks : List LayerLink :=
  [⟨.api, .service, "CALLS", "service call"⟩, ⟨.service, .repository, "CALLS", "data access"⟩,
   ⟨.repository, .entity, "USES", "entity mapping"⟩]

/-- Adds a numbered edge between two nodes. -/
def connect (link : LayerLink) (g : FlowGraph) (ends : FlowNode × FlowNode) : Except EdgeError FlowGraph :=
  g.addEdge {
    id := "edge_" ++ toString g.edges.length
    source := ends.1.id
    target := ends.2.id
    kind := link.kind
    label := link.label }

/-- The pairs of nodes on the two layers of a link. -/
def linkedNodes (g : FlowGraph) (link : LayerLink) : List (FlowNode × FlowNode) :=
  (g.nodesIn link.source).flatMap fun a => (g.nodesIn link.target).map fun b => (a, b)

def connectLayers (g : FlowGraph) (link : LayerLink) : Except EdgeError FlowGraph :=
  (linkedNodes g link).foldlM (connect link) g

/-- The graph of some classes. -/
def buildGraph (facts : List ClassFact) : Except EdgeError FlowGraph :=
  layerLinks.foldlM connectLayers (facts.foldl addClass {})

/-! ## Paths and layers -/

/-- A path from an endpoint down the layers. -/
structure FlowPath where
  id : String
  name : String
  endpoint : String
  returnType : String
  nodes : List String
  steps : List String
deriving Repr, BEq

def FlowPath.toJson (p : FlowPath) : Json :=
  .obj [("id", .str p.id), ("name", .str p.name), ("endpoint", .str p.endpoint),
    ("return_type", .str p.returnType), ("node_ids", .ofStrings p.nodes),
    ("descriptions", .ofStrings p.steps)]

/-- What happens at a node. -/
def stepText (endpoint : String) (n : FlowNode) : String :=
  match n.layer with
  | .api => "API Endpoint: " ++ endpoint
  | .service => "Process in " ++ n.className
  | .repository => "Access data via " ++ n.className
  | .entity => "Entity: " ++ n.className

/-- The first node of each layer that has one. -/
def FlowGraph.representatives (g : FlowGraph) : List FlowNode :=
  Layer.all.filterMap fun l => (g.nodesIn l).head?

def flowPath (nodes : List FlowNode) (index : Nat) (e : Endpoint) : FlowPath :=
  { id := "path_" ++ toString index
    name := e.signature
    endpoint := e.path
    returnType := e.returnType
    nodes := nodes.map FlowNode.id
    steps := nodes.map (stepText e.path) }

/-- The paths of the first `limit` endpoints; without nodes there are none. -/
def flowPaths (g : FlowGraph) (limit : Nat) (facts : List ClassFact) : List FlowPath :=
  let nodes := g.representatives
  if nodes.isEmpty then []
  else ((facts.flatMap ClassFact.endpoints).take limit).zipIdx.map fun (e, i) => flowPath nodes i e

/-- A layer that has nodes. -/
structure LayerInfo where
  name : String
  depth : Nat
  components : List String
deriving Repr, BEq

def LayerInfo.toJson (l : LayerInfo) : Json :=
  .obj [("name", .str l.name), ("depth", .nat l.depth), ("components", .ofStrings l.components)]

def FlowGraph.layers (g : FlowGraph) : List LayerInfo :=
  (Layer.all.filter fun l => !(g.nodesIn l).isEmpty).map fun l =>
    ⟨l.title, l.depth, (g.nodesIn l).map FlowNode.className⟩

/-! ## Data flow -/

structure FlowSummary where
  controllers : Nat := 0
  services : Nat := 0
  repositories : Nat := 0
  entities : Nat := 0
  dtos : Nat := 0
  nodes : Nat := 0
  flows : Nat := 0
  layers : Nat := 0
  /-- the mean depth of the layers that have nodes, rounded down -/
  meanDepth : Nat := 0
deriving Repr, BEq

def FlowSummary.toJson (s : FlowSummary) : Json :=
  .obj [("total_controllers", .nat s.controllers), ("total_services", .nat s.services),
    ("total_repositories", .nat s.repositories), ("total_entities", .nat s.entities),
    ("total_dtos", .nat s.dtos), ("total_nodes", .nat s.nodes), ("total_flows", .nat s.flows),
    ("layer_count", .nat s.layers), ("avg_layer_depth", .nat s.meanDepth)]

/-- A graph with its paths, layers and counts. -/
structure DataFlow where
  graph : FlowGraph := {}
  paths : List FlowPath := []
  layers : List LayerInfo := []
  summary : FlowSummary := {}
deriving Repr, BEq

def DataFlow.toJson (d : DataFlow) : Json :=
  .obj [("nodes", .arr (d.graph.nodes.map FlowNode.toJson)),
    ("edges", .arr (d.graph.edges.map FlowEdge.toJson)),
    ("flow_paths", .arr (d.paths.map FlowPath.toJson)),
    ("layers", .arr (d.layers.map LayerInfo.toJson)), ("summary", d.summary.toJson)]

def bucketCount (facts : List ClassFact) (b : Bucket) : Nat :=
  facts.countP fun c => bucketRules.classify c == some b

/-- The flow of data through some classes, with at most `limit` paths. -/
def dataFlow (limit : Nat) (facts : List ClassFact) : Except EdgeError DataFlow := do
  let graph ← buildGraph facts
  let paths := flowPaths graph limit facts
  let layers := graph.layers
  return {
    graph, paths, layers
    summary := {
      controllers := bucketCount facts .controller
      services := bucketCount facts .service
      repositories := bucketCount facts .repository
      entities := bucketCount facts .entity
      dtos := bucketCount facts .dto
      nodes := graph.nodes.length
      flows := paths.length
      layers := layers.length
      meanDepth := total (layers.map LayerInfo.depth) / layers.length } }

end SpringAtlas

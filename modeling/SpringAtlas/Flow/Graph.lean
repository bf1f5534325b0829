import SpringAtlas.Json

/-!
# `Flow.Graph` — layered graphs

Nodes of a data-flow graph stand on four layers, from the HTTP interface down to the stored data, and an edge
goes from a higher layer to a deeper one. A graph keeps its nodes and edges in the order they were added.

## Contents
* `Layer`, `FlowNode`, `FlowEdge`
* `FlowGraph`, `FlowGraph.addNode`, `FlowGraph.addEdge`
-/

namespace SpringAtlas

/-- A layer of an application. -/
inductive Layer where
  | api
  | service
  | repository
  | entity
deriving Repr, BEq, DecidableEq

namespace Layer

def all : List Layer :=
  [api, service, repository, entity]

/-- The name by which nodes and messages refer to a layer. -/
def name : Layer → String
  | api => "API"
  | service => "SERVICE"
  | repository => "REPOSITORY"
  | entity => "ENTITY"

def ofName? (s : String) : Option Layer :=
  all.find? fun l => l.name == s

/-- The depth of a layer below the interface. -/
def depth : Layer → Nat
  | api => 0
  | service => 1
  | repository => 2
  | entity => 3

def title : Layer → String
  | api => "API Layer"
  | service => "Service Layer"
  | repository => "Repository Layer"
  | entity => "Entity Layer"

end Layer

/-- A class on a layer. -/
structure FlowNode where
  id : String
  name : String
  kind : String
  className : String
  layer : Layer
deriving Repr, BEq, DecidableEq

def FlowNode.toJson (n : FlowNode) : Json :=
  .obj [("id", .str n.id), ("name", .str n.name), ("node_type", .str n.kind),
    ("class_name", .str n.className), ("layer", .nat n.layer.depth)]

/-- A connection between two nodes, by their identifiers. -/
structure FlowEdge where
  id : String
  source : String
  target : String
  kind : String
  label : String
  dataType : Option String := none
deriving Repr, BEq, DecidableEq

def FlowEdge.toJson (e : FlowEdge) : Json :=
  .obj [("id", .str e.id), ("source", .str e.source), ("target", .str e.target),
    ("edge_type", .str e.kind), ("label", .str e.label), ("data_type", .ofOption e.dataType)]

/-! ## Graphs -/

/-- Nodes with distinct identifiers, and edges. -/
structure FlowGraph where
  nodes : List FlowNode := []
  edges : List FlowEdge := []
deriving Repr, BEq

/-- Why an edge is refused. -/
inductive EdgeError where
  | unknownNode (id : String)
  | notDescending (id : String) (source target : Layer)
deriving Repr, BEq, DecidableEq

def EdgeError.message : EdgeError → String
  | unknownNode id => "Edge " ++ id ++ " references an unknown node"
  | notDescending id source target =>
    "Edge " ++ id ++ " must go to a higher layer (" ++ source.name ++ " -> " ++ target.name ++ ")"

namespace FlowGraph

def node? (g : FlowGraph) (id : String) : Option FlowNode :=
  g.nodes.find? fun n => n.id == id

/-- Adds a node; one with the same identifier is replaced where it stands. -/
def addNode (g : FlowGraph) (n : FlowNode) : FlowGraph :=
  if (g.node? n.id).isSome then { g with nodes := g.nodes.map fun m => if m.id == n.id then n else m }
  else { g with nodes := g.nodes ++ [n] }

/-- Adds an edge between two nodes of the graph, if it goes down. -/
def addEdge (g : FlowGraph) (e : FlowEdge) : Except EdgeError FlowGraph :=
  match g.node? e.source, g.node? e.target with
  | some source, some target =>
    if source.layer.depth < target.layer.depth then .ok { g with edges := g.edges ++ [e] }
    else .error (.notDescending e.id source.layer target.layer)
  | _, _ => .error (.unknownNode e.id)

/-- The nodes of a layer, in order. -/
def nodesIn (g : FlowGraph) (layer : Layer) : List FlowNode :=
  g.nodes.filter fun n => n.layer == layer

end FlowGraph

end SpringAtlas

import SpringAtlas.Flow.Build
import SpringAtlas.Proofs.Outcome

/-!
# `Proofs.Flow.Graph` — the graph of some classes is closed

The nodes of the graph are made from classes, and an edge is only accepted between nodes that are there. Connecting the
layers leaves the nodes alone, so that every end of an edge is a node of the finished graph, and so is every step of a
path.
-/

namespace SpringAtlas

namespace FlowGraph

/-- The identifiers of the nodes. -/
def ids (g : FlowGraph) : List String :=
  g.nodes.map FlowNode.id

/-- Both ends of every edge are nodes. -/
def Closed (g : FlowGraph) : Prop :=
  ∀ e ∈ g.edges, e.source ∈ g.ids ∧ e.target ∈ g.ids

/-- A node that is found under an id is in the graph. -/
theorem mem_ids_of_node? {g : FlowGraph} {id : String} {n : FlowNode} (h : g.node? id = some n) : id ∈ g.ids := by
  have hid : n.id = id := by
    have hp := List.find?_some h
    simpa using hp
  exact hid ▸ List.mem_map_of_mem (List.mem_of_find?_eq_some h)

/-! ## Single additions -/

theorem mem_addNode {g : FlowGraph} {n m : FlowNode} (h : n ∈ (g.addNode m).nodes) : n ∈ g.nodes ∨ n = m := by
  unfold addNode at h
  split at h
  · -- a node with the identifier of `m` has given way to `m`
    obtain ⟨n', hn', rfl⟩ := List.mem_map.1 h
    split
    · exact Or.inr rfl
    · exact Or.inl hn'
  · simpa using h

/-- Adding a node adds no edge. -/
theorem addNode_edges (g : FlowGraph) (n : FlowNode) : (g.addNode n).edges = g.edges := by
  unfold addNode
  split <;> rfl

/-- An accepted edge goes down between two nodes, and is put behind the others. -/
theorem addEdge_eq_ok {g g' : FlowGraph} {e : FlowEdge} (h : g.addEdge e = .ok g') :
    ∃ source target, g.node? e.source = some source ∧ g.node? e.target = some target ∧
      source.layer.depth < target.layer.depth ∧ g' = { g with edges := g.edges ++ [e] } := by
  unfold addEdge at h
  split at h
  · next source target hs ht =>
    split at h
    · next hdepth =>
      cases h
      exact ⟨source, target, hs, ht, hdepth, rfl⟩
    · cases h
  · cases h

/-- An edge that is added to a closed graph leaves it closed, with the same nodes. -/
theorem addEdge_closed {g g' : FlowGraph} {e : FlowEdge} (hg : g.Closed) (h : g.addEdge e = .ok g') :
    g'.nodes = g.nodes ∧ g'.Closed := by
  obtain ⟨source, target, hs, ht, -, rfl⟩ := addEdge_eq_ok h
  refine ⟨rfl, fun e' he' => ?_⟩
  rcases List.mem_append.1 he' with he' | he'
  · exact hg e' he'
  · obtain rfl := List.mem_singleton.1 he'
    exact ⟨mem_ids_of_node? hs, mem_ids_of_node? ht⟩

theorem nodesIn_subset {g : FlowGraph} {l : Layer} {n : FlowNode} (h : n ∈ g.nodesIn l) : n ∈ g.nodes :=
  (List.mem_filter.1 h).1

/-- Representatives of layers are nodes of the graph. -/
theorem representatives_subset {g : FlowGraph} {n : FlowNode} (h : n ∈ g.representatives) : n ∈ g.nodes := by
  obtain ⟨l, -, hl⟩ := List.mem_filterMap.1 h
  exact nodesIn_subset (List.mem_of_head? hl)

end FlowGraph

/-! ## Nodes from classes -/

theorem mem_addClass {g : FlowGraph} {fact : ClassFact} {n : FlowNode} (h : n ∈ (addClass g fact).nodes) :
    n ∈ g.nodes ∨ n.className = fact.name := by
  unfold addClass at h
  split at h
  · exact Or.inl h
  · split at h
    · exact Or.inl h
    · rcases FlowGraph.mem_addNode h with h | rfl
      · exact Or.inl h
      · exact Or.inr rfl

theorem addClass_edges (g : FlowGraph) (fact : ClassFact) : (addClass g fact).edges = g.edges := by
  unfold addClass
  split
  · rfl
  · split
    · rfl
    · exact FlowGraph.addNode_edges _ _

/-- Adding classes adds no edge. -/
theorem foldl_addClass_edges (facts : List ClassFact) (g : FlowGraph) : (facts.foldl addClass g).edges = g.edges := by
  induction facts generalizing g with
  | nil => rfl
  | cons fact facts ih => rw [List.foldl_cons, ih, addClass_edges]

/-! ## Edges between layers

Connecting layers adds edges one by one, each checked against the nodes. That the nodes stay as they are is part of the
invariant, since an edge accepted early has to find its ends in the finished graph. -/

theorem connectLayers_closed {g g' : FlowGraph} {link : LayerLink} (hg : g.Closed)
    (h : connectLayers g link = .ok g') : g'.nodes = g.nodes ∧ g'.Closed := by
  refine foldlM_invariant (P := fun g₁ => g₁.nodes = g.nodes ∧ g₁.Closed) ?_ ⟨rfl, hg⟩ h
  intro g₁ g₂ ends _ hg₁ hstep
  obtain ⟨hnodes, hclosed⟩ := FlowGraph.addEdge_closed hg₁.2 hstep
  exact ⟨hnodes.trans hg₁.1, hclosed⟩

/-- **The graph of some classes is closed**, and its nodes are classes. -/
theorem buildGraph_closed {facts : List ClassFact} {g : FlowGraph} (h : buildGraph facts = .ok g) :
    (∀ n ∈ g.nodes, n.className ∈ facts.map ClassFact.name) ∧ g.Closed := by
  have hstart : (facts.foldl addClass {}).Closed := by
    intro e he
    rw [foldl_addClass_edges] at he
    simp at he
  have hinv : g.nodes = (facts.foldl addClass {}).nodes ∧ g.Closed := by
    refine foldlM_invariant (P := fun g₁ => g₁.nodes = (facts.foldl addClass {}).nodes ∧ g₁.Closed) ?_
      ⟨rfl, hstart⟩ h
    intro g₁ g₂ link _ hg₁ hstep
    obtain ⟨hnodes, hclosed⟩ := connectLayers_closed hg₁.2 hstep
    exact ⟨hnodes.trans hg₁.1, hclosed⟩
  refine ⟨fun n hn => ?_, hinv.2⟩
  rw [hinv.1] at hn
  rcases mem_foldl FlowGraph.nodes addClass mem_addClass hn with hn | ⟨fact, hfact, hname⟩
  · simp at hn
  · rw [hname]
    exact List.mem_map_of_mem hfact

/-! ## Paths -/

/-- Every path goes through the representatives of all layers. -/
theorem flowPaths_nodes {g : FlowGraph} {limit : Nat} {facts : List ClassFact} {p : FlowPath}
    (h : p ∈ flowPaths g limit facts) : p.nodes = g.representatives.map FlowNode.id := by
  dsimp only [flowPaths] at h
  split at h
  · simp at h
  · obtain ⟨e, -, rfl⟩ := List.mem_map.1 h
    rfl

/-- What the flow of data refers to: nodes stand for classes, and edges and paths lead over nodes. -/
theorem dataFlow_closed {limit : Nat} {facts : List ClassFact} {d : DataFlow} (h : dataFlow limit facts = .ok d) :
    (∀ n ∈ d.graph.nodes, n.className ∈ facts.map ClassFact.name) ∧ d.graph.Closed ∧
    ∀ p ∈ d.paths, ∀ id ∈ p.nodes, id ∈ d.graph.ids := by
  obtain ⟨g, hg, h⟩ := bind_eq_ok.1 h
  cases h
  obtain ⟨hnodes, hclosed⟩ := buildGraph_closed hg
  refine ⟨hnodes, hclosed, fun p hp id hid => ?_⟩
  rw [flowPaths_nodes hp] at hid
  obtain ⟨n, hn, rfl⟩ := List.mem_map.1 hid
  exact List.mem_map_of_mem (FlowGraph.representatives_subset hn)

end SpringAtlas

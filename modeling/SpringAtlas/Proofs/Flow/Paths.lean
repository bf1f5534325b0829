import Mathlib.Data.List.Chain
import SpringAtlas.Proofs.Flow.Shape

/-!
# `Proofs.Flow.Paths` — paths and counts agree with the graph

Every path takes the same nodes: the first one of each layer that has any, from the top down. Two of them that follow each
other have no populated layer between them, so where the populated layers are consecutive they stand on neighbouring
layers, and the graph has an edge from the one to the other. The counts of a summary are taken from the classes, from the
graph and from the list of layers; they agree because every node stands for one class and on one layer.

## Contents
* `FlowGraph.Populated`, `FlowGraph.Consecutive`, `FlowGraph.Descent` — layers and ways down
* `representatives_descent`, `Descent.isChain_leads` — the nodes of a path
* `length_flowPaths` — the number of paths
* `total_nodesIn`, `countP_isPlaced` — nodes by layer and by bucket
* `DataFlow.Agrees`, `dataFlow_agrees`
-/

namespace SpringAtlas

namespace FlowGraph

/-! ## Ways down -/

/-- Some node stands on the layer. -/
def Populated (g : FlowGraph) (l : Layer) : Prop :=
  ∃ n ∈ g.nodes, n.layer = l

instance (g : FlowGraph) : DecidablePred g.Populated := fun l =>
  inferInstanceAs (Decidable (∃ n ∈ g.nodes, n.layer = l))

/-- No layer between two populated ones is empty. -/
def Consecutive (g : FlowGraph) : Prop :=
  ∀ upper middle lower : Layer, g.Populated upper → g.Populated lower →
    upper.depth < middle.depth → middle.depth < lower.depth → g.Populated middle

/-- The first node of its layer. -/
def IsFirst (g : FlowGraph) (n : FlowNode) : Prop :=
  ∃ before after, g.nodes = before ++ n :: after ∧ ∀ m ∈ before, m.layer ≠ n.layer

/-- The first nodes of all populated layers, from the top down. -/
structure Descent (g : FlowGraph) (nodes : List FlowNode) : Prop where
  sorted : nodes.Pairwise fun a b => a.layer.depth < b.layer.depth
  mem_iff : ∀ n, n ∈ nodes ↔ g.IsFirst n

variable {g : FlowGraph}

/-- The first node of a layer is the one that no other node of the layer stands in front of. -/
theorem head?_nodesIn_eq_some {l : Layer} {n : FlowNode} :
    (g.nodesIn l).head? = some n ↔ n.layer = l ∧ g.IsFirst n := by
  rw [nodesIn, List.head?_filter, List.find?_eq_some_iff_append, beq_iff_eq]
  constructor
  · rintro ⟨rfl, before, after, hsplit, hbefore⟩
    exact ⟨rfl, before, after, hsplit, fun m hm => by simpa using hbefore m hm⟩
  · rintro ⟨rfl, before, after, hsplit, hbefore⟩
    exact ⟨rfl, before, after, hsplit, fun m hm => by simpa using hbefore m hm⟩

theorem populated_iff {l : Layer} : g.Populated l ↔ g.nodesIn l ≠ [] := by
  simp [Populated, nodesIn]

theorem Populated.exists_isFirst {l : Layer} (h : g.Populated l) : ∃ n, n.layer = l ∧ g.IsFirst n := by
  obtain ⟨n, hn⟩ := Option.ne_none_iff_exists'.1 (mt List.head?_eq_none_iff.1 (populated_iff.1 h))
  exact ⟨n, head?_nodesIn_eq_some.1 hn⟩

/-- The first node of a layer is in the graph. -/
theorem IsFirst.mem {n : FlowNode} (h : g.IsFirst n) : n ∈ g.nodes := by
  obtain ⟨before, after, hsplit, -⟩ := h
  rw [hsplit]
  exact List.mem_append_right _ List.mem_cons_self

/-- **The representatives go down the layers**, one for each layer that has nodes. -/
theorem representatives_descent (g : FlowGraph) : g.Descent g.representatives where
  sorted := by
    have hlayers : Layer.all.Pairwise fun l l' => l.depth < l'.depth := by decide
    refine List.pairwise_filterMap.2 (hlayers.imp fun hdepth a ha b hb => ?_)
    rwa [(head?_nodesIn_eq_some.1 ha).1, (head?_nodesIn_eq_some.1 hb).1]
  mem_iff n := by
    rw [representatives, List.mem_filterMap]
    constructor
    · rintro ⟨l, -, hhead⟩
      exact (head?_nodesIn_eq_some.1 hhead).2
    · intro hfirst
      refine ⟨n.layer, ?_, head?_nodesIn_eq_some.2 ⟨rfl, hfirst⟩⟩
      cases n.layer <;> decide

theorem exists_layer_between {a b : Layer} (h : a.depth + 1 < b.depth) :
    ∃ m : Layer, a.depth < m.depth ∧ m.depth < b.depth := by
  cases a with
  | api => exact ⟨.service, by decide, h⟩
  | service => exact ⟨.repository, by decide, h⟩
  | repository => exact ⟨.entity, by decide, h⟩
  | entity => cases b <;> simp [Layer.depth] at h

/-- Where the populated layers are consecutive, each step of a way down goes to the next layer. -/
theorem Descent.isChain_depth {nodes : List FlowNode} (hdown : g.Descent nodes) (hg : g.Consecutive) :
    nodes.IsChain fun a b => b.layer.depth = a.layer.depth + 1 := by
  rw [List.isChain_iff_forall_rel_of_append_cons_cons]
  intro a b before after hsplit
  have hsorted := hdown.sorted
  rw [hsplit, List.pairwise_append, List.pairwise_cons, List.pairwise_cons] at hsorted
  obtain ⟨-, ⟨ha, hb, -⟩, hbefore⟩ := hsorted
  have hab : a.layer.depth < b.layer.depth := ha b List.mem_cons_self
  by_contra hne
  obtain ⟨m, ham, hmb⟩ := exists_layer_between (a := a.layer) (b := b.layer) (by omega)
  have hpopulated : ∀ n ∈ nodes, g.Populated n.layer := fun n hn => ⟨n, ((hdown.mem_iff n).1 hn).mem, rfl⟩
  have hm : g.Populated m :=
    hg a.layer m b.layer (hpopulated a (by simp [hsplit])) (hpopulated b (by simp [hsplit])) ham hmb
  -- the first node of a layer in between would have a place in the list
  obtain ⟨c, rfl, hfirst⟩ := hm.exists_isFirst
  have hc := (hdown.mem_iff c).2 hfirst
  rw [hsplit, List.mem_append, List.mem_cons, List.mem_cons] at hc
  rcases hc with hc | rfl | rfl | hc
  · have := hbefore c hc a List.mem_cons_self
    omega
  · omega
  · omega
  · have := hb c hc
    omega

/-- Two nodes of neighbouring layers are joined, and so is a way down that leaves out no layer. -/
theorem Descent.isChain_leads {facts : List ClassFact} {nodes : List FlowNode} (hmirrors : g.Mirrors facts)
    (hdown : g.Descent nodes) (hg : g.Consecutive) : (nodes.map FlowNode.id).IsChain g.Leads := by
  rw [List.isChain_map]
  refine (hdown.isChain_depth hg).imp_of_mem_imp fun a b ha hb hdepth => ?_
  exact (hmirrors.leads_iff _ _).2
    ⟨a, ((hdown.mem_iff a).1 ha).mem, b, ((hdown.mem_iff b).1 hb).mem, rfl, rfl, hdepth⟩

theorem representatives_eq_nil_iff : g.representatives = [] ↔ g.nodes = [] := by
  constructor
  · intro hreps
    by_contra hnodes
    obtain ⟨n, hn⟩ := List.exists_mem_of_ne_nil _ hnodes
    obtain ⟨first, -, hfirst⟩ := Populated.exists_isFirst (g := g) ⟨n, hn, rfl⟩
    have hmem := ((representatives_descent g).mem_iff first).2 hfirst
    rw [hreps] at hmem
    cases hmem
  · intro hnodes
    refine List.eq_nil_iff_forall_not_mem.2 fun n hn => ?_
    have hmem := representatives_subset hn
    rw [hnodes] at hmem
    cases hmem

end FlowGraph

/-! ## Paths -/

theorem length_flowPaths (g : FlowGraph) (limit : Nat) (facts : List ClassFact) :
    (flowPaths g limit facts).length =
      if g.nodes = [] then 0 else min limit (facts.flatMap ClassFact.endpoints).length := by
  dsimp only [flowPaths]
  by_cases hnodes : g.nodes = []
  · rw [if_pos hnodes, if_pos (by simp [FlowGraph.representatives_eq_nil_iff.2 hnodes])]
    rfl
  · have hreps : g.representatives ≠ [] := mt FlowGraph.representatives_eq_nil_iff.1 hnodes
    rw [if_neg hnodes, if_neg (by simpa using hreps)]
    simp

theorem steps_of_mem_flowPaths {g : FlowGraph} {limit : Nat} {facts : List ClassFact} {p : FlowPath}
    (h : p ∈ flowPaths g limit facts) : p.steps = g.representatives.map (stepText p.endpoint) := by
  dsimp only [flowPaths] at h
  split at h
  · cases h
  · obtain ⟨e, -, rfl⟩ := List.mem_map.1 h
    rfl

/-! ## Counts -/

theorem total_map_filter {α : Type} {keep : α → Bool} {size : α → Nat} (h : ∀ a, keep a = false → size a = 0)
    (xs : List α) : total ((xs.filter keep).map size) = total (xs.map size) := by
  induction xs with
  | nil => rfl
  | cons x xs ih =>
    rw [List.map_cons, total_cons]
    cases hx : keep x with
    | true => rw [List.filter_cons_of_pos hx, List.map_cons, total_cons, ih]
    | false => rw [List.filter_cons_of_neg (by simp [hx]), ih, h x hx, Nat.zero_add]

/-- Every node stands on one layer. -/
theorem total_nodesIn (g : FlowGraph) : total (Layer.all.map fun l => (g.nodesIn l).length) = g.nodes.length := by
  obtain ⟨nodes, edges⟩ := g
  induction nodes with
  | nil => rfl
  | cons n nodes ih =>
    have hcount : ∀ l, (FlowGraph.nodesIn ⟨n :: nodes, edges⟩ l).length =
        (FlowGraph.nodesIn ⟨nodes, edges⟩ l).length + if n.layer = l then 1 else 0 := by
      intro l
      by_cases hl : n.layer = l <;> simp [FlowGraph.nodesIn, hl]
    simp only [hcount, Layer.all, List.map_cons, List.map_nil, total_cons, total_nil, List.length_cons] at ih ⊢
    cases n.layer <;> simp <;> omega

/-- Every node is a component of one layer. -/
theorem total_components (g : FlowGraph) : total (g.layers.map fun l => l.components.length) = g.nodes.length := by
  rw [FlowGraph.layers, List.map_map, ← total_nodesIn]
  have hsize : ((fun l : LayerInfo => l.components.length) ∘
      fun l => ⟨l.title, l.depth, (g.nodesIn l).map FlowNode.className⟩) = fun l : Layer => (g.nodesIn l).length := by
    funext l
    simp
  rw [hsize]
  exact total_map_filter (fun l hl => by simpa using hl) _

theorem length_layers (g : FlowGraph) : g.layers.length = Layer.all.countP fun l => g.Populated l := by
  rw [FlowGraph.layers, List.length_map, ← List.countP_eq_length_filter]
  refine List.countP_congr fun l _ => ?_
  simp [FlowGraph.populated_iff]

/-- A class on a layer is in one of four buckets. -/
theorem countP_isPlaced (facts : List ClassFact) : facts.countP ClassFact.isPlaced =
    bucketCount facts .controller + bucketCount facts .service + bucketCount facts .repository +
      bucketCount facts .entity := by
  unfold bucketCount
  induction facts with
  | nil => rfl
  | cons fact facts ih =>
    simp only [List.countP_cons, ih, ClassFact.isPlaced]
    rcases Option.eq_none_or_eq_some (bucketRules.classify fact) with hbucket | ⟨bucket, hbucket⟩
    · simp [hbucket]
    · cases bucket <;> simp [hbucket, placedBuckets] <;> omega

/-! ## Agreement -/

/-- Paths and counts agree with the graph. -/
structure DataFlow.Agrees (d : DataFlow) (limit : Nat) (facts : List ClassFact) : Prop where
  path_count : d.paths.length =
    if d.graph.nodes = [] then 0 else min limit (facts.flatMap ClassFact.endpoints).length
  path_nodes : ∀ p ∈ d.paths, ∃ nodes, d.graph.Descent nodes ∧ p.nodes = nodes.map FlowNode.id ∧
    p.steps = nodes.map (stepText p.endpoint)
  path_joined : d.graph.Consecutive → ∀ p ∈ d.paths, p.nodes.IsChain d.graph.Leads
  nodes_graph : d.summary.nodes = d.graph.nodes.length
  nodes_buckets : d.summary.nodes =
    d.summary.controllers + d.summary.services + d.summary.repositories + d.summary.entities
  nodes_layers : d.summary.nodes = total (d.layers.map fun l => l.components.length)
  flows : d.summary.flows = d.paths.length
  layers : d.summary.layers = Layer.all.countP fun l => d.graph.Populated l

/-- **Paths and counts agree with the graph.** For all classes and any limit the flow of data is built; it has as many
    paths as endpoints within the limit if the graph has a node, and none otherwise. Every path leads through the first
    node of each populated layer, from the top down and with a text for each, along edges of the graph where the populated
    layers are consecutive. The nodes are counted alike by buckets and by layers. -/
theorem dataFlow_agrees (limit : Nat) (facts : List ClassFact) :
    ∃ d, dataFlow limit facts = .ok d ∧ d.Agrees limit facts := by
  have hmirrors := mirrorGraph_mirrors facts
  have hdown := (mirrorGraph facts).representatives_descent
  have hbuckets : (mirrorGraph facts).nodes.length = bucketCount facts .controller + bucketCount facts .service +
      bucketCount facts .repository + bucketCount facts .entity := by
    rw [← countP_isPlaced, List.countP_eq_length_filter, hmirrors.nodes.length_eq]
  rw [dataFlow, buildGraph_eq]
  refine ⟨_, rfl, ?_⟩
  exact {
    path_count := length_flowPaths _ limit facts
    path_nodes := fun p hp => ⟨_, hdown, flowPaths_nodes hp, steps_of_mem_flowPaths hp⟩
    path_joined := fun hg p hp => by
      rw [flowPaths_nodes hp]
      exact hdown.isChain_leads hmirrors hg
    nodes_graph := rfl
    nodes_buckets := hbuckets
    nodes_layers := (total_components _).symm
    flows := rfl
    layers := length_layers _ }

end SpringAtlas

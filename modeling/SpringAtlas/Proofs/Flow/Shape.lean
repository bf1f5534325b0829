import Mathlib.Data.List.Nodup
import Mathlib.Data.List.ProdSigma
import SpringAtlas.Proofs.Flow.Layering

/-!
# `Proofs.Flow.Shape` — the shape of the graph of some classes

A node is numbered by how many nodes there are, so no number is given twice and no node gives way to another one: the
nodes are the classes that stand on a layer, one by one and in order, whatever names the classes have. An identifier
therefore leads back to its own node, the edge between two nodes of neighbouring layers is always accepted, and the edges
are the pairs of such nodes, numbered in turn.

## Contents
* `Placement`, `nodes_foldl_addClass` — the nodes
* `connect_eq_ok`, `foldlM_connectLayers`, `buildGraph_eq` — the edges
* `FlowGraph.Mirrors`, `mirrorGraph_mirrors`, `dataFlow_mirrors` — the shape
-/

namespace SpringAtlas

deriving instance ReflBEq, LawfulBEq for Layer, Bucket

/-! ## Placements -/

/-- A class with its bucket and the layer it stands on. -/
structure Placement where
  fact : ClassFact
  bucket : Bucket
  layer : Layer

/-- Where a class stands, if it stands on a layer. -/
def placement? (fact : ClassFact) : Option Placement :=
  (bucketRules.classify fact).bind fun bucket => bucket.layer?.map fun layer => ⟨fact, bucket, layer⟩

/-- The identifier of a node. -/
def nodeId (layer : Layer) (number : Nat) : String :=
  layer.name ++ "_" ++ toString number

/-- The node of a class, under a number. -/
def Placement.node (p : Placement) (number : Nat) : FlowNode where
  id := nodeId p.layer number
  name := p.fact.name
  kind := p.bucket.label
  className := p.fact.name
  layer := p.layer

theorem placement?_eq_some {fact : ClassFact} {p : Placement} (h : placement? fact = some p) :
    p.fact = fact ∧ bucketRules.classify fact = some p.bucket ∧ p.bucket.layer? = some p.layer := by
  obtain ⟨bucket, hbucket, h⟩ := Option.bind_eq_some_iff.1 h
  obtain ⟨layer, hlayer, rfl⟩ := Option.map_eq_some_iff.1 h
  exact ⟨rfl, hbucket, hlayer⟩

theorem addClass_eq (g : FlowGraph) (fact : ClassFact) :
    addClass g fact = match placement? fact with
      | none => g
      | some p => g.addNode (p.node g.nodes.length) := by
  unfold addClass placement?
  cases bucketRules.classify fact with
  | none => rfl
  | some bucket =>
    dsimp only [Option.bind_some]
    cases bucket.layer? with
    | none => rfl
    | some layer => rfl

/-! ## Numbers -/

/-- A number is read back from the end of a name. -/
theorem numbered_inj {text : String} {m n : Nat} (h : text ++ toString m = text ++ toString n) : m = n := by
  have hlist := congrArg String.toList h
  rw [String.toList_append, String.toList_append] at hlist
  have hdigits := congrArg (Nat.ofDigitChars 10 · 0) (List.append_cancel_left hlist)
  simpa [Nat.toString_eq_ofList_toDigits] using hdigits

/-- The names of layers start with different letters, so that an identifier tells its number. -/
theorem nodeId_inj {l l' : Layer} {m n : Nat} (h : nodeId l m = nodeId l' n) : m = n := by
  have hl : l = l' := by
    have hlist := congrArg String.toList h
    cases l <;> cases l' <;> first | rfl | simp [nodeId, Layer.name] at hlist
  subst hl
  exact numbered_inj h

/-- Names that tell their numbers are distinct. -/
theorem nodup_map_zipIdx {α β : Type} {name : α × Nat → β} (hname : ∀ p q, name p = name q → p.2 = q.2) (xs : List α)
    (k : Nat) : ((xs.zipIdx k).map name).Nodup := by
  have hnumbers : ((xs.zipIdx k).map Prod.snd).Nodup := by
    rw [List.zipIdx_map_snd]
    exact List.nodup_range'
  exact List.pairwise_map.2 ((List.pairwise_map.1 hnumbers).imp fun hne heq => hne (hname _ _ heq))

/-! ## Nodes -/

/-- The nodes of some classes. -/
def numberedNodes (facts : List ClassFact) : List FlowNode :=
  (facts.filterMap placement?).zipIdx.map fun p => p.1.node p.2

theorem nodup_ids_numberedNodes (facts : List ClassFact) : ((numberedNodes facts).map FlowNode.id).Nodup := by
  rw [numberedNodes, List.map_map]
  exact nodup_map_zipIdx (fun p q h => nodeId_inj h) _ 0

namespace FlowGraph

theorem nodes_addNode_of_not_mem {g : FlowGraph} {n : FlowNode} (h : n.id ∉ g.ids) :
    (g.addNode n).nodes = g.nodes ++ [n] := by
  have hfree : ¬ (g.node? n.id).isSome := fun hsome => h (mem_ids_iff.2 (Option.isSome_iff_exists.1 hsome))
  rw [addNode, if_neg hfree]

/-- Where identifiers are distinct, a node is found under its own. -/
theorem node?_id {g : FlowGraph} (hids : g.ids.Nodup) {n : FlowNode} (hn : n ∈ g.nodes) : g.node? n.id = some n := by
  obtain ⟨m, hm⟩ := mem_ids_iff.1 (List.mem_map_of_mem (f := FlowNode.id) hn)
  have hid : m.id = n.id := by simpa using List.find?_some hm
  rw [hm, List.inj_on_of_nodup_map hids (List.mem_of_find?_eq_some hm) hn hid]

end FlowGraph

/-- **The nodes are the classes on layers**, in order. -/
theorem nodes_foldl_addClass (facts : List ClassFact) : (facts.foldl addClass {}).nodes = numberedNodes facts := by
  induction facts using List.reverseRecOn with
  | nil => rfl
  | append_singleton facts fact ih =>
    rw [List.foldl_append, List.foldl_cons, List.foldl_nil, addClass_eq]
    cases hp : placement? fact with
    | none =>
      dsimp only
      rw [ih, numberedNodes, numberedNodes, List.filterMap_append]
      simp [hp]
    | some p =>
      have hnodes : numberedNodes (facts ++ [fact]) =
          numberedNodes facts ++ [p.node (numberedNodes facts).length] := by
        simp [numberedNodes, hp, List.zipIdx_append]
      dsimp only
      rw [hnodes, FlowGraph.nodes_addNode_of_not_mem, ih]
      -- the new identifier would be a second one in a list without repetitions
      have hnodup := nodup_ids_numberedNodes (facts ++ [fact])
      rw [hnodes, List.map_append, List.map_singleton, ← List.concat_eq_append, List.nodup_concat] at hnodup
      rw [FlowGraph.ids, ih]
      exact hnodup.1

/-! ## Edges -/

/-- The edge of a link between two nodes, under a number. -/
def LayerLink.edge (link : LayerLink) (ends : FlowNode × FlowNode) (number : Nat) : FlowEdge where
  id := "edge_" ++ toString number
  source := ends.1.id
  target := ends.2.id
  kind := link.kind
  label := link.label

/-- The pairs of nodes that some links connect. -/
def spanned (g : FlowGraph) (links : List LayerLink) : List (LayerLink × FlowNode × FlowNode) :=
  links.flatMap fun link => (linkedNodes g link).map fun ends => (link, ends)

section Edges

variable {g : FlowGraph}

/-- An edge down between two nodes is accepted, and gets the next number. -/
theorem connect_eq_ok (hids : g.ids.Nodup) (link : LayerLink) {a b : FlowNode} (ha : a ∈ g.nodes) (hb : b ∈ g.nodes)
    (hdepth : a.layer.depth < b.layer.depth) :
    connect link g (a, b) = .ok { g with edges := g.edges ++ [link.edge (a, b) g.edges.length] } := by
  show g.addEdge (link.edge (a, b) g.edges.length) = _
  unfold FlowGraph.addEdge
  have hsource : g.node? (link.edge (a, b) g.edges.length).source = some a := FlowGraph.node?_id hids ha
  have htarget : g.node? (link.edge (a, b) g.edges.length).target = some b := FlowGraph.node?_id hids hb
  rw [hsource, htarget]
  exact if_pos hdepth

theorem foldlM_connect (hids : g.ids.Nodup) (link : LayerLink) {pairs : List (FlowNode × FlowNode)}
    (hpairs : ∀ ends ∈ pairs, ends.1 ∈ g.nodes ∧ ends.2 ∈ g.nodes ∧ ends.1.layer.depth < ends.2.layer.depth) :
    pairs.foldlM (connect link) g =
      .ok { g with edges := g.edges ++ (pairs.zipIdx g.edges.length).map fun p => link.edge p.1 p.2 } := by
  induction pairs generalizing g with
  | nil => simp [pure, Except.pure]
  | cons ends pairs ih =>
    obtain ⟨ha, hb, hdepth⟩ := hpairs ends List.mem_cons_self
    rw [List.foldlM_cons, connect_eq_ok hids link ha hb hdepth]
    have hrest := ih (g := ⟨g.nodes, g.edges ++ [link.edge ends g.edges.length]⟩) hids
      fun ends' h => hpairs ends' (List.mem_cons_of_mem _ h)
    refine hrest.trans ?_
    simp

theorem mem_linkedNodes {link : LayerLink} {ends : FlowNode × FlowNode} :
    ends ∈ linkedNodes g link ↔ (ends.1 ∈ g.nodes ∧ ends.1.layer = link.source) ∧
      ends.2 ∈ g.nodes ∧ ends.2.layer = link.target := by
  have hin : ∀ (n : FlowNode) (l : Layer), n ∈ g.nodesIn l ↔ n ∈ g.nodes ∧ n.layer = l := by
    intro n l
    simp [FlowGraph.nodesIn]
  rw [← hin, ← hin]
  exact List.mem_product

/-- Links that lead down are connected in turn, pair by pair. -/
theorem foldlM_connectLayers (hids : g.ids.Nodup) {links : List LayerLink}
    (hlinks : ∀ link ∈ links, link.source.depth < link.target.depth) :
    links.foldlM connectLayers g = .ok { g with
      edges := g.edges ++ ((spanned g links).zipIdx g.edges.length).map fun p => p.1.1.edge p.1.2 p.2 } := by
  induction links generalizing g with
  | nil => simp [spanned, pure, Except.pure]
  | cons link links ih =>
    have hpairs : ∀ ends ∈ linkedNodes g link,
        ends.1 ∈ g.nodes ∧ ends.2 ∈ g.nodes ∧ ends.1.layer.depth < ends.2.layer.depth := by
      intro ends h
      obtain ⟨⟨ha, hsource⟩, hb, htarget⟩ := mem_linkedNodes.1 h
      refine ⟨ha, hb, ?_⟩
      rw [hsource, htarget]
      exact hlinks link List.mem_cons_self
    rw [List.foldlM_cons, connectLayers, foldlM_connect hids link hpairs]
    -- the nodes have not changed, so the other links see the pairs they saw before
    have hrest := ih
      (g := ⟨g.nodes, g.edges ++ ((linkedNodes g link).zipIdx g.edges.length).map fun p => link.edge p.1 p.2⟩) hids
      fun link' h => hlinks link' (List.mem_cons_of_mem _ h)
    refine hrest.trans ?_
    simp [spanned, linkedNodes, FlowGraph.nodesIn, List.zipIdx_append, List.zipIdx_map]

end Edges

/-- The graph that the classes of a list make. -/
def mirrorGraph (facts : List ClassFact) : FlowGraph :=
  let nodes : FlowGraph := { nodes := numberedNodes facts }
  { nodes with edges := (spanned nodes layerLinks).zipIdx.map fun p => p.1.1.edge p.1.2 p.2 }

/-- **No edge is refused**, and the graph is known. -/
theorem buildGraph_eq (facts : List ClassFact) : buildGraph facts = .ok (mirrorGraph facts) := by
  have hstart : facts.foldl addClass {} = { nodes := numberedNodes facts } := by
    have hnodes := nodes_foldl_addClass facts
    have hedges := foldl_addClass_edges facts {}
    cases h : facts.foldl addClass {} with
    | mk nodes edges =>
      rw [h] at hnodes hedges
      exact congrArg₂ FlowGraph.mk hnodes hedges
  have hids : ({ nodes := numberedNodes facts } : FlowGraph).ids.Nodup := nodup_ids_numberedNodes facts
  have hdown : ∀ link ∈ layerLinks, link.source.depth < link.target.depth := by decide
  rw [buildGraph, hstart, foldlM_connectLayers hids hdown]
  rfl

/-! ## Shape -/

/-- The buckets whose classes stand on a layer. -/
def placedBuckets : List Bucket :=
  [.controller, .service, .repository, .entity]

def ClassFact.isPlaced (fact : ClassFact) : Bool :=
  (bucketRules.classify fact).any placedBuckets.contains

/-- A node stands for a class: it has its name, and the kind and the layer of its bucket. -/
structure FlowNode.StandsFor (n : FlowNode) (fact : ClassFact) : Prop where
  name : n.name = fact.name
  className : n.className = fact.name
  bucket : ∃ b, bucketRules.classify fact = some b ∧ n.kind = b.label ∧ b.layer? = some n.layer

/-- A graph mirrors some classes: its nodes are the classes on layers, and its edges lead from each node to every node of
    the next layer, once each. -/
structure FlowGraph.Mirrors (g : FlowGraph) (facts : List ClassFact) : Prop where
  nodes : List.Forall₂ (fun fact n => n.StandsFor fact) (facts.filter ClassFact.isPlaced) g.nodes
  ids_nodup : g.ids.Nodup
  leads_iff : ∀ source target, g.Leads source target ↔
    ∃ a ∈ g.nodes, ∃ b ∈ g.nodes, a.id = source ∧ b.id = target ∧ b.layer.depth = a.layer.depth + 1
  ends_nodup : (g.edges.map fun e => (e.source, e.target)).Nodup
  edgeIds_nodup : (g.edges.map FlowEdge.id).Nodup
  edge_count : g.edges.length =
    (g.nodesIn .api).length * (g.nodesIn .service).length +
    (g.nodesIn .service).length * (g.nodesIn .repository).length +
    (g.nodesIn .repository).length * (g.nodesIn .entity).length

theorem placement?_isSome (fact : ClassFact) : (placement? fact).isSome = fact.isPlaced := by
  unfold placement? ClassFact.isPlaced
  cases bucketRules.classify fact with
  | none => rfl
  | some bucket => cases bucket <;> rfl

theorem standsFor_node {fact : ClassFact} {p : Placement} (h : placement? fact = some p) (number : Nat) :
    (p.node number).StandsFor fact := by
  obtain ⟨rfl, hbucket, hlayer⟩ := placement?_eq_some h
  exact ⟨rfl, rfl, p.bucket, hbucket, rfl, hlayer⟩

theorem forall₂_standsFor (facts : List ClassFact) (k : Nat) :
    List.Forall₂ (fun fact n => n.StandsFor fact) (facts.filter ClassFact.isPlaced)
      (((facts.filterMap placement?).zipIdx k).map fun p => p.1.node p.2) := by
  induction facts generalizing k with
  | nil => exact .nil
  | cons fact facts ih =>
    have hplaced := placement?_isSome fact
    cases hp : placement? fact with
    | none =>
      rw [hp] at hplaced
      rw [List.filterMap_cons_none hp, List.filter_cons_of_neg (by simp [← hplaced])]
      exact ih k
    | some p =>
      rw [hp] at hplaced
      rw [List.filterMap_cons_some hp, List.filter_cons_of_pos (by simp [← hplaced])]
      exact .cons (standsFor_node hp k) (ih (k + 1))

/-- The links join each layer to the next one. -/
theorem exists_layerLink_iff (source target : Layer) :
    (∃ link ∈ layerLinks, source = link.source ∧ target = link.target) ↔ target.depth = source.depth + 1 := by
  cases source <;> cases target <;> simp [layerLinks, Layer.depth]

theorem mem_spanned {g : FlowGraph} {links : List LayerLink} {link : LayerLink} {ends : FlowNode × FlowNode} :
    (link, ends) ∈ spanned g links ↔ link ∈ links ∧ ends ∈ linkedNodes g link := by
  simp [spanned]

section Mirrors

variable (facts : List ClassFact)

/-- The edges of the graph stand for the pairs that the links span. -/
theorem map_edges_mirrorGraph {β : Type} (view : FlowEdge → β) :
    (mirrorGraph facts).edges.map view =
      (spanned (mirrorGraph facts) layerLinks).zipIdx.map fun p => view (p.1.1.edge p.1.2 p.2) := by
  show List.map view (List.map _ _) = _
  rw [List.map_map]
  rfl

theorem ends_mirrorGraph : ((mirrorGraph facts).edges.map fun e => (e.source, e.target)) =
    (spanned (mirrorGraph facts) layerLinks).map fun p => (p.2.1.id, p.2.2.id) := by
  rw [map_edges_mirrorGraph]
  show (_ : List (_ × Nat)).map ((fun p : LayerLink × FlowNode × FlowNode => (p.2.1.id, p.2.2.id)) ∘ Prod.fst) = _
  rw [← List.map_map, List.zipIdx_map_fst]

theorem leads_mirrorGraph_iff (source target : String) : (mirrorGraph facts).Leads source target ↔
    ∃ a ∈ (mirrorGraph facts).nodes, ∃ b ∈ (mirrorGraph facts).nodes,
      a.id = source ∧ b.id = target ∧ b.layer.depth = a.layer.depth + 1 := by
  have hends : (mirrorGraph facts).Leads source target ↔
      (source, target) ∈ (mirrorGraph facts).edges.map fun e => (e.source, e.target) := by
    simp [FlowGraph.Leads]
  rw [hends, ends_mirrorGraph, List.mem_map]
  constructor
  · rintro ⟨⟨link, a, b⟩, hspan, heq⟩
    obtain ⟨hlink, hab⟩ := mem_spanned.1 hspan
    obtain ⟨⟨ha, hsource⟩, hb, htarget⟩ := mem_linkedNodes.1 hab
    obtain ⟨rfl, rfl⟩ := Prod.mk.inj heq
    exact ⟨a, ha, b, hb, rfl, rfl, (exists_layerLink_iff _ _).1 ⟨link, hlink, hsource, htarget⟩⟩
  · rintro ⟨a, ha, b, hb, rfl, rfl, hdepth⟩
    obtain ⟨link, hlink, hsource, htarget⟩ := (exists_layerLink_iff _ _).2 hdepth
    exact ⟨(link, a, b), mem_spanned.2 ⟨hlink, mem_linkedNodes.2 ⟨⟨ha, hsource⟩, hb, htarget⟩⟩, rfl⟩

/-- Two links start from different layers, so no pair is spanned twice. -/
theorem nodup_spanned {g : FlowGraph} (hids : g.ids.Nodup) :
    ((spanned g layerLinks).map fun p => (p.2.1.id, p.2.2.id)).Nodup := by
  have hnodes : g.nodes.Nodup := hids.of_map FlowNode.id
  have hpairs : (layerLinks.flatMap (linkedNodes g)).Nodup := by
    refine List.nodup_flatMap.2 ⟨fun link _ => (hnodes.filter _).product (hnodes.filter _), ?_⟩
    have hsources : layerLinks.Pairwise fun link link' => link.source ≠ link'.source := by decide
    refine hsources.imp fun hne ends h h' => hne ?_
    exact (mem_linkedNodes.1 h).1.2.symm.trans (mem_linkedNodes.1 h').1.2
  have hspan : (spanned g layerLinks).map Prod.snd = layerLinks.flatMap (linkedNodes g) := by
    simp [spanned, List.map_flatMap, Function.comp_def]
  have hmap : ((spanned g layerLinks).map fun p => (p.2.1.id, p.2.2.id)) =
      (layerLinks.flatMap (linkedNodes g)).map fun ends => (ends.1.id, ends.2.id) := by
    rw [← hspan, List.map_map]
    rfl
  rw [hmap]
  refine hpairs.map_on fun x hx y hy heq => ?_
  obtain ⟨link, -, hx⟩ := List.mem_flatMap.1 hx
  obtain ⟨link', -, hy⟩ := List.mem_flatMap.1 hy
  obtain ⟨⟨hx₁, -⟩, hx₂, -⟩ := mem_linkedNodes.1 hx
  obtain ⟨⟨hy₁, -⟩, hy₂, -⟩ := mem_linkedNodes.1 hy
  obtain ⟨h₁, h₂⟩ := Prod.mk.inj heq
  exact Prod.ext (List.inj_on_of_nodup_map hids hx₁ hy₁ h₁) (List.inj_on_of_nodup_map hids hx₂ hy₂ h₂)

theorem length_linkedNodes (g : FlowGraph) (link : LayerLink) :
    (linkedNodes g link).length = (g.nodesIn link.source).length * (g.nodesIn link.target).length :=
  List.length_product _ _

/-- **The graph that is made of the facts alone mirrors them.** -/
theorem mirrorGraph_mirrors : (mirrorGraph facts).Mirrors facts where
  nodes := forall₂_standsFor facts 0
  ids_nodup := nodup_ids_numberedNodes facts
  leads_iff := leads_mirrorGraph_iff facts
  ends_nodup := by
    rw [ends_mirrorGraph]
    exact nodup_spanned (nodup_ids_numberedNodes facts)
  edgeIds_nodup := by
    rw [map_edges_mirrorGraph]
    exact nodup_map_zipIdx (fun p q h => numbered_inj h) _ 0
  edge_count := by
    have hlength := congrArg List.length (ends_mirrorGraph facts)
    rw [List.length_map, List.length_map] at hlength
    rw [hlength]
    simp [spanned, layerLinks, length_linkedNodes, Nat.add_assoc]

end Mirrors

/-- **The graph of some classes has exactly the shape of its layers.** For all classes, names repeated or not, the flow of
    data is built without an edge being refused. The nodes of its graph are the classes on layers, one by one and in
    order, with distinct identifiers, and its edges lead from each node to every node of the next layer, once each and
    with distinct identifiers, and nowhere else. -/
theorem dataFlow_mirrors (limit : Nat) (facts : List ClassFact) :
    ∃ d, dataFlow limit facts = .ok d ∧ d.graph.Mirrors facts := by
  rw [dataFlow, buildGraph_eq]
  exact ⟨_, rfl, mirrorGraph_mirrors facts⟩

end SpringAtlas

import Mathlib.Data.List.Induction
import Mathlib.Logic.Relation
import SpringAtlas.Proofs.Flow.Graph

/-!
# `Proofs.Flow.Layering` — when a graph under construction is layered

An edge is checked once, when it is added: its ends are nodes by then, and it goes down. A node is not checked, and one
under an identifier that is taken gives way to the new one. So a graph that is built call by call always has the ends of
its edges among its nodes, but an edge may stop going down when one of its ends is placed again on another layer.

Two views say what a graph holds after any calls: under an identifier stands the node that was placed there last
(`node?_run`), and the edges are those that went down when they were added (`mem_edges_run`). The exact condition for a
layered graph is read off the two.

## Contents
* `GraphCall`, `FlowGraph.run` — the graphs that calls lead to
* `node?_addNode`, `addEdge_eq_error_iff`, `step_closed` — one call
* `placed`, `node?_run`, `mem_edges_run`, `run_closed` — any number of calls
* `Layered`, `Layered.acyclic`, `run_layered_iff` — the condition, and calls that miss it
-/

namespace SpringAtlas

/-- A call on a graph under construction. -/
inductive GraphCall where
  | addNode (n : FlowNode)
  | addEdge (e : FlowEdge)
deriving Repr, DecidableEq

/-- The node that a call places. -/
def GraphCall.node? : GraphCall → Option FlowNode
  | addNode n => some n
  | addEdge _ => none

/-- The ends of an edge are nodes, and the edge goes down from the one to the other. -/
def FlowEdge.Descends (e : FlowEdge) (node? : String → Option FlowNode) : Prop :=
  ∃ source target, node? e.source = some source ∧ node? e.target = some target ∧
    source.layer.depth < target.layer.depth

namespace FlowGraph

/-- The graph after a call; a refused edge leaves it as it is. -/
def step (g : FlowGraph) : GraphCall → FlowGraph
  | .addNode n => g.addNode n
  | .addEdge e =>
    match g.addEdge e with
    | .ok g' => g'
    | .error _ => g

/-- The graph that some calls make of the empty one. -/
def run (calls : List GraphCall) : FlowGraph :=
  calls.foldl step {}

theorem run_concat (calls : List GraphCall) (c : GraphCall) : run (calls ++ [c]) = (run calls).step c := by
  rw [run, List.foldl_append]
  rfl

/-! ## One call -/

/-- A node that is added is found under its id in place of the one before. -/
theorem node?_addNode (g : FlowGraph) (n : FlowNode) (id : String) :
    (g.addNode n).node? id = if n.id = id then some n else g.node? id := by
  unfold addNode
  split
  · next htaken =>
    obtain ⟨m, hm⟩ := Option.isSome_iff_exists.1 htaken
    have hmid : m.id = n.id := by simpa using List.find?_some hm
    dsimp only [node?]
    rw [List.find?_map]
    by_cases hid : n.id = id
    · -- the node found under the identifier is the one that gives way
      subst hid
      have hsame : ((fun k : FlowNode => k.id == n.id) ∘ fun k => if k.id == n.id then n else k) =
          fun k : FlowNode => k.id == n.id := by
        funext k
        by_cases hk : k.id = n.id <;> simp [hk]
      rw [hsame, if_pos rfl]
      have hfind : g.nodes.find? (fun k => k.id == n.id) = some m := hm
      simp [hfind, hmid]
    · have hsame : ((fun k : FlowNode => k.id == id) ∘ fun k => if k.id == n.id then n else k) =
          fun k : FlowNode => k.id == id := by
        funext k
        by_cases hk : k.id = n.id <;> simp [hk]
      rw [hsame, if_neg hid]
      cases hfound : g.nodes.find? fun k => k.id == id with
      | none => rfl
      | some k =>
        have hk : k.id = id := by simpa using List.find?_some hfound
        have hne : k.id ≠ n.id := fun h => hid (h.symm.trans hk)
        simp [hne]
  · next hfree =>
    have hnone : g.node? n.id = none := by simpa using hfree
    dsimp only [node?] at hnone ⊢
    rw [List.find?_append]
    by_cases hid : n.id = id
    · subst hid
      simp [hnone]
    · simp [hid]

/-- The ids of a graph are those under which a node is found. -/
theorem mem_ids_iff {g : FlowGraph} {id : String} : id ∈ g.ids ↔ ∃ n, g.node? id = some n := by
  constructor
  · intro h
    obtain ⟨n, hn, rfl⟩ := List.mem_map.1 h
    exact Option.isSome_iff_exists.1 (List.find?_isSome.2 ⟨n, hn, by simp⟩)
  · rintro ⟨n, hn⟩
    exact mem_ids_of_node? hn

/-- An edge is refused exactly if it does not go down between two nodes. -/
theorem addEdge_eq_error_iff {g : FlowGraph} {e : FlowEdge} :
    (∃ error, g.addEdge e = .error error) ↔ ¬ e.Descends g.node? := by
  constructor
  · rintro ⟨error, herror⟩ ⟨source, target, hs, ht, hdepth⟩
    rw [addEdge, hs, ht] at herror
    simp [hdepth] at herror
  · intro hnot
    cases h : g.addEdge e with
    | error error => exact ⟨error, rfl⟩
    | ok g' =>
      obtain ⟨source, target, hs, ht, hdepth, -⟩ := addEdge_eq_ok h
      exact absurd ⟨source, target, hs, ht, hdepth⟩ hnot

theorem step_of_error {g : FlowGraph} {e : FlowEdge} {error : EdgeError} (h : g.addEdge e = .error error) :
    g.step (.addEdge e) = g := by
  rw [step, h]

/-- An edge between known nodes of descending layers is added. -/
theorem step_of_descends {g : FlowGraph} {e : FlowEdge} (h : e.Descends g.node?) :
    g.step (.addEdge e) = { g with edges := g.edges ++ [e] } := by
  obtain ⟨source, target, hs, ht, hdepth⟩ := h
  rw [step, addEdge, hs, ht]
  simp [hdepth]

/-- Any other edge leaves the graph as it is. -/
theorem step_of_not_descends {g : FlowGraph} {e : FlowEdge} (h : ¬ e.Descends g.node?) :
    g.step (.addEdge e) = g := by
  obtain ⟨error, herror⟩ := addEdge_eq_error_iff.2 h
  exact step_of_error herror

theorem step_closed {g : FlowGraph} (hg : g.Closed) (c : GraphCall) : (g.step c).Closed := by
  cases c with
  | addNode n =>
    -- an identifier that is taken stays taken
    have hids : ∀ id ∈ g.ids, id ∈ (g.addNode n).ids := by
      intro id hid
      rw [mem_ids_iff] at hid ⊢
      rw [node?_addNode]
      split
      · exact ⟨n, rfl⟩
      · exact hid
    intro e he
    rw [step, addNode_edges] at he
    exact (hg e he).imp (hids _) (hids _)
  | addEdge e =>
    cases h : g.addEdge e with
    | error error => rwa [step_of_error h]
    | ok g' =>
      rw [step, h]
      exact (addEdge_closed hg h).2

/-! ## Any number of calls -/

/-- The node that was placed last under an identifier. -/
def placed (calls : List GraphCall) (id : String) : Option FlowNode :=
  (calls.filterMap GraphCall.node?).reverse.find? fun n => n.id == id

theorem placed_append (calls more : List GraphCall) (id : String) :
    placed (calls ++ more) id = (placed more id).or (placed calls id) := by
  rw [placed, List.filterMap_append, List.reverse_append, List.find?_append]
  rfl

theorem mem_of_placed {calls : List GraphCall} {id : String} {n : FlowNode} (h : placed calls id = some n) :
    .addNode n ∈ calls ∧ n.id = id := by
  have hmem := List.mem_of_find?_eq_some h
  rw [List.mem_reverse] at hmem
  obtain ⟨c, hc, hcn⟩ := List.mem_filterMap.1 hmem
  cases c with
  | addNode m =>
    cases hcn
    exact ⟨hc, by simpa using List.find?_some h⟩
  | addEdge e => cases hcn

/-- **The node that was placed last stands in the graph.** -/
theorem node?_run (calls : List GraphCall) : (run calls).node? = placed calls := by
  induction calls using List.reverseRecOn with
  | nil => rfl
  | append_singleton calls c ih =>
    funext id
    rw [run_concat, placed_append, ← ih]
    cases c with
    | addNode n =>
      rw [step, node?_addNode]
      by_cases hid : n.id = id <;> simp [placed, GraphCall.node?, hid]
    | addEdge e =>
      have hnone : placed [.addEdge e] id = none := rfl
      rw [hnone, Option.none_or]
      by_cases h : e.Descends (run calls).node?
      · rw [step_of_descends h]
        rfl
      · rw [step_of_not_descends h]

/-- **The edges are those that went down when they were added.** -/
theorem mem_edges_run {calls : List GraphCall} {e : FlowEdge} :
    e ∈ (run calls).edges ↔
      ∃ before after, calls = before ++ .addEdge e :: after ∧ e.Descends (placed before) := by
  induction calls using List.reverseRecOn with
  | nil => simp [run]
  | append_singleton calls c ih =>
    -- the call that added the edge is the last one or one before it
    have hsplit : (∃ before after, calls ++ [c] = before ++ .addEdge e :: after ∧ e.Descends (placed before)) ↔
        (∃ before after, calls = before ++ .addEdge e :: after ∧ e.Descends (placed before)) ∨
          (c = .addEdge e ∧ e.Descends (placed calls)) := by
      constructor
      · rintro ⟨before, after, he, hdown⟩
        rcases List.eq_nil_or_concat after with rfl | ⟨after, last, rfl⟩
        · obtain ⟨rfl, hlast⟩ := List.append_inj' he rfl
          cases hlast
          exact Or.inr ⟨rfl, hdown⟩
        · have he' : calls ++ [c] = (before ++ .addEdge e :: after) ++ [last] := by simpa using he
          obtain ⟨rfl, -⟩ := List.append_inj' he' rfl
          exact Or.inl ⟨before, after, rfl, hdown⟩
      · rintro (⟨before, after, rfl, hdown⟩ | ⟨rfl, hdown⟩)
        · exact ⟨before, after ++ [c], by simp, hdown⟩
        · exact ⟨calls, [], rfl, hdown⟩
    rw [hsplit, ← ih, run_concat]
    cases c with
    | addNode n => simp [step, addNode_edges]
    | addEdge e' =>
      rw [← node?_run]
      by_cases h : e'.Descends (run calls).node?
      · rw [step_of_descends h, List.mem_append, List.mem_singleton]
        refine or_congr Iff.rfl ⟨?_, ?_⟩
        · rintro rfl
          exact ⟨rfl, h⟩
        · rintro ⟨heq, -⟩
          cases heq
          rfl
      · rw [step_of_not_descends h]
        refine ⟨Or.inl, ?_⟩
        rintro (hmem | ⟨heq, hdown⟩)
        · exact hmem
        · cases heq
          exact absurd hdown h

/-- After any calls the edges of a graph have both of their nodes. -/
theorem run_closed (calls : List GraphCall) : (run calls).Closed := by
  induction calls using List.reverseRecOn with
  | nil =>
    intro e he
    simp [run] at he
  | append_singleton calls c ih =>
    rw [run_concat]
    exact step_closed ih c

/-! ## Layers -/

/-- Every edge goes down between nodes of the graph. -/
def Layered (g : FlowGraph) : Prop :=
  ∀ e ∈ g.edges, e.Descends g.node?

/-- An edge leads from one identifier to another. -/
def Leads (g : FlowGraph) (a b : String) : Prop :=
  ∃ e ∈ g.edges, e.source = a ∧ e.target = b

/-- No way along edges comes back to where it started. -/
def Acyclic (g : FlowGraph) : Prop :=
  ∀ id, ¬ Relation.TransGen g.Leads id id

theorem Layered.depth_lt {g : FlowGraph} (hg : g.Layered) {a b : String} (h : Relation.TransGen g.Leads a b) :
    ∃ source target, g.node? a = some source ∧ g.node? b = some target ∧ source.layer.depth < target.layer.depth := by
  induction h with
  | single hlead =>
    obtain ⟨e, he, rfl, rfl⟩ := hlead
    exact hg e he
  | tail _ hlead ih =>
    obtain ⟨e, he, rfl, rfl⟩ := hlead
    obtain ⟨source, middle, hs, hm, hupper⟩ := ih
    obtain ⟨middle', target, hm', ht, hlower⟩ := hg e he
    cases hm.symm.trans hm'
    exact ⟨source, target, hs, ht, Nat.lt_trans hupper hlower⟩

/-- **A layered graph has no cycle.** -/
theorem Layered.acyclic {g : FlowGraph} (hg : g.Layered) : g.Acyclic := by
  intro id hcycle
  obtain ⟨source, target, hs, ht, hlt⟩ := hg.depth_lt hcycle
  cases hs.symm.trans ht
  exact absurd hlt (Nat.lt_irrefl _)

/-- A graph is layered if every edge that descended when it was added still descends. -/
theorem layered_run {calls : List GraphCall} :
    (run calls).Layered ↔ ∀ before e after, calls = before ++ .addEdge e :: after → e.Descends (placed before) →
      e.Descends (placed calls) := by
  rw [Layered, node?_run]
  constructor
  · intro h before e after hcalls hdown
    exact h e (mem_edges_run.2 ⟨before, after, hcalls, hdown⟩)
  · intro h e he
    obtain ⟨before, after, hcalls, hdown⟩ := mem_edges_run.1 he
    exact h before e after hcalls hdown

/-- Whatever is placed under one identifier is placed on one layer. -/
def KeepsLayers (calls : List GraphCall) : Prop :=
  ∀ n m, .addNode n ∈ calls → .addNode m ∈ calls → n.id = m.id → n.layer = m.layer

theorem KeepsLayers.placed_later {before after : List GraphCall} (h : KeepsLayers (before ++ after)) {id : String}
    {n : FlowNode} (hn : placed before id = some n) :
    ∃ m, placed (before ++ after) id = some m ∧ m.layer = n.layer := by
  rw [placed_append, hn]
  cases hlater : placed after id with
  | none => exact ⟨n, rfl, rfl⟩
  | some m =>
    obtain ⟨hm, hmid⟩ := mem_of_placed hlater
    obtain ⟨hn, hnid⟩ := mem_of_placed hn
    exact ⟨m, rfl, h m n (List.mem_append_right _ hm) (List.mem_append_left _ hn) (hmid.trans hnid.symm)⟩

theorem KeepsLayers.layered {calls : List GraphCall} (h : KeepsLayers calls) : (run calls).Layered := by
  rw [layered_run]
  rintro before e after rfl ⟨source, target, hs, ht, hdepth⟩
  obtain ⟨source', hs', hsource⟩ := h.placed_later hs
  obtain ⟨target', ht', htarget⟩ := h.placed_later ht
  exact ⟨source', target', hs', ht', by rwa [hsource, htarget]⟩

/-- **A graph is layered exactly where no edge has lost its slope.** After any calls, refused ones included, the ends of
    all edges are nodes, and an edge that does not go down is refused and changes nothing. The graph is layered if and only
    if every edge that was accepted still goes down between the nodes placed last under its ends; for that it is enough
    that no identifier is placed on two layers. A layered graph has no cycle. -/
theorem run_layered_iff (calls : List GraphCall) :
    (run calls).Closed ∧
    (∀ e, (∃ error, (run calls).addEdge e = .error error) ↔ ¬ e.Descends (placed calls)) ∧
    (∀ e error, (run calls).addEdge e = .error error → run (calls ++ [.addEdge e]) = run calls) ∧
    ((run calls).Layered ↔ ∀ before e after, calls = before ++ .addEdge e :: after → e.Descends (placed before) →
      e.Descends (placed calls)) ∧
    (KeepsLayers calls → (run calls).Layered) ∧
    ((run calls).Layered → (run calls).Acyclic) := by
  refine ⟨run_closed calls, fun e => ?refused, fun e error h => ?unchanged, layered_run, KeepsLayers.layered,
    Layered.acyclic⟩
  case refused =>
    rw [← node?_run]
    exact addEdge_eq_error_iff
  case unchanged =>
    rw [run_concat]
    exact step_of_error h

/-- An edge from `A` down to `B`, `A` placed again below `B`, and an edge from `B` down to `A`. -/
def replacedNode : List GraphCall :=
  [.addNode ⟨"A", "A", "CONTROLLER", "A", .api⟩, .addNode ⟨"B", "B", "SERVICE", "B", .service⟩,
   .addEdge ⟨"e1", "A", "B", "CALLS", "l", none⟩, .addNode ⟨"A", "A", "REPOSITORY", "A", .repository⟩,
   .addEdge ⟨"e2", "B", "A", "CALLS", "l", none⟩]

/-- A node placed again turns an edge round, and the next one closes a cycle. -/
theorem not_layered_replacedNode : ¬ (run replacedNode).Layered ∧ ¬ (run replacedNode).Acyclic := by
  have hedges : (run replacedNode).edges =
      [⟨"e1", "A", "B", "CALLS", "l", none⟩, ⟨"e2", "B", "A", "CALLS", "l", none⟩] := by
    decide +kernel
  have hcycle : ¬ (run replacedNode).Acyclic := by
    intro h
    have hdown : (run replacedNode).Leads "A" "B" := ⟨_, hedges ▸ List.mem_cons_self, rfl, rfl⟩
    have hback : (run replacedNode).Leads "B" "A" :=
      ⟨_, hedges ▸ List.mem_cons_of_mem _ List.mem_cons_self, rfl, rfl⟩
    exact h "A" (.tail (.single hdown) hback)
  exact ⟨fun h => hcycle h.acyclic, hcycle⟩

end FlowGraph

end SpringAtlas

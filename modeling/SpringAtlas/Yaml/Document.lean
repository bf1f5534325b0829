import SpringAtlas.Yaml.Literal
import SpringAtlas.Yaml.Node

/-!
# `Yaml.Document` — the values of documents

The value of a node is made as its tag says. Scalars are made at once. A collection is first made without contents
and filled later, the oldest first, so the contents of one level are made before those of the next; that decides
which of two faults is met. A mapping may take the entries of others under the key `<<`, its own entries coming last.

## Contents
* `scalarText`, `scalarValue` — scalars
* `Item`, `Workshop`, `Make` — what the nodes have become so far
* `mergeInto` — merged mappings
* `make`, `fill` — collections
* `spread` — the finished value of a node
* `documents`, `single` — the values of the documents of a text, and the reader of settings that they make
-/

namespace SpringAtlas.Yaml

/-! ## Scalars -/

def truthWords : List (String × Bool) :=
  [("yes", true), ("no", false), ("true", true), ("false", false), ("on", true), ("off", false)]

/-- The tag of a node. -/
def tagAt (nodes : Array Node) (id : NodeId) : Tag :=
  (nodes[id]?.map Node.tag).getD .unknown

/-- The text of a scalar; a mapping may give it under the key `=`. The bound is on the mappings in between. -/
def scalarText (nodes : Array Node) : Nat → NodeId → Except Fault String
  | 0, _ => .error .endless
  | fuel + 1, id =>
    match nodes[id]? with
    | some (.scalar _ text) => .ok text
    | some (.mapping _ entries) =>
      match entries.find? fun e => tagAt nodes e.1 == .value with
      | some e => scalarText nodes fuel e.2
      | none => .error .malformed
    | _ => .error .malformed

/-- The value of a text as a tag says; collections have none. -/
def scalarValue (tag : Tag) (text : String) : Except Fault Value :=
  match tag with
  | .null => .ok .null
  | .bool =>
    let word := String.ofList (Text.lower text.toList)
    match truthWords.lookup word with
    | some b => .ok (.bool b)
    | none => .error (.notATruthValue word)
  | .int => (readInteger text.toList).map Value.int
  | .float => (readFloat text.toList).map Value.float
  | .timestamp => readTime text.toList
  | .str => .ok (.str text)
  | .binary =>
    match if text.toList.all (·.toNat < 128) then bytesFrom text.toList [] 0 else none with
    | some bytes => .ok (.binary bytes)
    | none => .error .malformed
  | _ => .error .malformed

/-! ## Items -/

/-- What a node has become: a scalar, or a collection with the numbers of what it holds. Scalars of one identity are
    one key, even one that is not a number. -/
inductive Item where
  | scalar (identity : Nat) (value : Value)
  | list (items : List NodeId)
  | map (entries : List (NodeId × NodeId))
  | set (items : List NodeId)
  /-- an ordered mapping -/
  | pairs (entries : List (NodeId × NodeId))
deriving Repr

/-- The nodes of a document and what they have become. Nodes change when mappings are merged. -/
structure Workshop where
  nodes : Array Node
  made : Array (Option Item)
  /-- collections to be filled, the newest first -/
  waiting : List NodeId := []
  /-- a bound on the number of merging entries -/
  merges : Nat := 0

abbrev Make := StateT Workshop (Except Fault)

namespace Make

def node (id : NodeId) : Make Node := do
  match (← get).nodes[id]? with
  | some n => return n
  | none => throw .malformed

def setNode (id : NodeId) (n : Node) : Make Unit :=
  modify fun w => { w with nodes := w.nodes.setIfInBounds id n }

def setItem (id : NodeId) (item : Item) : Make Unit :=
  modify fun w => { w with made := w.made.setIfInBounds id (some item) }

/-! ## Merged mappings -/

/-- The entries of a mapping. -/
def entries (id : NodeId) : Make (List (NodeId × NodeId)) := do
  match ← node id with
  | .mapping _ es => return es
  | _ => throw .malformed

def setEntries (id : NodeId) (es : List (NodeId × NodeId)) : Make Unit := do
  setNode id (.mapping (← node id).tag es)

/-- A key that gives the text of a mapping is a text itself once the mapping is used as one. -/
def plainKey (id : NodeId) : Make Unit := do
  match ← node id with
  | .scalar .value text => setNode id (.scalar .str text)
  | .sequence .value items => setNode id (.sequence .str items)
  | .mapping .value es => setNode id (.mapping .str es)
  | _ => pure ()

/-- Puts the entries that a mapping merges in front of its own. Of several merged mappings the first one counts most,
    so it comes last. Each step removes a merging entry, which bounds the steps; a mapping may so merge itself. -/
def mergeInto : Nat → NodeId → List (NodeId × NodeId) → Make Unit
  | 0, _, _ => throw .endless
  | fuel + 1, id, merged => do
    let es ← entries id
    let nodes := (← get).nodes
    match es.find? fun e => tagAt nodes e.1 == .merge with
    | none =>
      es.forM fun e => plainKey e.1
      if !merged.isEmpty then setEntries id (merged ++ es)
    | some (_, source) =>
      setEntries id (es.eraseP fun e => tagAt nodes e.1 == .merge)
      match ← node source with
      | .mapping _ _ =>
        mergeInto fuel source []
        mergeInto fuel id (merged ++ (← entries source))
      | .sequence _ items =>
        let parts ← items.mapM fun i => do
          let _ ← entries i
          mergeInto fuel i []
          entries i
        mergeInto fuel id (merged ++ parts.reverse.flatten)
      | .scalar _ _ => throw .malformed

/-- The entries of a mapping with those it merges. -/
def mergedEntries (id : NodeId) : Make (List (NodeId × NodeId)) := do
  let _ ← entries id
  mergeInto ((← get).merges + 1) id []
  entries id

/-! ## Collections -/

/-- A collection without contents, to be filled later. -/
def later (id : NodeId) (item : Item) : Make Item := do
  modify fun w => { w with waiting := id :: w.waiting }
  return item

/-- A node made for the first time. -/
def start (id : NodeId) : Make Item := do
  let nodes := (← get).nodes
  match tagAt nodes id with
  | .seq => later id (.list [])
  | .map => later id (.map [])
  | .set => later id (.set [])
  | .omap | .pairs => later id (.pairs [])
  | .merge | .value | .unknown => throw .malformed
  | tag =>
    let text ← scalarText nodes (nodes.size + 1) id
    if tag == .timestamp && (← node id) matches .mapping _ _ then throw .timeOfMapping
    let value ← scalarValue tag text
    return .scalar (if tag == .float && isNanLiteral text.toList then nodes.size else id) value

/-- What a node has become; it is made only once. -/
def make (id : NodeId) : Make Item := do
  match (← get).made[id]? with
  | some (some item) => return item
  | _ =>
    let item ← start id
    setItem id item
    return item

/-- An entry of a mapping being filled: the identity of its key, the key, and the numbers of both parts. -/
structure Slot where
  identity : Nat
  key : Value
  entry : NodeId × NodeId

/-- Puts an entry among others: a key that is there keeps its place and its first spelling. -/
def Slot.insert (s : Slot) : List Slot → List Slot
  | [] => [s]
  | t :: rest =>
    if t.identity == s.identity || t.key.sameKey s.key then
      { t with entry := (t.entry.1, s.entry.2) } :: rest
    else t :: s.insert rest

/-- The contents of a mapping; a key has to be a scalar. -/
def fillMapping (id : NodeId) : Make (List (NodeId × NodeId)) := do
  let slots ← (← mergedEntries id).foldlM (fun slots e => do
    match ← make e.1 with
    | .scalar identity key =>
      let _ ← make e.2
      return Slot.insert ⟨identity, key, e⟩ slots
    | _ => throw .malformed) []
  return slots.map Slot.entry

/-- The contents of an ordered mapping: a sequence of mappings of one entry. -/
def fillPairs (id : NodeId) : Make (List (NodeId × NodeId)) := do
  match ← node id with
  | .sequence _ items => items.mapM fun i => do
    match ← entries i with
    | [e] =>
      let _ ← make e.1
      let _ ← make e.2
      return e
    | _ => throw .malformed
  | _ => throw .malformed

/-- Gives a collection its contents. -/
def fill (id : NodeId) : Make Unit := do
  match (← get).made[id]? with
  | some (some (.list _)) =>
    match ← node id with
    | .sequence _ items =>
      items.forM fun i => discard (make i)
      setItem id (.list items)
    | _ => throw .malformed
  | some (some (.map _)) => setItem id (.map (← fillMapping id))
  | some (some (.set _)) => setItem id (.set ((← fillMapping id).map Prod.fst))
  | some (some (.pairs _)) => setItem id (.pairs (← fillPairs id))
  | _ => pure ()

/-- Fills the collections that wait, level by level. -/
def fillLevels : Nat → Make Unit
  | 0 => pure ()
  | fuel + 1 => do
    let level := (← get).waiting.reverse
    if level.isEmpty then return
    modify fun w => { w with waiting := [] }
    level.forM fill
    fillLevels fuel

/-- Makes a node with all that it holds. Every level fills a node. -/
def all (root : NodeId) : Make Unit := do
  discard (make root)
  fillLevels ((← get).nodes.size + 1)

end Make

/-! ## Finished values -/

/-- A collection, or an entry of an ordered mapping. -/
inductive Spot where
  | node (id : NodeId)
  | entry (id : NodeId) (index : Nat)
deriving Repr, BEq, DecidableEq

/-- The value of a node, spread out to a tree. `around` are the collections that it lies in; one that it lies in and
    holds is not entered again. Entries of ordered mappings are never looked into but only spelled, so inside the
    outermost of them (`spelling`) the count starts anew. The bound is on the number of collections that can lie
    inside each other. -/
def spread (made : Array (Option Item)) : Nat → Bool → List Spot → NodeId → Value
  | 0, _, _, _ => .again "..."
  | fuel + 1, spelling, around, id =>
    let entered (mark : String) (v : Value) : Value :=
      if around.contains (.node id) then .again mark else v
    let inside := spread made fuel spelling (.node id :: around)
    match made[id]? with
    | some (some (.scalar _ v)) => v
    | some (some (.list items)) => entered "[...]" (.list (items.map inside))
    | some (some (.map es)) => entered "\x7b...\x7d" (.map (es.map fun e => (inside e.1, inside e.2)))
    | some (some (.set items)) => .set (Value.setOrder (items.map inside))
    | some (some (.pairs es)) =>
      let outer := if spelling then .node id :: around else []
      entered "[...]" (.list (es.zipIdx.map fun (e, i) =>
        if outer.contains (.entry id i) then .again "(...)"
        else
          let part := spread made fuel true (.entry id i :: outer)
          .pair (part e.1) (part e.2)))
    | _ => .null

/-- The number of places in which a collection can lie. -/
def spotCount (made : Array (Option Item)) : Nat :=
  made.foldl (fun n item =>
    match item with
    | some (.pairs es) => n + 1 + es.length
    | _ => n + 1) 0

/-- The number of entries under the key `<<`. -/
def mergeCount (nodes : Array Node) : Nat :=
  nodes.foldl (fun n x =>
    match x with
    | .mapping _ es => n + (es.filter fun e => tagAt nodes e.1 == .merge).length
    | _ => n) 0

/-- The value of a document. -/
def Graph.value (g : Graph) : Except Fault Value := do
  let start : Workshop :=
    { nodes := g.nodes, made := Array.replicate g.nodes.size none, merges := mergeCount g.nodes }
  let (_, w) ← (Make.all g.root).run start
  return spread w.made (2 * spotCount w.made + 2) false [] g.root

/-! ## Texts -/

/-- Values of documents, up to the first fault. -/
def valuesOf : List Graph → List Value × Option Fault
  | [] => ([], none)
  | g :: gs =>
    match g.value with
    | .error fault => ([], some fault)
    | .ok v =>
      let (vs, fault) := valuesOf gs
      (v :: vs, fault)

/-- The documents of a text in front of a fault, and the fault if there is one. -/
def documents (cs : List Char) : List Value × Option Fault :=
  let (graphs, fault) := composeAll cs
  let (values, bad) := valuesOf graphs
  (values, bad.or fault)

instance : Loader := ⟨documents⟩

/-- The value of a text with at most one document; a text without one is null. -/
def single (cs : List Char) : Except Fault Value := do
  match ← composeSingle cs with
  | none => return .null
  | some g => g.value

end SpringAtlas.Yaml

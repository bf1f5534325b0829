import SpringAtlas.Yaml.Tag
import SpringAtlas.Yaml.Token

/-!
# `Yaml.Node` — documents as graphs of tagged nodes

Tokens are put together to nodes. The nodes of a document are numbered, a collection before what it holds, and a
collection refers to its contents by their numbers. An alias is the number of the node with its anchor, so a node
may be in several places, and a collection may even be inside itself.

## Contents
* `Node`, `Graph` — the nodes of a document
* `Reader` — tokens still to read, and the anchors and tag handles of the document
* `Read.document?`, `composeAll`, `composeSingle` — the documents of a text
-/

namespace SpringAtlas.Yaml

/-! ## Nodes -/

/-- The number of a node in its document. -/
abbrev NodeId := Nat

inductive Node where
  | scalar (tag : Tag) (text : String)
  | sequence (tag : Tag) (items : List NodeId)
  | mapping (tag : Tag) (entries : List (NodeId × NodeId))
deriving Repr, BEq

def Node.tag : Node → Tag
  | scalar t _ | sequence t _ | mapping t _ => t

/-- The nodes of a document, and the number of the outermost one. -/
structure Graph where
  nodes : Array Node
  root : NodeId
deriving Repr

/-! ## Reading tokens -/

/-- What is left to read. -/
structure Reader where
  tokens : List Token
  /-- what is met when the tokens run out -/
  fault : Fault
  handles : List (String × String) := []
  /-- the nodes of the document so far -/
  nodes : Array Node := #[]
  anchors : List (String × NodeId) := []
  /-- number of collections around the current place -/
  depth : Nat := 0

abbrev Read := StateT Reader (Except Fault)

namespace Read

def fail {α : Type} : Read α :=
  throw .malformed

def peek : Read Token := do
  match (← get).tokens with
  | t :: _ => return t
  | [] => throw (← get).fault

def skip : Read Unit :=
  modify fun r => { r with tokens := r.tokens.tail }

/-- Whether the next token is one of the given ones. -/
def sees (ts : List Token) : Read Bool := do
  return ts.contains (← peek)

/-! ## Properties -/

/-- The anchor and the tag of a node, as far as they are written. -/
structure Properties where
  anchor : Option String := none
  tag : Option String := none

/-- The full name of a tag. -/
def tagName (handle : Option String) (suffix : String) : Read String := do
  match handle with
  | none => return suffix
  | some handle =>
    match (← get).handles.lookup handle with
    | some expansion => return expansion ++ suffix
    | none => fail

/-- Anchor and tag of a node, in either order. -/
def properties : Read Properties := do
  match ← peek with
  | .anchor name =>
    skip
    match ← peek with
    | .tag handle suffix => skip; return ⟨some name, ← tagName handle suffix⟩
    | _ => return ⟨some name, none⟩
  | .tag handle suffix =>
    skip
    match ← peek with
    | .anchor name => skip; return ⟨some name, ← tagName handle suffix⟩
    | _ => return ⟨none, ← tagName handle suffix⟩
  | _ => return {}

/-! ## Building nodes -/

/-- The node of an alias. -/
def resolveAlias (name : String) : Read NodeId := do
  match (← get).anchors.lookup name with
  | some id => return id
  | none => fail

/-- Adds a node, under its anchor if it has one; a name is used once in a document. -/
def add (anchor : Option String) (n : Node) : Read NodeId := do
  let id := (← get).nodes.size
  modify fun r => { r with nodes := r.nodes.push n }
  match anchor with
  | some name =>
    if ((← get).anchors.lookup name).isSome then fail
    modify fun r => { r with anchors := (name, id) :: r.anchors }
  | none => pure ()
  return id

def addScalar (p : Properties) (text : String) (plain : Bool) : Read NodeId :=
  add p.anchor (.scalar (.ofScalar p.tag text plain) text)

/-- The scalar where none is written. -/
def addEmpty : Read NodeId :=
  addScalar {} "" true

/-- The number of collections that may lie inside each other. A reader has no such number: it gives out when its stack
    does, at a depth that depends on the kinds of the collections and on what called the reader. This is the
    approximation for a reader that is called from the top of a program. -/
def depthLimit : Nat := 490

/-- Reads the contents of a collection. -/
def within {α : Type} (contents : Read α) : Read α := do
  if depthLimit ≤ (← get).depth then throw .endless
  modify fun r => { r with depth := r.depth + 1 }
  let found ← contents
  modify fun r => { r with depth := r.depth - 1 }
  return found

/-- Gives a collection its contents. -/
def complete (id : NodeId) (n : Node) : Read NodeId := do
  modify fun r => { r with nodes := r.nodes.setIfInBounds id n }
  return id

/-- Adds a sequence. It is there before its items are read, which may refer to it. -/
def addSequence (p : Properties) (items : Read (List NodeId)) : Read NodeId := do
  let tag := Tag.ofCollection p.tag .seq
  let id ← add p.anchor (.sequence tag [])
  complete id (.sequence tag (← within items))

/-- Adds a mapping. It is there before its entries are read, which may refer to it. -/
def addMapping (p : Properties) (entries : Read (List (NodeId × NodeId))) : Read NodeId := do
  let tag := Tag.ofCollection p.tag .map
  let id ← add p.anchor (.mapping tag [])
  complete id (.mapping tag (← within entries))

/-! ## Nodes of tokens -/

mutual

/-- A node. Indented collections are allowed in a `block`; a list that is not indented further than its key
    only where `indentless`. -/
def node : Nat → Bool → Bool → Read NodeId
  | 0, _, _ => fail
  | fuel + 1, block, indentless => do
    match ← peek with
    | .alias name => skip; resolveAlias name
    | _ =>
      let p ← properties
      let t ← peek
      match t with
      | .scalar text plain => skip; addScalar p text plain
      | .flowSequenceStart => addSequence p (do skip; flowSequence fuel true)
      | .flowMappingStart => addMapping p (do skip; flowMapping fuel true)
      | _ =>
        if indentless && t == .blockEntry then addSequence p (indentlessSequence fuel)
        else if block && t == .blockSequenceStart then addSequence p (do skip; blockSequence fuel)
        else if block && t == .blockMappingStart then addMapping p (do skip; blockMapping fuel)
        else if p.anchor.isSome || p.tag.isSome then addScalar p "" true
        else fail

/-- A node, or the empty scalar if one of `ends` follows. -/
def nodeUnless : Nat → Bool → Bool → List Token → Read NodeId
  | 0, _, _, _ => fail
  | fuel + 1, block, indentless, ends => do
    if ← sees ends then addEmpty else node fuel block indentless

/-- The value behind a key, or the empty scalar if no colon follows. -/
def valueUnless : Nat → Bool → List Token → Read NodeId
  | 0, _, _ => fail
  | fuel + 1, block, ends => do
    if ← sees [.value] then
      skip
      nodeUnless fuel block block ends
    else addEmpty

def blockSequence : Nat → Read (List NodeId)
  | 0 => fail
  | fuel + 1 => do
    match ← peek with
    | .blockEntry =>
      skip
      let item ← nodeUnless fuel true false [.blockEntry, .blockEnd]
      return item :: (← blockSequence fuel)
    | .blockEnd => skip; return []
    | _ => fail

def indentlessSequence : Nat → Read (List NodeId)
  | 0 => fail
  | fuel + 1 => do
    match ← peek with
    | .blockEntry =>
      skip
      let item ← nodeUnless fuel true false [.blockEntry, .key, .value, .blockEnd]
      return item :: (← indentlessSequence fuel)
    | _ => return []

def blockMapping : Nat → Read (List (NodeId × NodeId))
  | 0 => fail
  | fuel + 1 => do
    match ← peek with
    | .key =>
      skip
      let k ← nodeUnless fuel true true [.key, .value, .blockEnd]
      let v ← valueUnless fuel true [.key, .value, .blockEnd]
      return (k, v) :: (← blockMapping fuel)
    | .blockEnd => skip; return []
    | _ => fail

/-- The items of a flow sequence up to its end; a lone key and value is a mapping of one entry. -/
def flowSequence : Nat → Bool → Read (List NodeId)
  | 0, _ => fail
  | fuel + 1, first => do
    if ← sees [.flowSequenceEnd] then skip; return []
    if !first then
      if ← sees [.flowEntry] then skip else fail
    match ← peek with
    | .flowSequenceEnd => skip; return []
    | .key =>
      let item ← addMapping {} do
        skip
        let k ← nodeUnless fuel false false [.value, .flowEntry, .flowSequenceEnd]
        let v ← valueUnless fuel false [.flowEntry, .flowSequenceEnd]
        return [(k, v)]
      return item :: (← flowSequence fuel false)
    | _ =>
      let item ← node fuel false false
      return item :: (← flowSequence fuel false)

def flowMapping : Nat → Bool → Read (List (NodeId × NodeId))
  | 0, _ => fail
  | fuel + 1, first => do
    if ← sees [.flowMappingEnd] then skip; return []
    if !first then
      if ← sees [.flowEntry] then skip else fail
    match ← peek with
    | .flowMappingEnd => skip; return []
    | .key =>
      skip
      let k ← nodeUnless fuel false false [.value, .flowEntry, .flowMappingEnd]
      let v ← valueUnless fuel false [.flowEntry, .flowMappingEnd]
      return (k, v) :: (← flowMapping fuel false)
    | _ =>
      let k ← node fuel false false
      let v ← addEmpty
      return (k, v) :: (← flowMapping fuel false)

end

/-! ## Documents -/

def defaultHandles : List (String × String) :=
  [("!", "!"), ("!!", Tag.standardRoot)]

/-- The directives of a document: the handles they define, and whether a version was given. -/
def directives : Nat → Bool → List (String × String) → Read (List (String × String))
  | 0, _, _ => fail
  | fuel + 1, versioned, handles => do
    match ← peek with
    | .version major =>
      skip
      if versioned || major != 1 then fail
      directives fuel true handles
    | .tagHandle handle expansion =>
      skip
      if (handles.lookup handle).isSome then fail
      directives fuel versioned (handles ++ [(handle, expansion)])
    | .otherDirective => skip; directives fuel versioned handles
    | _ => return handles

def isDirective : Token → Bool
  | .version _ | .tagHandle _ _ | .otherDirective => true
  | _ => false

/-- Skips the marks that end documents. -/
def skipDocumentEnds : Nat → Read Unit
  | 0 => fail
  | fuel + 1 => do
    if ← sees [.documentEnd] then
      skip
      skipDocumentEnds fuel
    else return ()

/-- Reads the start of a document, which is marked and may have directives; false at the end of the text. -/
def documentStart (fuel : Nat) : Read Bool := do
  skipDocumentEnds fuel
  if ← sees [.streamEnd] then return false
  let handles ← directives fuel false []
  modify fun r => { r with handles := handles ++ defaultHandles }
  if ← sees [.documentStart] then skip else fail
  return true

/-- The content of a document whose start has been read; there may be none. -/
def documentContent (fuel : Nat) : Read NodeId := do
  let t ← peek
  if isDirective t || t == .documentStart || t == .documentEnd || t == .streamEnd then addEmpty
  else node fuel true false

/-- The outermost node of the next document, if there is one. Only the first may come without a start mark. -/
def documentRoot? (fuel : Nat) (first : Bool) : Read (Option NodeId) := do
  let t ← peek
  if first && !(isDirective t || t == .documentStart || t == .streamEnd) then
    modify fun r => { r with handles := defaultHandles }
    return some (← node fuel true false)
  else if ← documentStart fuel then return some (← documentContent fuel)
  else return none

/-- The next document, if there is one. -/
def document? (fuel : Nat) (first : Bool) : Read (Option Graph) := do
  modify fun r => { r with nodes := #[], anchors := [], depth := 0 }
  match ← documentRoot? fuel first with
  | none => return none
  | some root =>
    if ← sees [.documentEnd] then skip
    return some ⟨(← get).nodes, root⟩

/-- The documents in front of a fault, and the fault if there is one. -/
def allDocuments (fuel : Nat) : Nat → Bool → Reader → List Graph × Option Fault
  | 0, _, _ => ([], some .malformed)
  | n + 1, first, r =>
    match (document? fuel first).run r with
    | .error fault => ([], some fault)
    | .ok (none, _) => ([], none)
    | .ok (some graph, rest) =>
      let (more, fault) := allDocuments fuel n false rest
      (graph :: more, fault)

/-- The only document, if there is one; a second one is a fault when its start has been read. -/
def onlyDocument? (fuel : Nat) : Read (Option Graph) := do
  match ← document? fuel true with
  | none => return none
  | some graph =>
    if ← documentStart fuel then fail
    return some graph

end Read

/-- A reader at the start of a text, and a bound on the steps that it takes. -/
def Reader.ofText (cs : List Char) : Reader × Nat :=
  let (tokens, fault) := tokenize cs
  ({ tokens, fault := fault.getD .malformed }, 4 * tokens.length + 8)

/-- The documents of a text, up to its end or up to a fault. -/
def composeAll (cs : List Char) : List Graph × Option Fault :=
  let (reader, fuel) := Reader.ofText cs
  Read.allDocuments fuel fuel true reader

/-- The document of a text that holds at most one. -/
def composeSingle (cs : List Char) : Except Fault (Option Graph) :=
  let (reader, fuel) := Reader.ofText cs
  ((Read.onlyDocument? fuel).run reader).map Prod.fst

end SpringAtlas.Yaml

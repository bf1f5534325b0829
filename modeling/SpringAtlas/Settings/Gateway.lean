import SpringAtlas.Json
import SpringAtlas.Settings.Store

/-!
# `Settings.Gateway` — the routes of a gateway

A gateway module lists its routes in its settings, as `routes[i].id`, `routes[i].uri` and
`routes[i].predicates[j]`; a predicate is a text or a name with arguments. Routes and predicates come in the
order of their indices.

## Contents
* `GatewayRoute`, `GatewayRoute.path?`
* `Indexed` — values by index, in order
* `RouteDraft`, `gatewayRoutes`
-/

namespace SpringAtlas

/-- A route from a path to a service. -/
structure GatewayRoute where
  id : String
  uri : Option String := none
  /-- texts such as `Path=/orders/**` -/
  predicates : List String := []
deriving Repr, BEq, DecidableEq

namespace GatewayRoute

/-- The path that a predicate asks for. -/
def predicatePath? (predicate : List Char) : Option (List Char) :=
  (Text.cutAt ['='] predicate).bind fun (name, value) =>
    if Text.trim name == "Path".toList && !value.isEmpty then
      some (Text.trim (value.takeWhile (· != ',')))
    else none

/-- The first path among those of the first path predicate. -/
def path? (r : GatewayRoute) : Option String :=
  (r.predicates.findSome? fun p => predicatePath? p.toList).map String.ofList

def toFields (r : GatewayRoute) : List (String × Json) :=
  [("id", .str r.id), ("uri", .ofOption r.uri), ("predicates", .ofStrings r.predicates)]

def toJson (r : GatewayRoute) : Json :=
  .obj r.toFields

/-- The route with the path it serves. -/
def toJsonWithPath (r : GatewayRoute) : Json :=
  .obj (r.toFields ++ [("path", .ofOption r.path?)])

end GatewayRoute

namespace Settings

/-! ## Values by index -/

/-- Values by index, smallest index first. -/
abbrev Indexed (α : Type) := List (Nat × α)

/-- The value at an index, if there is one. -/
def Indexed.get? {α : Type} (i : Nat) (xs : Indexed α) : Option α :=
  xs.lookup i

/-- Sets the value at an index. -/
def Indexed.set {α : Type} (i : Nat) (x : α) : Indexed α → Indexed α
  | [] => [(i, x)]
  | (j, y) :: rest =>
    if i < j then (i, x) :: (j, y) :: rest
    else if i = j then (j, x) :: rest
    else (j, y) :: Indexed.set i x rest

/-! ## Drafts -/

/-- What is known so far about a predicate. -/
structure PredicateDraft where
  text : Option String := none
  name : Option String := none
  arguments : List String := []
deriving Repr, BEq

/-- The predicate as one text; without a text or a name there is none. -/
def PredicateDraft.finish (p : PredicateDraft) : Option String :=
  match p.text, p.name with
  | some t, _ => some t
  | none, some n => some (n ++ "=" ++ ",".intercalate p.arguments)
  | none, none => none

/-- What is known so far about a route. -/
structure RouteDraft where
  id : String := ""
  uri : Option String := none
  predicates : Indexed PredicateDraft := []
deriving Repr, BEq

/-- The route; one without an id is named for its index. -/
def RouteDraft.finish (index : Nat) (r : RouteDraft) : GatewayRoute :=
  { id := if r.id.isEmpty then "route-" ++ toString index else r.id
    uri := r.uri
    predicates := r.predicates.filterMap fun p => p.2.finish }

/-! ## Keys -/

open Pattern in
def indexPattern (i : Nat) : Pattern :=
  lit "[" ++ group i (plus (one Text.isDigit)) ++ lit "]"

open Pattern in
/-- A key of a route: its index and the field. -/
def routeKeyPattern : Pattern :=
  textStart ++ lit "spring.cloud.gateway" ++ opt (oneOf [".server.webflux", ".server.webmvc"]) ++
  lit ".routes" ++ indexPattern 1 ++ lit "." ++ group 2 (plus inLine) ++ lastLineEnd

open Pattern in
/-- A field of a predicate: its index and the part. -/
def predicateKeyPattern : Pattern :=
  textStart ++ lit "predicates" ++ indexPattern 1 ++
  opt (lit "." ++ group 2 (lit "name" <|> lit "args." ++ plus inLine)) ++ lastLineEnd

/-- The number that decimal digits of any script write; there is a limit on their number. -/
def indexValue (cs : List Char) : Except Yaml.Fault Nat :=
  if Yaml.Value.digitLimit < cs.length then .error (.longInteger cs.length)
  else .ok (cs.foldl (fun n c => 10 * n + Text.digitValue c) 0)

/-- Sets a part of a predicate: its text, its name, or one more argument. -/
def PredicateDraft.assign (part : Option (List Char)) (value : String) (p : PredicateDraft) :
    PredicateDraft :=
  match part with
  | none => { p with text := some value }
  | some part =>
    if part == "name".toList then { p with name := some value }
    else { p with arguments := p.arguments ++ [value] }

/-- Sets a field of a route; fields of no interest change nothing. -/
def RouteDraft.assign (field : List Char) (value : String) (r : RouteDraft) : Except Yaml.Fault RouteDraft :=
  match predicateKeyPattern.matchStart? field with
  | some m => do
    let index ← indexValue (m.group field 1)
    let draft := (r.predicates.get? index).getD {}
    return { r with predicates := r.predicates.set index (draft.assign (m.group? field 2) value) }
  | none =>
    .ok (if field == "id".toList then { r with id := value }
      else if field == "uri".toList then { r with uri := some value }
      else r)

/-- Takes one entry of the settings into the routes. -/
def assignRoute (routes : Indexed RouteDraft) (entry : String × String) :
    Except Yaml.Fault (Indexed RouteDraft) :=
  let key := entry.1.toList
  match routeKeyPattern.matchStart? key with
  | none => .ok routes
  | some m => do
    let index ← indexValue (m.group key 1)
    let draft ← ((routes.get? index).getD {}).assign (m.group key 2) entry.2
    return routes.set index draft

/-- The routes that the settings declare, by index. -/
def gatewayRoutes (s : Store) : Except Yaml.Fault (List GatewayRoute) := do
  return (← s.entries.foldlM assignRoute []).map fun r => r.2.finish r.1

end Settings

end SpringAtlas

import SpringAtlas.Json

/-!
# `Relation.Basic` — relations between classes

A `Relation` is a typed, directed edge between two classes, named by their simple names.
-/

namespace SpringAtlas

/-- How a class relates to another. -/
inductive RelationKind where
  | extends
  | implements
  | injects
  /-- a field of the other type, where nothing stronger is known -/
  | uses
  | oneToOne
  | oneToMany
  | manyToOne
  | manyToMany
deriving Repr, BEq, DecidableEq

namespace RelationKind

def label : RelationKind → String
  | .extends => "EXTENDS"
  | implements => "IMPLEMENTS"
  | injects => "INJECTS"
  | uses => "USES"
  | oneToOne => "ONE_TO_ONE"
  | oneToMany => "ONE_TO_MANY"
  | manyToOne => "MANY_TO_ONE"
  | manyToMany => "MANY_TO_MANY"

/-- Whether the relation is an association of persistent classes. -/
def isPersistence : RelationKind → Bool
  | oneToOne | oneToMany | manyToOne | manyToMany => true
  | _ => false

end RelationKind

/-- An edge from one class to another. -/
structure Relation where
  source : String
  target : String
  kind : RelationKind
  /-- the field or parameter that carries the relation -/
  field : Option String := none
deriving Repr, BEq, DecidableEq

def Relation.toJson (r : Relation) : Json :=
  .obj [("source", .str r.source), ("target", .str r.target), ("type", .str r.kind.label),
    ("field_name", .ofOption r.field)]

end SpringAtlas

import SpringAtlas.Finding.Basic
import SpringAtlas.Fact.Basic
import SpringAtlas.Relation.Basic

/-!
# `Analysis.Summary` — counts over the results of a run

A *tally* counts how often each value occurs, in the order in which the values first appear. The summary of a run
holds tallies of classes, endpoints, relations and findings, the packages with the most classes, and the most
severe findings.
-/

namespace SpringAtlas

/-- Values with the number of their occurrences, in order of first appearance. -/
abbrev Tally := List (String × Nat)

namespace Tally

/-- Counts one more occurrence. -/
def add : Tally → String → Tally
  | [], value => [(value, 1)]
  | (v, n) :: rest, value => if v == value then (v, n + 1) :: rest else (v, n) :: add rest value

def ofList (values : List String) : Tally :=
  values.foldl add []

/-- The values with the most occurrences first, at most `limit`; equal counts keep their order. -/
def mostCommon (t : Tally) (limit : Nat) : Tally :=
  (t.mergeSort fun a b => decide (b.2 ≤ a.2)).take limit

/-- The values in their own order. -/
def sorted (t : Tally) : Tally :=
  t.mergeSort fun a b => decide (a.1 ≤ b.1)

def toJson (t : Tally) : Json :=
  .obj (t.map fun e => (e.1, .nat e.2))

end Tally

/-- The number of packages that a summary lists. -/
def topPackageLimit : Nat := 10

structure Summary where
  byStereotype : Tally := []
  byHttpMethod : Tally := []
  byRelationKind : Tally := []
  bySeverity : Tally := []
  byCategory : Tally := []
  byModule : Tally := []
  topPackages : Tally := []
  topFindings : List Finding := []
deriving Repr, BEq

/-- The package of a class, as the summary lists it. -/
def ClassFact.packageLabel (f : ClassFact) : String :=
  match f.packageName with
  | some p => if p.isEmpty then "(default)" else p
  | none => "(default)"

/-- The summary of some results. -/
def summarize (facts : List ClassFact) (relations : List Relation) (findings : List Finding) (limit : Nat) :
    Summary :=
  { byStereotype := .ofList (facts.map fun f => f.stereotype.label)
    byHttpMethod := .ofList ((facts.flatMap ClassFact.endpoints).map fun e => e.method.label)
    byRelationKind := .ofList (relations.map fun r => r.kind.label)
    bySeverity := .ofList (findings.map fun f => f.severity.label)
    byCategory := .ofList (findings.map fun f => f.category.label)
    byModule := .ofList ((facts.filterMap ClassFact.moduleName).filter fun m => !m.isEmpty)
    topPackages := (Tally.ofList (facts.map ClassFact.packageLabel)).mostCommon topPackageLimit
    topFindings := topFindings findings limit }

def Summary.toJson (s : Summary) : Json :=
  .obj [("by_stereotype", s.byStereotype.toJson), ("by_http_method", s.byHttpMethod.toJson),
    ("by_relationship_type", s.byRelationKind.toJson), ("by_severity", s.bySeverity.toJson),
    ("by_category", s.byCategory.toJson), ("by_module", s.byModule.toJson),
    ("top_packages", .arr (s.topPackages.map fun p =>
      .obj [("package", .str p.1), ("classes", .nat p.2)])),
    ("top_findings", .arr (s.topFindings.map Finding.toJson))]

end SpringAtlas

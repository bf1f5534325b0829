import SpringAtlas.Fact.Index
import SpringAtlas.Relation.Basic
import SpringAtlas.Source.Declaration
import SpringAtlas.Source.Parameters
import SpringAtlas.Text.Lines

/-!
# `Relation.Scan` — relations that a source file shows

Supertypes, injected fields and constructor parameters, persistent associations and plain fields are read from
the masked text of a file. Each names a type, which counts if the index knows it and it is not the class itself.

## Contents
* `supertypeReferences`, `injectionReferences`, `persistenceReferences`, `fieldReferences`
* `FileRelations`, `scanRelations`
-/

namespace SpringAtlas

/-- A type that a class refers to, and the field or parameter that does so. -/
structure Reference where
  kind : RelationKind
  type : List Char
  field : Option (List Char) := none
deriving Repr, BEq

/-! ## Supertypes -/

def supertypeReferences (d : Source.TypeDeclaration) : List Reference :=
  (d.superclass?.map fun t => ⟨.extends, t, none⟩).toList ++
  d.interfaces.map fun t => ⟨.implements, t, none⟩

/-! ## Injection -/

open Pattern in
def annotations : Pattern :=
  star (Source.annotation ++ blanks1)

open Pattern in
def visibilityWord : Pattern :=
  oneOf ["private", "protected", "public"] ++ blanks1

open Pattern in
/-- A field marked for injection: its type and its name. -/
def injectedFieldPattern : Pattern :=
  lit "@" ++ oneOf ["Autowired", "Inject", "Resource"] ++ wordEdge ++
  opt (blanks ++ Source.shallowGroup) ++ blanks1 ++ annotations ++ opt visibilityWord ++
  opt (lit "final" ++ blanks1) ++ group 1 Source.qualifiedName ++ Source.generic ++ blanks1 ++
  group 2 Source.namePart ++ blanks ++ among ";="

open Pattern in
/-- A constructor marked for injection: its name, up to the opening parenthesis. -/
def injectedConstructorPattern : Pattern :=
  lit "@" ++ oneOf ["Autowired", "Inject"] ++ wordEdge ++
  opt (blanks ++ lit "(" ++ star (except "()") ++ lit ")") ++ blanks1 ++ annotations ++
  opt visibilityWord ++ group 1 Source.namePart ++ blanks ++ lit "("

open Pattern in
/-- A final field, which a generated constructor sets: its type and its name. -/
def finalFieldPattern : Pattern :=
  wordEdge ++ visibilityWord ++ lit "final" ++ blanks1 ++ group 1 Source.qualifiedName ++
  Source.generic ++ blanks1 ++ group 2 Source.namePart ++ blanks ++ lit ";"

/-- The references of the fields that a pattern finds. -/
def fieldsOf (p : Pattern) (kind : RelationKind) (masked : List Char) : List Reference :=
  (p.findAll masked).map fun m =>
    ⟨kind, Source.simpleName (m.group masked 1), some (m.group masked 2)⟩

/-- The parameters of the constructor that a match opens. -/
def constructorReferences (masked className : List Char) (m : Match) : List Reference :=
  if m.group masked 1 == className then
    let stop := Source.groupEnd masked (m.stop - 1)
    (Source.parameters (Text.slice masked m.stop (stop - 1))).map fun (type, name) =>
      ⟨.injects, Source.simpleName type, some name⟩
  else []

def injectionReferences (masked className : List Char) : List Reference :=
  fieldsOf injectedFieldPattern .injects masked ++
  (injectedConstructorPattern.findAll masked).flatMap (constructorReferences masked className) ++
  fieldsOf finalFieldPattern .injects masked

/-! ## Persistence -/

open Pattern in
def associationPattern : Pattern :=
  lit "@" ++ group 1 (oneOf ["OneToOne", "OneToMany", "ManyToOne", "ManyToMany"]) ++ wordEdge

/-- The kind of association that an annotation name stands for. -/
def associationKind (name : List Char) : RelationKind :=
  if name == "OneToOne".toList then .oneToOne
  else if name == "OneToMany".toList then .oneToMany
  else if name == "ManyToOne".toList then .manyToOne
  else .manyToMany

open Pattern in
/-- A field at the start of a line: its type, generic arguments and name. -/
def persistentFieldPattern : Pattern :=
  textStart ++ blanks ++ opt visibilityWord ++ star (oneOf ["static", "final", "transient"] ++ blanks1) ++
  group 1 Source.qualifiedName ++ blanks ++ group 2 Source.generic ++ blanks1 ++
  group 3 Source.namePart ++ blanks ++ among ";="

/-- The field that a line declares once annotations are dropped, as a reference to its element type. -/
def associatedField? (kind : RelationKind) (line : List Char) : Option Reference :=
  let cleaned := Source.eraseAnnotations line
  (persistentFieldPattern.matchStart? cleaned).map fun m =>
    ⟨kind, Source.elementType (m.group cleaned 1) (m.group cleaned 2), some (m.group cleaned 3)⟩

/-- The associations announced on a line; each belongs to the first field that follows on the line or on one
    of the lines after it. -/
def lineAssociations (line : List Char) (following : List (List Char)) : List Reference :=
  (associationPattern.findAll line).filterMap fun m =>
    (line.drop (Source.groupEnd line m.stop) :: following).findSome?
      (associatedField? (associationKind (m.group line 1)))

/-- The associations announced from line `i` of `count` on, looking at most `lookahead` lines ahead. Where that
    ends before the first line, it is counted from the last one. -/
def associationsFrom (lookahead : Int) (count : Nat) : Nat → List (List Char) → List Reference
  | _, [] => []
  | i, line :: rest =>
    let stop := Text.clampOffset count (i + 1 + lookahead)
    lineAssociations line (rest.take (stop - (i + 1))) ++ associationsFrom lookahead count (i + 1) rest

/-- The associations of a persistent class. -/
def persistenceReferences (lookahead : Int) (lines : List (List Char)) : List Reference :=
  associationsFrom lookahead lines.length 0 lines

/-! ## Fields -/

open Pattern in
/-- A field with a visibility: its type and its name. -/
def usedFieldPattern : Pattern :=
  wordEdge ++ visibilityWord ++ star (oneOf ["static", "final", "transient", "volatile"] ++ blanks1) ++
  notAhead (oneOf ["class", "interface", "enum", "abstract"] ++ wordEdge) ++
  group 1 Source.qualifiedName ++ Source.generic ++ Source.arrayBrackets ++ blanks1 ++
  group 2 Source.namePart ++ blanks ++ among ";="

def fieldReferences (masked : List Char) : List Reference :=
  fieldsOf usedFieldPattern .uses masked

/-! ## Files -/

/-- The relations that one file shows: its own, and the plain fields that count where nothing else links the
    two classes. -/
structure FileRelations where
  source : String
  strong : List Relation
  weak : List Relation
deriving Repr, BEq

/-- The relation that a reference makes, if the index knows its type and it is not the class itself. -/
def Reference.resolve? (index : NameIndex) (source : String) (r : Reference) : Option Relation :=
  ((index.resolve (String.ofList r.type)).filter fun f => f.name != source).map fun f =>
    ⟨source, f.name, r.kind, r.field.map String.ofList⟩

/-- Whether a class is persistent. -/
def ClassFact.isEntity (f : ClassFact) : Bool :=
  f.stereotype == .entity || f.hasAnnotation "Entity"

/-- The references of a class that make it what it is. -/
def strongReferences (lookahead : Int) (masked : List Char) (d : Source.TypeDeclaration) (owner : ClassFact) :
    List Reference :=
  supertypeReferences d ++ injectionReferences masked d.name ++
  if owner.isEntity then persistenceReferences lookahead (Text.lines masked) else []

/-- The relations of a source text, if it declares a class that the index knows. -/
def scanRelations (index : NameIndex) (lookahead : Int) (text : List Char) : Option FileRelations := do
  let masked := Source.mask text
  let d ← Source.declaration? masked
  let owner ← index.resolve (String.ofList d.name)
  return {
    source := owner.name
    strong := (strongReferences lookahead masked d owner).filterMap (Reference.resolve? index owner.name)
    weak := (fieldReferences masked).filterMap (Reference.resolve? index owner.name) }

end SpringAtlas

import SpringAtlas.Source.Generics
import SpringAtlas.Source.Mask

/-!
# `Source.Declaration` — the type a source file declares

A file is represented by the first class, interface or enum declared in it. The declaration's *header* is its
text up to the opening brace, without generic sections; superclass and interfaces are read from the header.

## Contents
* `DeclarationKind`, `TypeDeclaration`, `declaration?`
* `TypeDeclaration.superclass?`, `TypeDeclaration.interfaces`
* `packageName?`, `annotationNames` — the package and the annotations of a file
-/

namespace SpringAtlas.Source

inductive DeclarationKind where
  /-- a class -/
  | ordinary
  | interface
  | enum
deriving Repr, BEq, DecidableEq

namespace DeclarationKind

def keyword : DeclarationKind → String
  | .ordinary => "class"
  | .interface => "interface"
  | .enum => "enum"

/-- The kind that a keyword announces. -/
def ofKeyword (cs : List Char) : DeclarationKind :=
  if cs = "interface".toList then .interface else if cs = "enum".toList then .enum else .ordinary

end DeclarationKind

/-- The first type declared in a file. -/
structure TypeDeclaration where
  kind : DeclarationKind
  name : List Char
  /-- offset of the keyword -/
  start : Nat
  /-- the text from the keyword to the opening brace, without generic sections, blanks squeezed -/
  header : List Char
deriving Repr, BEq

/-! ## Patterns -/

open Pattern in
/-- A declaration keyword that is no part of a longer name, and the declared name. -/
def declarationPattern : Pattern :=
  notBehind (fun c => c == '@' || isQualifiedPart c) ++ wordEdge ++
  group 1 (oneOf ["class", "interface", "enum"]) ++ blanks1 ++ group 2 declaredName

open Pattern in
def annotationPattern : Pattern :=
  lit "@" ++ blanks ++ group 1 (one isNameStart ++ star (one isQualifiedPart))

open Pattern in
def packagePattern : Pattern :=
  lineStart ++ blanks ++ lit "package" ++ blanks1 ++
  group 1 (plus (one fun c => Text.isWord c || c == '.')) ++ blanks ++ lit ";"

open Pattern in
def extendsPattern : Pattern :=
  wordEdge ++ lit "extends" ++ blanks1 ++ group 1 qualifiedName

open Pattern in
def implementsPattern : Pattern :=
  wordEdge ++ lit "implements" ++ blanks1 ++
  group 1 (plus (one fun c => isQualifiedPart c || c == ',' || Text.isBlank c))

/-! ## The declaration -/

/-- The first type declared in a masked text. -/
def declaration? (masked : List Char) : Option TypeDeclaration :=
  (declarationPattern.search? masked).map fun m =>
    let body := (masked.drop m.stop).takeWhile (· != '{')
    { kind := .ofKeyword (m.group masked 1)
      name := m.group masked 2
      start := m.start
      header := Text.squeeze (stripGenerics (Text.slice masked m.start m.stop ++ body)) }

namespace TypeDeclaration

/-- The simple name in the first extends clause. -/
def superclass? (d : TypeDeclaration) : Option (List Char) :=
  (extendsPattern.search? d.header).map fun m => simpleName (m.group d.header 1)

/-- The simple names in the first implements clause. -/
def interfaces (d : TypeDeclaration) : List (List Char) :=
  match implementsPattern.search? d.header with
  | some m => typeNames (m.group d.header 1)
  | none => []

end TypeDeclaration

/-! ## Package and annotations -/

/-- The package named in a masked text. -/
def packageName? (masked : List Char) : Option (List Char) :=
  (packagePattern.search? masked).map fun m => m.group masked 1

/-- The simple names of the annotations in a masked text, in order, with repetitions. The keyword of an
    annotation declaration does not count. -/
def annotationNames (masked : List Char) : List (List Char) :=
  ((annotationPattern.findAll masked).map fun m => m.group masked 1).filterMap fun name =>
    if name = "interface".toList then none else some (simpleName name)

end SpringAtlas.Source

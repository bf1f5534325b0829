import SpringAtlas.Fact.Mapping
import SpringAtlas.Source.Declaration
import SpringAtlas.Text.Lines

/-!
# `Fact.Extract` — from a source text to its fact

The fact of a file is read from the masked text; only path literals and parameter lists are taken from the
text as it stands, at the same places. An endpoint pairs a mapping annotation with the first method signature
that follows on its line or on one of the next few lines.

## Contents
* `ExtractionLimits`
* `handlerFrom`, `endpointAt`, `endpoints`
* `extract` — the fact of a file, if it declares a type
-/

namespace SpringAtlas

/-- How far the extraction looks. -/
structure ExtractionLimits where
  /-- longer endpoint paths are dropped -/
  maxPathLength : Int := 200
  /-- lines searched after a mapping annotation for its method -/
  lookahead : Nat := 4
deriving Repr, BEq

/-- A handler method: return type, name and parameter text. -/
structure Handler where
  returnType : List Char
  name : List Char
  parameters : List Char
deriving Repr, BEq

/-- The first signature at the given places, each a line number and an offset in the line. -/
def handlerFrom (raw masked : List (List Char)) : List (Nat × Nat) → Except FactError (Option Handler)
  | [] => .ok none
  | (i, start) :: places =>
    match masked[i]? with
    | none => .error (.missingLine i)
    | some line =>
      match signaturePattern.searchFrom? line start with
      | none => handlerFrom raw masked places
      | some m =>
        match raw[i]?, m.span? 3 with
        | some rawLine, some (s, e) =>
          .ok (some ⟨Text.squeeze (m.group line 1), m.group line 2, Text.trim (Text.slice rawLine s e)⟩)
        | _, _ => .error (.missingLine i)

/-- The places where the handler of the annotation on line `i` is looked for. -/
def handlerPlaces (limits : ExtractionLimits) (count i start : Nat) : List (Nat × Nat) :=
  (i, start) :: (List.range' (i + 1) (min limits.lookahead (count - 1 - i))).map fun j => (j, 0)

/-- The endpoint announced on line `i`. -/
def endpointAt (limits : ExtractionLimits) (raw masked : List (List Char)) (root className : List Char)
    (declarationLine : Nat) (i : Nat) (maskedLine : List Char) : Except FactError (Option Endpoint) := do
  match raw[i]? with
  | none => throw (.missingLine i)
  | some rawLine =>
    match ← mappingOn rawLine maskedLine (declarationLine < i) with
    | none => return none
    | some mapping =>
      if limits.maxPathLength < mapping.path.length then return none
      match ← handlerFrom raw masked (handlerPlaces limits masked.length i mapping.stop) with
      | none => return none
      | some h =>
        return some {
          method := mapping.method
          path := String.ofList (normalizePath root mapping.path)
          handler := String.ofList h.name
          returnType := String.ofList h.returnType
          parameters := String.ofList (Text.squeeze h.parameters)
          className := some (String.ofList className) }

/-- The path of the request mapping in front of the type, or nothing. -/
def classPath (text masked : List Char) (d : Source.TypeDeclaration) : List Char :=
  match requestMappingPattern.searchIn? masked 0 d.start with
  | none => []
  | some m =>
    let start := Text.afterLast (· == '\n') (text.take m.start)
    let stop := m.stop + ((text.drop m.stop).takeWhile (· != '\n')).length
    (mappingPath? (Text.slice text start stop) (m.stop - start)).getD []

/-- The endpoints of a controller, in source order. -/
def endpoints (limits : ExtractionLimits) (text masked : List Char) (d : Source.TypeDeclaration) :
    Except FactError (List Endpoint) := do
  let raw := Text.lines text
  let maskedLines := Text.lines masked
  let root := classPath text masked d
  let found ← maskedLines.zipIdx.mapM fun (line, i) =>
    endpointAt limits raw maskedLines root d.name (Text.newlinesBefore masked d.start) i line
  return found.filterMap id

/-- The role of a declared type: interfaces and enums go by their kind, classes by their annotations. -/
def stereotypeOf (kind : Source.DeclarationKind) (annotations : List String) : Stereotype :=
  match kind with
  | .interface => .interface
  | .enum => .enum
  | .ordinary => stereotypeRules.classify annotations

/-- The fact of a source file, if the file declares a type. -/
def extract (limits : ExtractionLimits) (path : String) (text : List Char) :
    Except FactError (Option ClassFact) := do
  let masked := Source.mask text
  match Source.declaration? masked with
  | none => return none
  | some d =>
    let annotations := (Source.annotationNames masked).map String.ofList
    let stereotype := stereotypeOf d.kind annotations
    let fact ← ClassFact.checked {
      name := String.ofList d.name
      packageName := (Source.packageName? masked).map String.ofList
      stereotype
      annotations
      superclass := d.superclass?.map String.ofList
      interfaces := d.interfaces.map String.ofList
      fieldCount := (fieldPattern.findAll masked).length
      methodCount := (methodPattern.findAll masked).length
      filePath := path }
    if stereotype.isController then
      return some { fact with endpoints := ← endpoints limits text masked d }
    else return some fact

end SpringAtlas

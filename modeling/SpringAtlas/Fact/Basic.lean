import SpringAtlas.Json
import SpringAtlas.Rule
import SpringAtlas.Text.Search

/-!
# `Fact.Basic` — what a source file says about its type

A `ClassFact` records one declared type: its name and package, the role it plays (its *stereotype*), its
annotations and supertypes, the sizes of its body and, for a controller, the HTTP endpoints it serves.

## Contents
* `Stereotype`, `stereotypeRules` — roles and how annotations decide them
* `HttpMethod`, `Endpoint`
* `ClassFact`, `ClassFact.checked` — a fact has a name, and its annotations are distinct
-/

namespace SpringAtlas

/-! ## Stereotypes -/

/-- The role of a declared type. -/
inductive Stereotype where
  | controller
  | restController
  | service
  | repository
  | entity
  | component
  | configuration
  | interface
  | enum
  | other
deriving Repr, BEq, DecidableEq

namespace Stereotype

def label : Stereotype → String
  | controller => "Controller"
  | restController => "RestController"
  | service => "Service"
  | repository => "Repository"
  | entity => "Entity"
  | component => "Component"
  | configuration => "Configuration"
  | interface => "Interface"
  | enum => "Enum"
  | other => "Other"

def all : List Stereotype :=
  [controller, restController, service, repository, entity, component, configuration, interface, enum, other]

def ofLabel? (s : String) : Option Stereotype :=
  all.find? fun r => r.label == s

/-- Whether types of this role serve HTTP endpoints. -/
def isController (s : Stereotype) : Bool :=
  s == controller || s == restController

end Stereotype

/-- The role that a set of annotations gives, strongest annotation first. -/
def stereotypeRules : RuleTable (List String) Stereotype where
  rules :=
    [⟨"rest-controller", (·.contains "RestController"), .restController⟩,
     ⟨"controller", (·.contains "Controller"), .controller⟩,
     ⟨"service", (·.contains "Service"), .service⟩,
     ⟨"repository", (·.contains "Repository"), .repository⟩,
     ⟨"entity", (·.contains "Entity"), .entity⟩,
     ⟨"component", (·.contains "Component"), .component⟩,
     ⟨"configuration", (·.contains "Configuration"), .configuration⟩]
  fallback := .other

/-! ## Endpoints -/

inductive HttpMethod where
  | get
  | post
  | put
  | delete
  | patch
deriving Repr, BEq, DecidableEq

namespace HttpMethod

def label : HttpMethod → String
  | get => "GET"
  | post => "POST"
  | put => "PUT"
  | delete => "DELETE"
  | patch => "PATCH"

def all : List HttpMethod :=
  [get, post, put, delete, patch]

def ofLabel? (s : String) : Option HttpMethod :=
  all.find? fun m => m.label == s

end HttpMethod

/-- One HTTP endpoint of a controller. -/
structure Endpoint where
  method : HttpMethod
  /-- normalized: a leading slash, single slashes, none at the end -/
  path : String
  handler : String
  returnType : String
  parameters : String := ""
  className : Option String := none
  moduleName : Option String := none
deriving Repr, BEq, DecidableEq

namespace Endpoint

/-- The endpoint as `METHOD path`. -/
def signature (e : Endpoint) : String :=
  e.method.label ++ " " ++ e.path

def toJson (e : Endpoint) : Json :=
  .obj [("http_method", .str e.method.label), ("path", .str e.path), ("method_name", .str e.handler),
    ("return_type", .str e.returnType), ("parameters", .str e.parameters),
    ("class_name", .ofOption e.className), ("module_name", .ofOption e.moduleName)]

end Endpoint

/-! ## Facts -/

/-- What is known about one declared type. -/
structure ClassFact where
  name : String
  packageName : Option String := none
  stereotype : Stereotype := .other
  /-- distinct, in order of first appearance -/
  annotations : List String := []
  superclass : Option String := none
  interfaces : List String := []
  fieldCount : Int := 0
  methodCount : Int := 0
  filePath : String := ""
  endpoints : List Endpoint := []
  moduleName : Option String := none
deriving Repr, BEq, DecidableEq

/-- Why no fact can be made. -/
inductive FactError where
  | emptyName
  /-- a line number without a line in the source text -/
  | missingLine (number : Nat)
  | unknownMethod (label : String)
deriving Repr, BEq, DecidableEq

def FactError.message : FactError → String
  | emptyName => "ClassFact name must not be empty"
  | missingLine _ => "list index out of range"
  | unknownMethod label => "'" ++ label ++ "' is not a valid HttpMethod"

namespace ClassFact

/-- The fact with repeated annotations removed, if it has a name. -/
def checked (f : ClassFact) : Except FactError ClassFact :=
  if f.name.isEmpty then .error .emptyName
  else .ok { f with annotations := Text.distinct f.annotations }

/-- The name with its package in front, if a package is declared. -/
def qualifiedName (f : ClassFact) : String :=
  match f.packageName with
  | some p => if p.isEmpty then f.name else p ++ "." ++ f.name
  | none => f.name

def hasAnnotation (f : ClassFact) (name : String) : Bool :=
  f.annotations.contains name

/-- The fact and its endpoints, placed in a module. -/
def assignModule (f : ClassFact) (name : Option String) : ClassFact :=
  { f with moduleName := name, endpoints := f.endpoints.map fun e => { e with moduleName := name } }

def toJson (f : ClassFact) : Json :=
  .obj [("name", .str f.name), ("package_name", .ofOption f.packageName),
    ("stereotype", .str f.stereotype.label), ("annotations", .ofStrings f.annotations),
    ("superclass", .ofOption f.superclass), ("interfaces", .ofStrings f.interfaces),
    ("field_count", .int f.fieldCount), ("method_count", .int f.methodCount),
    ("file_path", .str f.filePath), ("module_name", .ofOption f.moduleName),
    ("endpoints", .arr (f.endpoints.map Endpoint.toJson))]

end ClassFact

end SpringAtlas

import SpringAtlas.Fact.Basic
import SpringAtlas.Source.Generics
import SpringAtlas.Source.Group
import SpringAtlas.Source.Literal
import SpringAtlas.Text.Lines

/-!
# `Fact.Mapping` — mapping annotations and handler signatures

An endpoint is written as a mapping annotation with a path, followed by the handler method. This module reads
the two halves: the path of an annotation on a line, and the signature of a method.

## Contents
* `normalizePath` — class path and method path joined
* `mappingPath?` — the path literal of an annotation
* `Mapping`, `mappingOn` — the mapping annotation of a line
* `signaturePattern`, `fieldPattern`, `methodPattern` — members of a type
-/

namespace SpringAtlas

/-! ## Paths -/

/-- Each run of slashes as one slash. -/
def squeezeSlashes : List Char → List Char
  | [] => []
  | c :: cs =>
    if c == '/' && cs.head? == some '/' then squeezeSlashes cs else c :: squeezeSlashes cs

/-- The two paths joined: one leading slash, single slashes, none at the end. -/
def normalizePath (root path : List Char) : List Char :=
  '/' :: Text.trimWhere (· == '/') (squeezeSlashes (root ++ '/' :: path))

open Pattern in
def pathAttribute : Pattern :=
  oneOf ["value", "path"] ++ blanks ++ lit "=" ++ blanks

open Pattern in
/-- A path as the first argument. -/
def leadingPathPattern : Pattern :=
  textStart ++ blanks ++ lit "(" ++ blanks ++ opt pathAttribute ++ opt (lit "\x7b") ++ blanks ++
  Source.quotedText 1

open Pattern in
/-- A path as a named argument. -/
def namedPathPattern : Pattern :=
  wordEdge ++ oneOf ["value", "path"] ++ blanks ++ lit "=" ++ blanks ++ opt (lit "\x7b") ++ blanks ++
  Source.quotedText 1

/-- The path in the arguments of a mapping annotation: empty if they hold no literal, `none` if they hold literals
    but no path. -/
def argumentsPath? (arguments : List Char) : Option (List Char) :=
  match (leadingPathPattern.search? arguments).or (namedPathPattern.search? arguments) with
  | some m => some (m.group arguments 1)
  | none => if arguments.contains '"' then none else some []

/-- The path of a mapping annotation whose arguments start at offset `start` of its line; it is empty if there are
    none. -/
def mappingPath? (line : List Char) (start : Nat) : Option (List Char) :=
  let stop := Source.groupEnd line start
  if stop = start then some [] else argumentsPath? (Text.slice line start stop)

/-- The same for an offset that may be negative and then counts from the end; `none` outside if it lies before the
    line. -/
def mappingPathAt? (line : List Char) (start : Int) : Option (Option (List Char)) :=
  (Source.groupEndAt? line start).map fun stop =>
    if stop = start then some []
    else argumentsPath? (Text.slice line (Text.clampOffset line.length start) (Text.clampOffset line.length stop))

/-! ## Annotations -/

open Pattern in
/-- A mapping annotation that names its HTTP method. -/
def mappingPattern : Pattern :=
  lit "@" ++ group 1 (oneOf ["Get", "Post", "Put", "Delete", "Patch"]) ++ lit "Mapping" ++ wordEdge

open Pattern in
def requestMappingPattern : Pattern :=
  lit "@RequestMapping" ++ wordEdge

open Pattern in
def requestMethodPattern : Pattern :=
  lit "RequestMethod" ++ blanks ++ lit "." ++ blanks ++ group 1 (plus word)

/-- The method with the given name, in any case. -/
def HttpMethod.ofName? (name : List Char) : Option HttpMethod :=
  ofLabel? (String.ofList (Text.upper name))

/-- A mapping annotation on a line: its method, its path and the offset where its arguments end. -/
structure Mapping where
  method : HttpMethod
  path : List Char
  stop : Nat
deriving Repr, BEq

/-- The HTTP method of the annotation on a masked line, and the offset where its arguments start. Inside a
    type, a plain request mapping counts too; it serves GET unless it names another known method. -/
def mappingMethod (masked : List Char) (inside : Bool) : Except FactError (Option (HttpMethod × Nat)) :=
  match mappingPattern.search? masked with
  | some m =>
    match HttpMethod.ofName? (m.group masked 1) with
    | some method => .ok (some (method, m.stop))
    | none => .error (.unknownMethod (String.ofList (Text.upper (m.group masked 1))))
  | none =>
    if inside then
      match requestMappingPattern.search? masked with
      | none => .ok none
      | some m =>
        match requestMethodPattern.searchIn? masked m.stop (Source.groupEnd masked m.stop) with
        | none => .ok (some (.get, m.stop))
        | some v => .ok ((HttpMethod.ofName? (v.group masked 1)).map fun method => (method, m.stop))
    else .ok none

/-- The mapping annotation of a line, whose path is read from the line as it stands. -/
def mappingOn (raw masked : List Char) (inside : Bool) : Except FactError (Option Mapping) := do
  match ← mappingMethod masked inside with
  | none => return none
  | some (method, start) =>
    return (mappingPath? raw start).map fun path => ⟨method, path, Source.groupEnd masked start⟩

/-! ## Members -/

open Pattern in
def visibility : Pattern :=
  oneOf ["public", "protected", "private"] ++ blanks1

open Pattern in
def modifiers : Pattern :=
  star (oneOf ["static", "final", "transient", "volatile", "synchronized", "abstract", "native",
    "default"] ++ blanks1)

open Pattern in
/-- None of the words stands here as a whole word. -/
def notWord (ws : List String) : Pattern :=
  notAhead (oneOf ws ++ wordEdge)

/-- Words that start no type of a field or method. -/
def declarationWords : List String :=
  ["class", "interface", "enum", "record", "static", "final", "abstract", "new", "return"]

open Pattern in
/-- Type parameters of a method, or nothing. -/
def typeParameters : Pattern :=
  opt (lit "<" ++ star (except ">") ++ lit ">" ++ blanks)

open Pattern in
def typeAndName : Pattern :=
  Source.qualifiedName ++ Source.generic ++ Source.arrayBrackets ++ blanks1 ++ Source.namePart ++ blanks

open Pattern in
/-- A field with a visibility. -/
def fieldPattern : Pattern :=
  wordEdge ++ visibility ++ modifiers ++ notWord declarationWords ++ typeAndName ++ among ";="

open Pattern in
/-- A method with a visibility. -/
def methodPattern : Pattern :=
  wordEdge ++ visibility ++ modifiers ++ typeParameters ++ notWord declarationWords ++ typeAndName ++
  lit "("

open Pattern in
/-- A method signature: return type, name and parameters. -/
def signaturePattern : Pattern :=
  notBehind (fun c => Source.isQualifiedPart c || c == '@') ++ opt visibility ++ modifiers ++
  typeParameters ++
  notWord ["return", "new", "throw", "else", "case", "public", "protected", "private", "class",
    "interface", "enum"] ++
  group 1 (Source.qualifiedName ++ Source.generic ++ Source.arrayBrackets) ++ blanks1 ++
  group 2 Source.namePart ++ blanks ++ lit "(" ++
  group 3 Source.shallowText ++ lit ")"

end SpringAtlas

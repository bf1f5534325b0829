import SpringAtlas.Pattern.Search
import SpringAtlas.Text.Search

/-!
# `Source.Generics` — type names and their argument lists

Type names appear with packages, array brackets and generic arguments, `a.b.Map<K, List<V>>[]`. This module
takes such names apart.

## Contents
* `stripGenerics` — the text without its `<...>` sections, innermost first
* `simpleName`, `typeNames` — the bare names of types
* `genericArguments`, `elementType` — the arguments of a generic section
-/

namespace SpringAtlas.Source

/-! ## Removing generic sections -/

def isAngle (c : Char) : Bool :=
  c == '<' || c == '>'

/-- The worker of `stripInnermost`: skips `skip` characters of a section already found. -/
def stripFrom : Nat → List Char → List Char
  | _, [] => []
  | skip + 1, _ :: cs => stripFrom skip cs
  | 0, c :: cs =>
    let inner := cs.takeWhile fun d => !isAngle d
    if c == '<' && cs[inner.length]? == some '>' then stripFrom (inner.length + 1) cs
    else c :: stripFrom 0 cs

/-- The text without its innermost sections, those with no angle bracket inside. -/
def stripInnermost (cs : List Char) : List Char :=
  stripFrom 0 cs

/-- The text without its `<...>` sections: innermost ones are removed for as long as there are any. -/
def stripGenerics (cs : List Char) : List Char :=
  if (stripInnermost cs).length < cs.length then stripGenerics (stripInnermost cs) else cs
termination_by cs.length

/-! ## Names -/

def isNameStart (c : Char) : Bool :=
  Text.isAsciiLetter c || c == '_' || c == '$'

def isNamePart (c : Char) : Bool :=
  Text.isWord c || c == '$'

/-- A character of a possibly qualified name. -/
def isQualifiedPart (c : Char) : Bool :=
  isNamePart c || c == '.'

/-- A name that starts with an ASCII letter, an underscore or a dollar sign. -/
def isName : List Char → Bool
  | [] => false
  | c :: cs => isNameStart c && cs.all isNamePart

/-- The text after the last dot. -/
def lastSegment (cs : List Char) : List Char :=
  cs.drop (Text.afterLast (· == '.') cs)

/-- The last segment of a type name, without generic arguments and array brackets. -/
def simpleName (cs : List Char) : List Char :=
  lastSegment (Text.trim (Text.replace "[]".toList [] (stripGenerics cs)))

/-- The simple names in a comma-separated list of types; what is not a name is dropped. -/
def typeNames (cs : List Char) : List (List Char) :=
  ((Text.splitWhere (· == ',') (stripGenerics cs)).map simpleName).filter isName

/-! ## Arguments -/

/-- The pieces of `cs` between commas at depth zero. `opens` and `closes` change the depth, which may go
    below zero; `current` is the piece being read, reversed. The last piece is returned apart. -/
def splitTopLevel (opens closes : Char → Bool) :
    Int → List Char → List Char → List (List Char) × List Char
  | _, current, [] => ([], current.reverse)
  | depth, current, c :: cs =>
    let depth := if opens c then depth + 1 else if closes c then depth - 1 else depth
    if c == ',' && depth == 0 then
      let r := splitTopLevel opens closes depth [] cs
      (current.reverse :: r.1, r.2)
    else splitTopLevel opens closes depth (c :: current) cs

/-- The top-level arguments of a `<...>` section, trimmed. A last one that is blank does not count. -/
def genericArguments (brackets : List Char) : List (List Char) :=
  if brackets.head? == some '<' then
    let inner := brackets.tail.dropLast
    let r := splitTopLevel (· == '<') (· == '>') 0 [] inner
    r.1.map Text.trim ++ (if (Text.trim r.2).isEmpty then [] else [Text.trim r.2])
  else []

/-- The element type of a container with one generic argument, else the type itself. -/
def elementType (type brackets : List Char) : List Char :=
  match genericArguments brackets with
  | [argument] => simpleName argument
  | _ => simpleName type

/-! ## Patterns -/

open Pattern in
/-- A generic argument list with up to three levels, or nothing. -/
def generic : Pattern :=
  let plain := except "<>"
  let third := lit "<" ++ star plain ++ lit ">"
  let second := lit "<" ++ star (plain <|> third) ++ lit ">"
  opt (lit "<" ++ star (plain <|> second) ++ lit ">")

open Pattern in
/-- Any number of array brackets. -/
def arrayBrackets : Pattern :=
  star (blanks ++ lit "[]")

open Pattern in
/-- A possibly qualified name, with any characters a name may hold. -/
def qualifiedName : Pattern :=
  plus (one isQualifiedPart)

open Pattern in
def namePart : Pattern :=
  plus (one isNamePart)

open Pattern in
/-- A declared name: an ASCII letter, underscore or dollar sign, then any name characters. -/
def declaredName : Pattern :=
  one isNameStart ++ star (one isNamePart)

end SpringAtlas.Source

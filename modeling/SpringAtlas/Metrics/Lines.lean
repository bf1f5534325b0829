import SpringAtlas.Text.Lines
import SpringAtlas.Text.Search

/-!
# `Metrics.Lines` — kinds of lines

Every line of a source file is blank, a comment or code. A scanner with two states goes over the lines: a line
that opens a block comment and does not close it puts the scanner into the comment, and a line that closes one
takes it out. A blank line is blank in either state.
-/

namespace SpringAtlas

inductive LineKind where
  | blank
  | comment
  | code
deriving Repr, BEq, DecidableEq

def closesComment (cs : List Char) : Bool :=
  Text.contains "*/".toList cs

/-- The kind of a trimmed line, and whether a block comment is open behind it. -/
def lineKind (inComment : Bool) (line : List Char) : LineKind × Bool :=
  if line.isEmpty then (.blank, inComment)
  else if inComment then (.comment, !closesComment line)
  else if "/*".toList.isPrefixOf line then (.comment, !closesComment (line.drop 2))
  else if "//".toList.isPrefixOf line then (.comment, false)
  else (.code, false)

/-- The kinds of some trimmed lines. -/
def lineKinds : Bool → List (List Char) → List LineKind
  | _, [] => []
  | inComment, line :: rest =>
    let (kind, after) := lineKind inComment line
    kind :: lineKinds after rest

def packageWord : List Char :=
  "package ".toList

/-- The package that a trimmed line declares. -/
def declaredPackage? (line : List Char) : Option (List Char) :=
  if packageWord.isPrefixOf line then
    let name := Text.trim ((line.drop packageWord.length).filter (· != ';'))
    if name.isEmpty then none else some name
  else none

/-- The lines of a text by kind, and the packages that lines declare. -/
structure LineCounts where
  total : Nat := 0
  code : Nat := 0
  comment : Nat := 0
  blank : Nat := 0
  packages : List String := []
deriving Repr, BEq, DecidableEq

def countLines (text : List Char) : LineCounts :=
  let lines := (Text.splitLines text).map Text.trim
  let kinds := lineKinds false lines
  { total := kinds.length
    code := kinds.count .code
    comment := kinds.count .comment
    blank := kinds.count .blank
    packages := (lines.filterMap declaredPackage?).map String.ofList }

end SpringAtlas

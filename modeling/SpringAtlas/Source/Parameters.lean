import SpringAtlas.Source.Generics
import SpringAtlas.Source.Group

/-!
# `Source.Parameters` — parameter lists

A parameter list is split at its top-level commas. Of each parameter, annotations and the word `final` are
dropped, and the type and the name are read.
-/

namespace SpringAtlas.Source

open Pattern in
/-- A parameter: its type and its name. -/
def parameterPattern : Pattern :=
  blanks ++
  group 1 (qualifiedName ++ blanks ++ generic ++ arrayBrackets ++ opt (lit "...")) ++ blanks1 ++
  group 2 namePart ++ blanks ++ lastLineEnd

open Pattern in
def finalWord : Pattern :=
  wordEdge ++ lit "final" ++ wordEdge

/-- Annotations replaced by a space each. -/
def eraseAnnotations (cs : List Char) : List Char :=
  annotation.replaceAll [' '] cs

/-- The type and the name of one parameter. -/
def parameter? (piece : List Char) : Option (List Char × List Char) :=
  let cleaned := finalWord.replaceAll [' '] (eraseAnnotations piece)
  (parameterPattern.matchStart? cleaned).map fun m => (m.group cleaned 1, m.group cleaned 2)

/-- The types and names of a parameter list; what is no parameter is dropped. -/
def parameters (cs : List Char) : List (List Char × List Char) :=
  let (pieces, last) := splitTopLevel (fun c => c == '<' || c == '(') (fun c => c == '>' || c == ')')
    0 [] cs
  (pieces ++ [last]).filterMap parameter?

end SpringAtlas.Source

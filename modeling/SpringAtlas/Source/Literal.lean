import SpringAtlas.Pattern.Search

/-!
# `Source.Literal` — string literals and constants

Values are read from the text as it stands: the first quoted literal of an expression, and the constants
`static final String NAME = "value";` that later arguments may refer to.
-/

namespace SpringAtlas.Source

open Pattern in
/-- A double-quoted text on one line, captured as group `i`. -/
def quotedText (i : Nat) : Pattern :=
  lit "\"" ++ group i (star (except "\"\n")) ++ lit "\""

/-- The inside of the first double-quoted text. -/
def firstLiteral? (text : List Char) : Option (List Char) :=
  ((quotedText 1).search? text).map fun m => m.group text 1

open Pattern in
/-- A string constant: its name in group `i` and its value in group `j`, after two modifiers. -/
def constantAfter (first second : String) (i j : Nat) : Pattern :=
  wordEdge ++ lit first ++ blanks1 ++ lit second ++ blanks1 ++ lit "String" ++ blanks1 ++
  group i (plus word) ++ blanks ++ lit "=" ++ blanks ++ quotedText j ++ blanks ++ lit ";"

def constantPattern : Pattern :=
  constantAfter "static" "final" 1 2 <|> constantAfter "final" "static" 3 4

/-- The string constants that a text declares; the first declaration of a name counts. -/
def stringConstants (text : List Char) : List (List Char × List Char) :=
  (constantPattern.findAll text).foldl (fun found m =>
    let entry := match m.group? text 1 with
      | some name => (name, m.group text 2)
      | none => (m.group text 3, m.group text 4)
    if (found.lookup entry.1).isSome then found else found ++ [entry]) []

end SpringAtlas.Source

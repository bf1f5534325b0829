import SpringAtlas.Pattern.Search

/-!
# `Source.Group` — parenthesised groups

Argument lists of annotations and calls are found by matching parentheses. `groupEnd` gives the offset just
behind the group that opens at an offset, blanks and tabs before it allowed. Patterns cannot count, so a pattern
that spans an argument list takes one level of parentheses inside it.
-/

namespace SpringAtlas.Source

/-- The number of characters up to and including the parenthesis that brings the depth back to zero. -/
def groupLength? : Nat → List Char → Option Nat
  | _, [] => none
  | depth, c :: cs =>
    if c == '(' then (groupLength? (depth + 1) cs).map (· + 1)
    else if c == ')' then
      if depth ≤ 1 then some 1 else (groupLength? (depth - 1) cs).map (· + 1)
    else (groupLength? depth cs).map (· + 1)

/-- The offset just behind a parenthesised group that starts at `pos`: the end of the text if the group does
    not close, and `pos` itself if none starts there. -/
def groupEnd (text : List Char) (pos : Nat) : Nat :=
  let gap := ((text.drop pos).takeWhile fun c => c == ' ' || c == '\t').length
  let rest := text.drop (pos + gap)
  if rest.head? == some '(' then
    match groupLength? 0 rest with
    | some n => pos + gap + n
    | none => text.length
  else pos

/-- The same for an offset that may be negative and then counts from the end; from there on the text is read as if
    its start followed its end. An offset before the text has no group. -/
def groupEndAt? (text : List Char) (pos : Int) : Option Int :=
  let back := (-pos).toNat
  if text.length < back then none
  else if pos < 0 then some ((groupEnd (text.drop (text.length - back) ++ text) 0 : Int) - back)
  else some (groupEnd text pos.toNat)

/-! ## Patterns -/

open Pattern in
/-- Text with at most one level of parentheses. -/
def shallowText : Pattern :=
  star (except "()" <|> lit "(" ++ star (except "()") ++ lit ")")

open Pattern in
/-- An argument list with at most one level of parentheses inside. -/
def shallowGroup : Pattern :=
  lit "(" ++ shallowText ++ lit ")"

open Pattern in
/-- An annotation with its arguments, if it has any. -/
def annotation : Pattern :=
  lit "@" ++ plus (one fun c => Text.isWord c || c == '.') ++ opt (blanks ++ shallowGroup)

end SpringAtlas.Source

import SpringAtlas.Source.Generics
import SpringAtlas.Source.Literal

/-!
# `Source.Arguments` — the values of argument lists

The arguments of an annotation or a call are split and recognised in the masked text; the values of string
literals are read from the text as it stands, at the same offsets. An expression is a literal, the name of a
string constant, a sum of those, or an array of expressions in braces.

## Contents
* `Fragment` — a piece of source in both forms
* `argumentSpans` — where the arguments of a list stand
* `Fragment.values` — the values of an expression
* `Arguments`, `Arguments.named?`, `Arguments.positional`, `Arguments.first?`
-/

namespace SpringAtlas.Source

/-! ## Spans -/

/-- The spans of pieces that stand one after another, from `start`, with one character between them. -/
def spansFrom (start : Nat) : List (List Char) → List (Nat × Nat)
  | [] => []
  | piece :: rest => (start, start + piece.length) :: spansFrom (start + piece.length + 1) rest

/-- The spans of the arguments in a masked list: the pieces between commas outside of any bracket. A last one
    that is blank does not count. -/
def argumentSpans (masked : List Char) : List (Nat × Nat) :=
  let (pieces, last) := splitTopLevel (fun c => "(\x7b[".toList.contains c)
    (fun c => ")\x7d]".toList.contains c) 0 [] masked
  spansFrom 0 (pieces ++ if (Text.trim last).isEmpty then [] else [last])

/-! ## Expressions -/

/-- A piece of source as it stands and in its masked form, which have one length. -/
structure Fragment where
  raw : List Char
  masked : List Char
deriving Repr, BEq

namespace Fragment

/-- The piece from offset `i` up to offset `j`. -/
def slice (f : Fragment) (i j : Nat) : Fragment :=
  ⟨Text.slice f.raw i j, Text.slice f.masked i j⟩

/-- The inside of an array in braces. -/
def inner? (f : Fragment) : Option Fragment :=
  let trimmed := Text.trim f.masked
  if trimmed.head? == some '\x7b' && trimmed.getLast? == some '\x7d' && !f.masked.isEmpty then
    some (f.slice ((f.masked.takeWhile (· != '\x7b')).length + 1)
      (Text.afterLast (· == '\x7d') f.masked - 1))
  else none

theorem length_slice_le (f : Fragment) (i j : Nat) : (f.slice i j).masked.length ≤ f.masked.length - i := by
  simp only [slice, Text.slice, List.length_drop, List.length_take]
  omega

theorem length_inner_lt {f g : Fragment} (h : f.inner? = some g) : g.masked.length < f.masked.length := by
  unfold inner? at h
  simp only [Option.ite_none_right_eq_some, Option.some.injEq, Bool.and_eq_true, Bool.not_eq_true',
    List.isEmpty_eq_false_iff] at h
  obtain ⟨⟨-, hne⟩, rfl⟩ := h
  have hpos : 0 < f.masked.length := List.length_pos_iff.2 hne
  have := f.length_slice_le ((f.masked.takeWhile (· != '\x7b')).length + 1)
    (Text.afterLast (· == '\x7d') f.masked - 1)
  omega

open Pattern in
/-- The name of a constant, with the types that qualify it in front. -/
def constantReference : Pattern :=
  textStart ++ star (declaredName ++ lit ".") ++ group 1 declaredName ++ lastLineEnd

/-- The value of one term of a sum. -/
def termValue? (constants : List (List Char × List Char)) (term : List Char) : Option (List Char) :=
  if term.head? == some '"' then firstLiteral? term
  else
    match constantReference.matchStart? term with
    | some m => constants.lookup (m.group term 1)
    | none => none

/-- The value of a sum: all terms joined if each has a value, else the first value there is. -/
def sumValue? (terms : List (Option (List Char))) : Option (List Char) :=
  let known := terms.filterMap id
  if known.length = terms.length then some known.flatten else known.head?

/-- The values of an expression: one for each item of an array, at most one otherwise. -/
def values (constants : List (List Char × List Char)) (f : Fragment) : List (List Char) :=
  match _inner : f.inner? with
  | some g => (argumentSpans g.masked).flatMap fun s => values constants (g.slice s.1 s.2)
  | none =>
    let terms := (spansFrom 0 (Text.splitWhere (· == '+') f.masked)).map fun s =>
      termValue? constants (Text.trim (Text.slice f.raw s.1 s.2))
    (sumValue? terms).toList
termination_by f.masked.length
decreasing_by
  have h₁ := length_inner_lt _inner
  have h₂ := g.length_slice_le s.1 s.2
  omega

end Fragment

/-! ## Argument lists -/

/-- The inside of an argument list, and the string constants in scope. -/
structure Arguments where
  fragment : Fragment
  constants : List (List Char × List Char) := []
deriving Repr, BEq

open Pattern in
/-- The name of a named argument. -/
def argumentName : Pattern :=
  textStart ++ blanks ++ group 1 (plus word) ++ blanks ++ lit "="

namespace Arguments

/-- The argument list that opens at offset `start` of a file. -/
def atOffset (text masked : List Char) (constants : List (List Char × List Char)) (start : Nat) (stop : Nat) :
    Arguments :=
  ⟨(Fragment.mk text masked).slice (start + 1) (stop - 1), constants⟩

def spans (a : Arguments) : List (Nat × Nat) :=
  argumentSpans a.fragment.masked

/-- The values of the expression between two offsets. -/
def valuesAt (a : Arguments) (start stop : Nat) : List (List Char) :=
  (a.fragment.slice start stop).values a.constants

/-- The values of the first argument that has one of the names. -/
def named? (a : Arguments) (names : List String) : Option (List (List Char)) :=
  a.spans.findSome? fun (start, stop) =>
    let masked := Text.slice a.fragment.masked start stop
    match argumentName.matchStart? masked with
    | some m =>
      if names.contains (String.ofList (m.group masked 1)) then some (a.valuesAt (start + m.stop) stop)
      else none
    | none => none

/-- The values of an argument by its index; a named argument has none. -/
def positional (a : Arguments) (index : Nat) : List (List Char) :=
  match a.spans[index]? with
  | none => []
  | some (start, stop) =>
    if (argumentName.matchStart? (Text.slice a.fragment.masked start stop)).isSome then []
    else a.valuesAt start stop

/-- The values of an argument given by name or, without a name, first. -/
def namedOrFirst (a : Arguments) (names : List String) : List (List Char) :=
  (a.named? names).getD (a.positional 0)

/-- The first value of an argument given by name or, without a name, first. -/
def first? (a : Arguments) (names : List String) : Option (List Char) :=
  (a.namedOrFirst names).head?

end Arguments

end SpringAtlas.Source

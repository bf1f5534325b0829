import SpringAtlas.Proofs.Pattern.Search
import SpringAtlas.Proofs.Source.Token
import SpringAtlas.Source.Declaration

/-!
# `Proofs.Source.Declaration` — the declaration of a class

A search for the first declaration of a text ends at the keyword of a class if the text in front of it declares nothing.
What is read is the name behind the keyword, and the text from the keyword to the brace behind it.

## Contents
* `takes_declaration` — the match at the keyword
* `declaration?_eq_some` — the declaration that is read
-/

namespace SpringAtlas.Source

open Pattern

theorem takes_declaration {c : Cursor} (i : Identifier) (tail : List Char)
    (hbefore : c.before.any (fun x => x == '@' || isQualifiedPart x) = false)
    (hrest : c.rest = "class ".toList ++ (i.chars ++ tail)) (hend : tail.head?.any isNamePart = false) :
    ∃ d, Takes declarationPattern c d ∧ d.captures =
      ⟨2, c.pos + "class ".toList.length, c.pos + "class ".toList.length + i.chars.length⟩ ::
      ⟨1, c.pos, c.pos + "class".toList.length⟩ :: c.captures ∧
      d.pos = c.pos + "class ".toList.length + i.chars.length := by
  have hkeyword : Takes (oneOf ["class", "interface", "enum"]) c
      (c.after "class".toList (' ' :: (i.chars ++ tail))) :=
    takes_oneOf "class" _ (by decide) (by simp [hrest]) hrest
  have hedge : c.atWordEdge := by
    have hword : c.before.any Text.isWord = false := by
      cases hc : c.before with
      | none => rfl
      | some x =>
        simp only [hc, Option.any_some, isQualifiedPart, isNamePart, Bool.or_eq_false_iff] at hbefore ⊢
        exact hbefore.2.1.1
    rw [Cursor.atWordEdge, hword, hrest]
    rfl
  have hblank (e : Cursor) (he : e.rest = ' ' :: (i.chars ++ tail)) :=
    takes_blanks1_space _ he (i.head?_append_any (fun _ => not_isBlank_of_identifierPart) _)
  have hname (e : Cursor) (he : e.rest = i.chars ++ tail) : Takes declaredName e _ :=
    takes_name (fun _ => isNamePart_of_identifierPart) i _ he hend
  refine ⟨_, ((((takes_notBehind hbefore).seq (takes_wordEdge hedge)).seq (hkeyword.group 1)).seq
    (hblank _ rfl)).seq ((hname _ rfl).group 2), ?_, ?_⟩
  · simp [Nat.add_assoc]
  · simp [Nat.add_assoc]

/-- **The declaration of a class**, behind a text that declares nothing. -/
theorem declaration?_eq_some (pre : List Char) {tail : List Char} (i : Identifier)
    (hskip : FailsThrough declarationPattern none pre ("class ".toList ++ (i.chars ++ tail)))
    (hbefore : pre.getLast?.any (fun x => x == '@' || isQualifiedPart x) = false)
    (hend : tail.head?.any isNamePart = false) :
    declaration? (pre ++ ("class ".toList ++ (i.chars ++ tail))) =
      some { kind := .ordinary, name := i.chars, start := pre.length,
             header := Text.squeeze (stripGenerics
              ("class ".toList ++ (i.chars ++ tail.takeWhile (· != '\x7b')))) } := by
  obtain ⟨text, htext⟩ : ∃ text, text = pre ++ ("class ".toList ++ (i.chars ++ tail)) := ⟨_, rfl⟩
  obtain ⟨d, hd, hcaptures, hstop⟩ := takes_declaration
    (c := ⟨pre.getLast?, pre.length, text.length, "class ".toList ++ (i.chars ++ tail), []⟩) i tail hbefore rfl hend
  have hsearch : declarationPattern.search? text = some ⟨pre.length, d.pos, d.captures⟩ := by
    rw [htext] at hd ⊢
    exact search?_eq_some hskip hd
  have hkeyword : Match.group ⟨pre.length, d.pos, d.captures⟩ text 1 = "class".toList :=
    Match.group_eq pre (' ' :: (i.chars ++ tail)) (by simp [htext]) (by simp [Match.span?, hcaptures])
  have hname : Match.group ⟨pre.length, d.pos, d.captures⟩ text 2 = i.chars :=
    Match.group_eq (pre ++ "class ".toList) tail (by simp [htext]) (by simp [Match.span?, hcaptures])
  -- the match ends behind the name, and the header goes on from there to the brace
  have hmatched : Text.slice text pre.length d.pos = "class ".toList ++ i.chars := by
    have hlength : d.pos = pre.length + ("class ".toList ++ i.chars).length := by
      rw [hstop, List.length_append, Nat.add_assoc]
    have hsplit : text = pre ++ ("class ".toList ++ i.chars) ++ tail := by simp [htext]
    rw [hlength, hsplit, Text.slice_append]
  have hdrop : text.drop d.pos = tail := by
    have hsplit : text = pre ++ "class ".toList ++ i.chars ++ tail := by simp [htext]
    rw [hsplit, hstop]
    exact List.drop_left' (by simp; omega)
  rw [← htext, declaration?, hsearch, Option.map_some]
  simp only [hkeyword, hname, hmatched, hdrop, List.append_assoc]
  rfl

end SpringAtlas.Source

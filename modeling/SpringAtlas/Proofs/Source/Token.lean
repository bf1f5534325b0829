import SpringAtlas.Proofs.Pattern.Run
import SpringAtlas.Proofs.Source.Mask
import SpringAtlas.Proofs.Text.Blank
import SpringAtlas.Proofs.Text.Lines
import SpringAtlas.Source.Generics

/-!
# `Proofs.Source.Token` — names and literals, and how they are masked

Source texts are put together from names, literals, punctuation and blanks. A token is masked without a look at what
stands around it: `MasksTo xs ys` says that a text that starts with `xs` has a mask that starts with `ys` and goes on with
the mask of the rest. So the mask of a text of tokens is the text of the masked tokens.

## Contents
* `Identifier`, `takes_name` — names of ASCII letters, digits and underscores
* `LiteralInside`, `LiteralText`, `quoted` — what a literal may hold, with escapes and without
* `MasksTo`, `masksTo_plain`, `masksTo_join`, `masksTo_quoted` — tokens are masked one by one
-/

namespace SpringAtlas

/-! ## Names -/

/-- An ASCII letter, a digit or the underscore. -/
def isIdentifierPart (c : Char) : Bool :=
  Text.isAsciiLetter c || Text.isAsciiDigit c || c == '_'

/-- A name of ASCII letters, digits and underscores that does not start with a digit. -/
structure Identifier where
  chars : List Char
  nonempty : chars ≠ []
  parts : chars.all isIdentifierPart
  start : chars.head?.any Text.isAsciiDigit = false

/-- A part of an identifier is a word character. -/
theorem isWord_of_identifierPart {c : Char} (h : isIdentifierPart c) : Text.isWord c := by
  simp only [isIdentifierPart, Text.isAsciiLetter, Text.isAsciiDigit, Bool.or_eq_true, Bool.and_eq_true,
    decide_eq_true_eq, beq_iff_eq] at h
  rcases h with h | rfl
  · have hascii : c.toNat < 128 := by omega
    simp only [Text.isWord, Text.isAlnum, hascii, if_true, Text.isAsciiLetter, Text.isAsciiDigit, Bool.or_eq_true,
      Bool.and_eq_true, decide_eq_true_eq]
    omega
  · decide

/-- A part of an identifier is a part of a name. -/
theorem isNamePart_of_identifierPart {c : Char} (h : isIdentifierPart c) : Source.isNamePart c := by
  simp [Source.isNamePart, isWord_of_identifierPart h]

/-- A part of an identifier is a part of a qualified name. -/
theorem isQualifiedPart_of_identifierPart {c : Char} (h : isIdentifierPart c) : Source.isQualifiedPart c := by
  simp [Source.isQualifiedPart, isNamePart_of_identifierPart h]

/-- No part of an identifier is blank. -/
theorem not_isBlank_of_identifierPart {c : Char} (h : isIdentifierPart c) : Text.isBlank c = false := by
  simp only [isIdentifierPart, Text.isAsciiLetter, Text.isAsciiDigit, Bool.or_eq_true, Bool.and_eq_true,
    decide_eq_true_eq, beq_iff_eq] at h
  rcases h with h | rfl
  · simp only [Text.isBlank, Bool.or_eq_false_iff, Bool.and_eq_false_iff, decide_eq_false_iff_not, beq_eq_false_iff_ne]
    omega
  · decide

/-- A part of an identifier is none of the other characters, such as brackets and commas. -/
theorem ne_of_identifierPart {c d : Char} (hc : isIdentifierPart c) (hd : isIdentifierPart d = false) : c ≠ d := by
  rintro rfl
  simp [hc] at hd

namespace Identifier

/-- An identifier is made of parts of identifiers. -/
theorem part_of_mem (i : Identifier) : ∀ c ∈ i.chars, isIdentifierPart c :=
  List.all_eq_true.1 i.parts

/-- An identifier holds no character that is no part of one. -/
theorem ne_of_mem {i : Identifier} {c d : Char} (hc : c ∈ i.chars) (hd : isIdentifierPart d = false) : c ≠ d :=
  ne_of_identifierPart (i.part_of_mem c hc) hd

/-- In front of an identifier nothing is read that a part of an identifier is not. -/
theorem head?_append_any (i : Identifier) {ok : Char → Bool} (hok : ∀ c, isIdentifierPart c → ok c = false)
    (rest : List Char) : (i.chars ++ rest).head?.any ok = false := by
  obtain ⟨c, cs, hchars⟩ := List.exists_cons_of_ne_nil i.nonempty
  rw [hchars, List.cons_append, List.head?_cons, Option.any_some]
  exact hok c (i.part_of_mem c (by simp [hchars]))

end Identifier

/-- A part of an identifier that is no digit can start a name. -/
theorem isNameStart_of_identifier {c : Char} (h : isIdentifierPart c) (hdigit : Text.isAsciiDigit c = false) :
    Source.isNameStart c := by
  simp only [isIdentifierPart, hdigit, Bool.or_false] at h
  simp [Source.isNameStart, h]

open Pattern in
/-- A name is taken as a whole where a name start and further characters are read. -/
theorem takes_name {c : Cursor} {ok : Char → Bool} (hok : ∀ x, isIdentifierPart x → ok x) (i : Identifier)
    (rest : List Char) (hrest : c.rest = i.chars ++ rest) (hend : rest.head?.any ok = false) :
    Takes (one Source.isNameStart ++ star (one ok)) c (c.after i.chars rest) := by
  obtain ⟨x, xs, hchars⟩ := List.exists_cons_of_ne_nil i.nonempty
  have hstart : Source.isNameStart x := by
    have hdigit := i.start
    rw [hchars, List.head?_cons, Option.any_some] at hdigit
    exact isNameStart_of_identifier (i.part_of_mem x (by simp [hchars])) hdigit
  have hmore : ∀ y ∈ xs, ok y := fun y hy => hok y (i.part_of_mem y (by simp [hchars, hy]))
  rw [hchars] at hrest
  rw [hchars, c.after_cons]
  exact (takes_one hrest hstart).seq (takes_star_one xs rest rfl hmore hend)

/-! ## Literals -/

/-- What a literal may hold without an escape: anything but a quote, a backslash and a newline. -/
def isLiteralChar (c : Char) : Bool :=
  !"\"\\\n".toList.contains c

/-- A character stands for itself inside a literal if it is no quote, no backslash and no line break. -/
theorem isLiteralChar_iff {c : Char} : isLiteralChar c ↔ c ≠ '"' ∧ c ≠ '\\' ∧ c ≠ '\n' := by
  simp [isLiteralChar]

/-- The inside of a literal: characters that stand for themselves, and a backslash with any character of the line behind
    it. -/
inductive LiteralInside : List Char → Prop
  | nil : LiteralInside []
  | plain {c : Char} {cs : List Char} (hc : isLiteralChar c) (h : LiteralInside cs) : LiteralInside (c :: cs)
  | escape {c : Char} {cs : List Char} (hc : c ≠ '\n') (h : LiteralInside cs) : LiteralInside ('\\' :: c :: cs)

/-- Characters that stand for themselves make the inside of a literal. -/
theorem literalInside_of_forall {cs : List Char} (h : ∀ c ∈ cs, isLiteralChar c) : LiteralInside cs := by
  induction cs with
  | nil => exact .nil
  | cons c cs ih => exact .plain (h c List.mem_cons_self) (ih fun d hd => h d (List.mem_cons_of_mem _ hd))

/-- A literal ends on the line on which it starts. -/
theorem LiteralInside.newline_not_mem {s : List Char} (h : LiteralInside s) : '\n' ∉ s := by
  induction h with
  | nil => simp
  | plain hc _ ih => simpa [ih] using (isLiteralChar_iff.1 hc).2.2.symm
  | escape hc _ ih => simpa [ih] using hc.symm

/-- The literal with the given inside. -/
def quoted (s : List Char) : List Char :=
  '"' :: (s ++ ['"'])

/-- **A literal is read to its last quote**: a quote inside it is escaped. -/
theorem LiteralInside.splitLiteral? {s : List Char} (h : LiteralInside s) (rest : List Char) :
    Source.splitLiteral? '"' (s ++ '"' :: rest) = some (s, rest) := by
  induction h with
  | nil => rw [List.nil_append, Source.splitLiteral?_cons _ (by decide), if_pos (by decide)]
  | plain hc _ ih =>
    obtain ⟨hquote, hescape, hline⟩ := isLiteralChar_iff.1 hc
    rw [List.cons_append, Source.splitLiteral?_cons _ hescape, if_neg (by simpa using hquote),
      if_neg (by simpa using hline), ih]
    rfl
  | escape _ _ ih =>
    rw [List.cons_append, List.cons_append, Source.splitLiteral?_escape, ih]
    rfl

/-- The inside of a literal without escapes. -/
structure LiteralText where
  chars : List Char
  valid : chars.all isLiteralChar

namespace LiteralText

/-- A text without escapes holds no quote, no backslash and no line break. -/
theorem char_of_mem {s : LiteralText} {c : Char} (hc : c ∈ s.chars) : c ≠ '"' ∧ c ≠ '\\' ∧ c ≠ '\n' :=
  isLiteralChar_iff.1 (List.all_eq_true.1 s.valid c hc)

/-- A text without escapes can stand in a literal as it is. -/
theorem inside (s : LiteralText) : LiteralInside s.chars :=
  literalInside_of_forall (List.all_eq_true.1 s.valid)

end LiteralText

/-! ## Tokens are masked one by one -/

/-- A character that starts neither a comment nor a literal. -/
def isPlainChar (c : Char) : Bool :=
  c != '/' && !Source.isQuote c

/-- A blank starts neither a comment nor a literal. -/
theorem isPlainChar_of_isBlank {c : Char} (h : Text.isBlank c) : isPlainChar c := by
  have hplain : ∀ n ∈ blankCodes, isPlainChar (Char.ofNat n) := by decide +kernel
  have hc := hplain _ (toNat_mem_blankCodes h)
  rwa [Char.ofNat_toNat] at hc

/-- A word character starts neither a comment nor a literal. -/
theorem isPlainChar_of_isWord {c : Char} (h : Text.isWord c) : isPlainChar c := by
  have hne {d : Char} (hd : Text.isWord d = false) : c ≠ d := by
    rintro rfl
    simp [h] at hd
  have hslash : c ≠ '/' := hne (by decide)
  have hdouble : c ≠ '"' := hne (by decide)
  have hsingle : c ≠ Char.ofNat 39 := hne (by decide)
  have hcode : c.toNat ≠ 39 := fun he => hsingle (by rw [← he, Char.ofNat_toNat])
  simp [isPlainChar, Source.isQuote, hslash, hdouble, hcode]

/-- A part of an identifier starts neither a comment nor a literal. -/
theorem isPlainChar_of_identifierPart {c : Char} (h : isIdentifierPart c) : isPlainChar c :=
  isPlainChar_of_isWord (isWord_of_identifierPart h)

/-- The mask of a text that starts with `xs` starts with `ys` and goes on with the mask of the rest. -/
def MasksTo (xs ys : List Char) : Prop :=
  ∀ rest, Source.mask (xs ++ rest) = ys ++ Source.mask rest

/-- Two tokens are masked one after the other. -/
theorem MasksTo.append {xs ys xs' ys' : List Char} (h : MasksTo xs ys) (h' : MasksTo xs' ys') :
    MasksTo (xs ++ xs') (ys ++ ys') := by
  intro rest
  rw [List.append_assoc, h, h', List.append_assoc]

/-- The mask of a token by itself. -/
theorem MasksTo.mask {xs ys : List Char} (h : MasksTo xs ys) : Source.mask xs = ys := by
  simpa using h []

/-- Plain characters are their own mask. -/
theorem masksTo_plain {xs : List Char} (h : ∀ c ∈ xs, isPlainChar c) : MasksTo xs xs := by
  intro rest
  induction xs with
  | nil => rfl
  | cons c xs ih =>
    obtain ⟨hslash, hquote⟩ : c ≠ '/' ∧ Source.isQuote c = false := by
      simpa [isPlainChar] using h c (by simp)
    rw [List.cons_append, Source.mask_cons_plain hslash hquote, ih fun d hd => h d (List.mem_cons_of_mem _ hd)]
    rfl

/-- A single plain character is its own mask. -/
theorem masksTo_char {c : Char} (h : isPlainChar c) : MasksTo [c] [c] :=
  masksTo_plain (List.forall_mem_singleton.2 h)

/-- Tokens that are joined by a plain character are masked one by one. -/
theorem masksTo_join {sep : Char} (hsep : isPlainChar sep) {ws vs : List (List Char)}
    (h : List.Forall₂ MasksTo ws vs) : MasksTo (Text.join [sep] ws) (Text.join [sep] vs) := by
  induction h with
  | nil => exact masksTo_plain (by simp [Text.join])
  | @cons w v ws vs hw hws ih =>
    cases hws with
    | nil =>
      rw [Text.join_singleton, Text.join_singleton]
      exact hw
    | cons =>
      rw [Text.join_cons_cons, Text.join_cons_cons]
      exact hw.append ((masksTo_char hsep).append ih)

/-- The mask of the text does not depend on what follows it. -/
def MasksAlone (w : List Char) : Prop :=
  MasksTo w (Source.mask w)

/-- A text that is masked without a look at what follows is masked alone. -/
theorem MasksTo.alone {xs ys : List Char} (h : MasksTo xs ys) : MasksAlone xs := by
  rw [MasksAlone, h.mask]
  exact h

/-- Texts that are masked alone are masked one by one where they are joined. -/
theorem masksTo_join_alone {sep : Char} (hsep : isPlainChar sep) {ws : List (List Char)}
    (h : ∀ w ∈ ws, MasksAlone w) : MasksTo (Text.join [sep] ws) (Text.join [sep] (ws.map Source.mask)) := by
  refine masksTo_join hsep ?_
  rw [List.forall₂_map_right_iff]
  exact List.forall₂_same.2 h

/-- A literal is masked to its quotes, with blanks in between. -/
theorem masksTo_quoted {s : List Char} (h : LiteralInside s) :
    MasksTo (quoted s) (quoted (List.replicate s.length ' ')) := by
  intro rest
  have htext : quoted s ++ rest = '"' :: (s ++ '"' :: rest) := by simp [quoted]
  rw [htext, Source.mask_cons, Source.leadingPiece_literal (by decide) (h.splitLiteral? rest)]
  rfl

end SpringAtlas

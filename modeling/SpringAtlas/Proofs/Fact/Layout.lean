import SpringAtlas.Fact.Extract
import SpringAtlas.Proofs.Source.Token
import SpringAtlas.Proofs.Text.Lines

/-!
# `Proofs.Fact.Layout` — controllers as they are usually written

A controller is usually laid out with one annotation a line: the role and the path of the class above its declaration,
and a mapping annotation above each handler. `ControllerLayout` holds what varies in such a text, and
`ControllerLayout.source` is the text. Names and paths carry the proof that they can be written there.

The mask of such a text is a text of the same layout, with spaces in place of the paths.

## Contents
* `PathText`, `ReturnType` — the parts of a layout
* `HandlerLayout`, `ControllerLayout` — the layouts, their lines and their endpoints
* `mask_source` — the mask of a layout
-/

namespace SpringAtlas

/-! ## Types -/

/-- The words that do not start the type of a method signature: modifiers, and keywords of other statements and
    declarations. -/
def signatureWords : List String :=
  ["static", "final", "transient", "volatile", "synchronized", "abstract", "native", "default", "return", "new", "throw",
    "else", "case", "public", "protected", "private", "class", "interface", "enum"]

/-- A type name, with one name in angle brackets or without. -/
structure ReturnType where
  name : Identifier
  argument : Option Identifier := none
  plain : String.ofList name.chars ∉ signatureWords

namespace ReturnType

/-- The brackets with the argument, if there is one. -/
def brackets (r : ReturnType) : List Char :=
  match r.argument with
  | some a => '<' :: (a.chars ++ ['>'])
  | none => []

def text (r : ReturnType) : List Char :=
  r.name.chars ++ r.brackets

/-- A return type is made of parts of identifiers and angle brackets. -/
theorem mem_text {r : ReturnType} {c : Char} (h : c ∈ r.text) : isIdentifierPart c ∨ c = '<' ∨ c = '>' := by
  unfold text brackets at h
  rcases List.mem_append.1 h with h | h
  · exact Or.inl (r.name.part_of_mem c h)
  · split at h
    · next a _ =>
      rcases List.mem_cons.1 h with rfl | h
      · exact Or.inr (Or.inl rfl)
      · rcases List.mem_append.1 h with h | h
        · exact Or.inl (a.part_of_mem c h)
        · exact Or.inr (Or.inr (List.mem_singleton.1 h))
    · simp at h

end ReturnType

/-! ## Paths -/

/-- What a path may hold: anything but a quote, a backslash, a newline and parentheses. -/
def isPathChar (c : Char) : Bool :=
  !"\"\\\n()".toList.contains c

structure PathText where
  chars : List Char
  valid : chars.all isPathChar

namespace PathText

/-- A character that no path may hold is none of the characters of a path. -/
theorem ne_of_mem {p : PathText} {c d : Char} (hc : c ∈ p.chars) (hd : isPathChar d = false) : c ≠ d := by
  rintro rfl
  simp [List.all_eq_true.1 p.valid c hc] at hd

/-- Spaces in place of a path. -/
def blanked (p : PathText) : PathText where
  chars := List.replicate p.chars.length ' '
  valid := by
    refine List.all_eq_true.2 fun c hc => ?_
    rw [(List.mem_replicate.1 hc).2]
    decide

end PathText

/-! ## Lines -/

/-- An argument list with one literal. -/
def argumentText (p : PathText) : List Char :=
  '(' :: '"' :: (p.chars ++ ['"', ')'])

/-- An annotation with a path. -/
def annotationLine (name : String) (p : PathText) : List Char :=
  '@' :: name.toList ++ argumentText p

/-- The method as mapping annotations spell it. -/
def HttpMethod.verb : HttpMethod → String
  | get => "Get"
  | post => "Post"
  | put => "Put"
  | delete => "Delete"
  | patch => "Patch"

/-- A handler method of a controller. -/
structure HandlerLayout where
  method : HttpMethod
  path : PathText
  returnType : ReturnType
  name : Identifier

namespace HandlerLayout

def mappingLine (h : HandlerLayout) : List Char :=
  annotationLine (h.method.verb ++ "Mapping") h.path

def signatureLine (h : HandlerLayout) : List Char :=
  "public ".toList ++ (h.returnType.text ++ ' ' :: (h.name.chars ++ "() \x7b".toList))

def lines (h : HandlerLayout) : List (List Char) :=
  [h.mappingLine, h.signatureLine, ['\x7d']]

def blanked (h : HandlerLayout) : HandlerLayout :=
  { h with path := h.path.blanked }

end HandlerLayout

/-- A controller: its name, the path of the class, its handlers, and whether a newline ends the text. -/
structure ControllerLayout where
  name : Identifier
  root : PathText
  handlers : List HandlerLayout
  finalNewline : Bool := false

namespace ControllerLayout

def declarationLine (c : ControllerLayout) : List Char :=
  "public class ".toList ++ (c.name.chars ++ " \x7b".toList)

/-- The lines up to the declaration. -/
def opening (c : ControllerLayout) : List (List Char) :=
  ["@RestController".toList, annotationLine "RequestMapping" c.root, c.declarationLine]

/-- The lines behind the last handler; a newline at the end leaves an empty one. -/
def closing (c : ControllerLayout) : List (List Char) :=
  ['\x7d'] :: if c.finalNewline then [[]] else []

def lines (c : ControllerLayout) : List (List Char) :=
  c.opening ++ (c.handlers.flatMap HandlerLayout.lines ++ c.closing)

def source (c : ControllerLayout) : List Char :=
  Text.join ['\n'] c.lines

def blanked (c : ControllerLayout) : ControllerLayout :=
  { c with root := c.root.blanked, handlers := c.handlers.map HandlerLayout.blanked }

/-- The endpoint that a handler serves. -/
def endpoint (c : ControllerLayout) (h : HandlerLayout) : Endpoint where
  method := h.method
  path := String.ofList (normalizePath c.root.chars h.path.chars)
  handler := String.ofList h.name.chars
  returnType := String.ofList h.returnType.text
  parameters := ""
  className := some (String.ofList c.name.chars)

end ControllerLayout

/-! ## Code

A line without annotation and without literal is code: it is not changed by the mask.
-/

/-- A plain character that starts neither a line nor an annotation. -/
def isCodeChar (c : Char) : Bool :=
  isPlainChar c && c != '\n' && c != '@'

/-- A character of code is plain, ends no line and opens no annotation. -/
theorem isCodeChar_iff {c : Char} : isCodeChar c ↔ isPlainChar c ∧ c ≠ '\n' ∧ c ≠ '@' := by
  simp [isCodeChar, and_assoc]

theorem isCodeChar_of_identifierPart {c : Char} (h : isIdentifierPart c) : isCodeChar c :=
  isCodeChar_iff.2 ⟨isPlainChar_of_identifierPart h, ne_of_identifierPart h (by decide), ne_of_identifierPart h (by decide)⟩

theorem isCodeChar_of_mem_returnType {r : ReturnType} {c : Char} (h : c ∈ r.text) : isCodeChar c := by
  rcases ReturnType.mem_text h with h | rfl | rfl
  · exact isCodeChar_of_identifierPart h
  · decide
  · decide

/-- The signature of a handler is code. -/
theorem isCodeChar_of_mem_signatureLine {h : HandlerLayout} {c : Char} (hc : c ∈ h.signatureLine) : isCodeChar c := by
  have hpublic : "public ".toList.all isCodeChar := by decide
  have hopen : "() \x7b".toList.all isCodeChar := by decide
  unfold HandlerLayout.signatureLine at hc
  simp only [List.mem_append, List.mem_cons] at hc
  rcases hc with hc | hc | rfl | hc | hc
  · exact List.all_eq_true.1 hpublic c hc
  · exact isCodeChar_of_mem_returnType hc
  · decide
  · exact isCodeChar_of_identifierPart (h.name.part_of_mem c hc)
  · exact List.all_eq_true.1 hopen c hc

/-- The declaration of the class is code. -/
theorem isCodeChar_of_mem_declarationLine {l : ControllerLayout} {c : Char} (hc : c ∈ l.declarationLine) :
    isCodeChar c := by
  have hclass : "public class ".toList.all isCodeChar := by decide
  have hopen : " \x7b".toList.all isCodeChar := by decide
  unfold ControllerLayout.declarationLine at hc
  simp only [List.mem_append] at hc
  rcases hc with hc | hc | hc
  · exact List.all_eq_true.1 hclass c hc
  · exact isCodeChar_of_identifierPart (l.name.part_of_mem c hc)
  · exact List.all_eq_true.1 hopen c hc

/-- The lines behind the handlers are code. -/
theorem isCodeChar_of_mem_closing {l : ControllerLayout} {line : List Char} (hline : line ∈ l.closing) {c : Char}
    (hc : c ∈ line) : isCodeChar c := by
  rcases List.mem_cons.1 hline with rfl | hline
  · rw [List.mem_singleton.1 hc]
    decide
  · split at hline <;> simp_all

/-! ## Lines are masked one by one -/

theorem masksTo_code {xs : List Char} (h : ∀ c ∈ xs, isCodeChar c) : MasksTo xs xs :=
  masksTo_plain fun c hc => (isCodeChar_iff.1 (h c hc)).1

/-- A path is the inside of the literal it stands in. -/
theorem PathText.literalInside (p : PathText) : LiteralInside p.chars := by
  refine literalInside_of_forall fun c hc => ?_
  have hne (d : Char) (hd : isPathChar d = false) : c ≠ d := p.ne_of_mem hc hd
  simp [isLiteralChar, hne '"' (by decide), hne '\\' (by decide), hne '\n' (by decide)]

/-- The argument of a mapping is its path between quotes and parentheses. -/
theorem argumentText_eq (p : PathText) : argumentText p = ['('] ++ (quoted p.chars ++ [')']) := by
  simp [argumentText, quoted]

theorem masksTo_argumentText (p : PathText) : MasksTo (argumentText p) (argumentText p.blanked) := by
  have hopen : MasksTo ['('] ['('] := masksTo_char (by decide)
  have hclose : MasksTo [')'] [')'] := masksTo_char (by decide)
  rw [argumentText_eq, argumentText_eq]
  exact hopen.append ((masksTo_quoted p.literalInside).append hclose)

theorem masksTo_annotationLine {name : String} (hname : name.toList.all isIdentifierPart) (p : PathText) :
    MasksTo (annotationLine name p) (annotationLine name p.blanked) := by
  refine MasksTo.append (masksTo_plain fun c hc => ?_) (masksTo_argumentText p)
  rcases List.mem_cons.1 hc with rfl | hc
  · decide
  · exact (isCodeChar_iff.1 (isCodeChar_of_identifierPart (List.all_eq_true.1 hname c hc))).1

theorem HandlerLayout.masksTo_lines (h : HandlerLayout) : List.Forall₂ MasksTo h.lines h.blanked.lines := by
  refine .cons (masksTo_annotationLine ?_ _) (.cons (masksTo_code fun c => isCodeChar_of_mem_signatureLine)
    (.cons (masksTo_code (List.forall_mem_singleton.2 (by decide))) .nil))
  cases h.method <;> decide

/-- **The mask of a layout** is the layout with spaces in place of its paths. -/
theorem ControllerLayout.mask_source (l : ControllerLayout) : Source.mask l.source = l.blanked.source := by
  refine (masksTo_join (by decide) ?_).mask
  have hopening : List.Forall₂ MasksTo l.opening l.blanked.opening :=
    .cons (masksTo_plain (List.all_eq_true.1 (by decide))) (.cons (masksTo_annotationLine (by decide) _)
      (.cons (masksTo_code fun c => isCodeChar_of_mem_declarationLine) .nil))
  have hclosing : List.Forall₂ MasksTo l.closing l.blanked.closing :=
    List.forall₂_same.2 fun line hline => masksTo_code fun c => isCodeChar_of_mem_closing hline
  have hhandlers : List.Forall₂ MasksTo (l.handlers.flatMap HandlerLayout.lines)
      (l.blanked.handlers.flatMap HandlerLayout.lines) := by
    show List.Forall₂ MasksTo _ ((l.handlers.map HandlerLayout.blanked).flatMap HandlerLayout.lines)
    induction l.handlers with
    | nil => exact .nil
    | cons h hs ih => exact List.rel_append h.masksTo_lines ih
  exact List.rel_append hopening (List.rel_append hhandlers hclosing)

/-! ## The lines of a layout -/

theorem newline_not_mem_of_code {xs : List Char} (h : ∀ c ∈ xs, isCodeChar c) : '\n' ∉ xs :=
  fun hmem => (isCodeChar_iff.1 (h '\n' hmem)).2.1 rfl

/-- The argument of a mapping stands on one line. -/
theorem newline_not_mem_argumentText (p : PathText) : '\n' ∉ argumentText p := by
  intro h
  simp only [argumentText, List.mem_cons, List.mem_append, List.not_mem_nil, or_false] at h
  rcases h with h | h | h | h | h
  · cases h
  · cases h
  · exact PathText.ne_of_mem h (by decide) rfl
  · cases h
  · cases h

theorem newline_not_mem_annotationLine {name : String} (hname : '\n' ∉ name.toList) (p : PathText) :
    '\n' ∉ annotationLine name p := by
  simp [annotationLine, hname, newline_not_mem_argumentText]

theorem HandlerLayout.newline_not_mem_lines {h : HandlerLayout} {line : List Char} (hline : line ∈ h.lines) :
    '\n' ∉ line := by
  simp only [lines, List.mem_cons, List.not_mem_nil, or_false] at hline
  rcases hline with rfl | rfl | rfl
  · refine newline_not_mem_annotationLine ?_ _
    cases h.method <;> decide
  · exact newline_not_mem_of_code fun c => isCodeChar_of_mem_signatureLine
  · decide

theorem ControllerLayout.newline_not_mem_lines {l : ControllerLayout} {line : List Char} (hline : line ∈ l.lines) :
    '\n' ∉ line := by
  simp only [lines, opening, List.mem_append, List.mem_cons, List.not_mem_nil, or_false, List.mem_flatMap] at hline
  rcases hline with (rfl | rfl | rfl) | ⟨h, -, hline⟩ | hline
  · decide
  · exact newline_not_mem_annotationLine (by decide) _
  · exact newline_not_mem_of_code fun c => isCodeChar_of_mem_declarationLine
  · exact h.newline_not_mem_lines hline
  · exact newline_not_mem_of_code fun c => isCodeChar_of_mem_closing hline

/-- **The lines of a layout** are those it is made of. -/
theorem ControllerLayout.lines_source (l : ControllerLayout) : Text.lines l.source = l.lines :=
  Text.lines_join (by simp [lines, opening]) fun _ hline => newline_not_mem_lines hline

end SpringAtlas

import SpringAtlas.Proofs.Pattern.Replace
import SpringAtlas.Proofs.Source.Expression
import SpringAtlas.Proofs.Source.Nesting
import SpringAtlas.Source.Parameters

/-!
# `Proofs.Source.Parameters` — parameter lists are read back

A parameter list is read in four steps, and each of them has something in the text that it could stumble over. The list is
cut at commas, and commas stand in generic sections and in the arguments of annotations too. Annotations are erased with
their arguments. The word `final` is erased, where it is a word of its own and not a part of a longer one. What is left is
matched by a pattern whose blanks are optional, so that the blank between a type and a name is first taken for the one that
may stand in front of a generic section, and given back.

## Contents
* `ParameterType`, `AnnotationUse`, `Parameter` — parameters and their texts
* `Parameter.uncut` — cutting the list
* `Parameter.eraseAnnotations_text` — annotations
* `wordRuns`, `failsThrough_finalWord`, `Parameter.eraseFinal_text` — the word `final`
* `takes_type`, `Parameter.parameter?_text` — the type and the name
* `parameters_join`
-/

namespace SpringAtlas.Source

open Pattern

/-! ## Parameters -/

/-- The words of a text: what stands between characters that are not part of a word. -/
def wordRuns (cs : List Char) : List (List Char) :=
  Text.splitWhere (fun c => !Text.isWord c) cs

/-- A character of an identifier, or one of those that stand between the identifiers of type arguments. -/
def isTypeChar (c : Char) : Bool :=
  isIdentifierPart c || " .,?<>".toList.contains c

/-- The inside of a generic section: its brackets are balanced, and the section is nested at most three levels deep. -/
structure TypeArguments where
  chars : List Char
  valid : chars.all isTypeChar
  nested : nestsWithin 2 0 chars
  plain : "final".toList ∉ wordRuns chars

/-- A type behind the packages or types that qualify it. Of all keywords only `final` would not be read as a name. -/
structure ParameterType where
  path : List Identifier := []
  name : Identifier
  arguments : Option TypeArguments := none
  plain : ∀ i ∈ path ++ [name], i.chars ≠ "final".toList

/-- The generic section with its brackets, if there is one. -/
def argumentSection : Option TypeArguments → List Char
  | some g => bracketed g.chars
  | none => []

namespace ParameterType

def bare (t : ParameterType) : List Char :=
  Term.qualifier t.path ++ t.name.chars

def text (t : ParameterType) : List Char :=
  t.bare ++ argumentSection t.arguments

end ParameterType

/-- The inside of the arguments of an annotation: any text without brackets. -/
structure AnnotationArguments where
  chars : List Char
  valid : chars.all fun c => !"()<>".toList.contains c

structure AnnotationUse where
  name : Identifier
  arguments : Option AnnotationArguments := none

/-- The arguments with their parentheses, if there are any. -/
def argumentGroup : Option AnnotationArguments → List Char
  | some g => '(' :: (g.chars ++ [')'])
  | none => []

def AnnotationUse.text (a : AnnotationUse) : List Char :=
  '@' :: (a.name.chars ++ argumentGroup a.arguments)

/-- A parameter of a constructor. -/
structure Parameter where
  annotated : Option AnnotationUse := none
  isFinal : Bool := false
  type : ParameterType
  name : Identifier
  plain : name.chars ≠ "final".toList

namespace Parameter

/-- The type and the name. -/
def core (p : Parameter) : List Char :=
  p.type.text ++ ' ' :: p.name.chars

/-- The parameter without its annotation. -/
def marked (p : Parameter) : List Char :=
  if p.isFinal then "final".toList ++ ' ' :: p.core else p.core

def text (p : Parameter) : List Char :=
  match p.annotated with
  | some a => a.text ++ ' ' :: p.marked
  | none => p.marked

end Parameter

/-! ## The characters of a parameter -/

/-- The name of a parameter type, without its arguments, is made of identifiers and dots. -/
theorem ParameterType.mem_bare {t : ParameterType} {c : Char} (hc : c ∈ t.bare) : isIdentifierPart c ∨ c = '.' :=
  Term.mem_constant hc

theorem isTypeChar_of_identifierPart {c : Char} (h : isIdentifierPart c) : isTypeChar c := by
  rw [isTypeChar, h, Bool.true_or]

theorem isTypeChar_of_mem_argumentSection {o : Option TypeArguments} {c : Char} (hc : c ∈ argumentSection o) :
    isTypeChar c := by
  cases o with
  | none => cases hc
  | some g =>
    rcases List.mem_cons.1 hc with rfl | hc
    · decide
    · rcases List.mem_append.1 hc with hc | hc
      · exact List.all_eq_true.1 g.valid c hc
      · rw [List.mem_singleton.1 hc]
        decide

namespace Parameter

variable {p : Parameter}

theorem isTypeChar_of_mem_core {c : Char} (hc : c ∈ p.core) : isTypeChar c := by
  rcases List.mem_append.1 hc with hc | hc
  · rcases List.mem_append.1 hc with hc | hc
    · rcases p.type.mem_bare hc with hc | rfl
      · exact isTypeChar_of_identifierPart hc
      · decide
    · exact isTypeChar_of_mem_argumentSection hc
  · rcases List.mem_cons.1 hc with rfl | hc
    · decide
    · exact isTypeChar_of_identifierPart (p.name.part_of_mem c hc)

theorem isTypeChar_of_mem_marked {c : Char} (hc : c ∈ p.marked) : isTypeChar c := by
  unfold marked at hc
  split at hc
  · rcases List.mem_append.1 hc with hc | hc
    · exact List.all_eq_true.1 (by decide : "final".toList.all isTypeChar) c hc
    · rcases List.mem_cons.1 hc with rfl | hc
      · decide
      · exact isTypeChar_of_mem_core hc
  · exact isTypeChar_of_mem_core hc

end Parameter

/-- A type holds none of the other characters. -/
theorem ne_of_isTypeChar {c d : Char} (hc : isTypeChar c) (hd : isTypeChar d = false) : c ≠ d := by
  rintro rfl
  simp [hc] at hd

/-! ## Cutting the list -/

/-- No comma of the text is one at which a parameter list is cut. -/
def Uncut (depth : Int) (w : List Char) : Prop :=
  RunsOver (fun c => c == '<' || c == '(') (fun c => c == '>' || c == ')') depth w

/-- Characters of a class without brackets and commas. -/
theorem uncut_of_class {ok : Char → Bool} (hok : "<>(),".toList.any ok = false) {depth : Int} {w : List Char}
    (h : ∀ c ∈ w, ok c) : Uncut depth w := by
  refine runsOver_of_forall fun c hc => ?_
  have hne {d : Char} (hd : d ∈ "<>(),".toList) : c ≠ d := by
    rintro rfl
    exact List.any_eq_false.1 hok c hd (h c hc)
  have hless : c ≠ '<' := hne (by decide)
  have hgreater : c ≠ '>' := hne (by decide)
  have hopen : c ≠ '(' := hne (by decide)
  have hclose : c ≠ ')' := hne (by decide)
  exact ⟨by simp [hless, hopen], by simp [hgreater, hclose], fun he => absurd he (hne (by decide))⟩

theorem uncut_identifier {depth : Int} (i : Identifier) : Uncut depth i.chars :=
  uncut_of_class (by decide) i.part_of_mem

theorem uncut_space {depth : Int} : Uncut depth [' '] :=
  uncut_of_class (by decide : "<>(),".toList.any (· == ' ') = false) (List.forall_mem_singleton.2 rfl)

theorem uncut_argumentGroup (o : Option AnnotationArguments) : Uncut 0 (argumentGroup o) := by
  cases o with
  | none => exact runsOver_nil
  | some g =>
    have hinside : Uncut (0 + 1) g.chars := by
      refine runsOver_of_forall fun c hc => ?_
      obtain ⟨hopen, hclose, hless, hgreater⟩ : c ≠ '(' ∧ c ≠ ')' ∧ c ≠ '<' ∧ c ≠ '>' := by
        simpa using List.all_eq_true.1 g.valid c hc
      exact ⟨by simp [hless, hopen], by simp [hgreater, hclose], fun _ => by decide⟩
    exact RunsOver.enclosed rfl ⟨rfl, rfl⟩ ⟨by decide, by decide⟩ hinside

theorem uncut_argumentSection (o : Option TypeArguments) : Uncut 0 (argumentSection o) := by
  cases o with
  | none => exact runsOver_nil
  | some g =>
    have hinside : Uncut (0 + 1) g.chars := by
      refine (nesting_of_nestsWithin g.nested).runsOver ⟨rfl, rfl, rfl⟩ (fun c hc hplain => ?_) (by decide)
      have hchar : isTypeChar c := List.all_eq_true.1 g.valid c hc
      have hopen : c ≠ '(' := ne_of_isTypeChar hchar (by decide)
      have hclose : c ≠ ')' := ne_of_isTypeChar hchar (by decide)
      obtain ⟨hless, hgreater⟩ := Bool.or_eq_false_iff.1 hplain
      simp [hless, hgreater, hopen, hclose]
    exact RunsOver.enclosed rfl ⟨rfl, rfl⟩ ⟨by decide, by decide⟩ hinside

theorem AnnotationUse.uncut (a : AnnotationUse) : Uncut 0 a.text := by
  have hat : Uncut 0 ['@'] :=
    uncut_of_class (by decide : "<>(),".toList.any (· == '@') = false) (List.forall_mem_singleton.2 rfl)
  exact hat.append ((uncut_identifier a.name).append (uncut_argumentGroup a.arguments))

theorem ParameterType.uncut (t : ParameterType) : Uncut 0 t.text := by
  refine RunsOver.append ?_ (uncut_argumentSection t.arguments)
  refine uncut_of_class (by decide : "<>(),".toList.any (fun c => isIdentifierPart c || c == '.') = false) fun c hc => ?_
  rcases t.mem_bare hc with hc | rfl
  · simp [hc]
  · decide

/-- **A parameter is cut nowhere**: its commas stand inside of brackets. -/
theorem Parameter.uncut (p : Parameter) : Uncut 0 p.text := by
  have hspace : Uncut 0 [' '] := uncut_space
  have hcore : Uncut 0 p.core := p.type.uncut.append (hspace.append (uncut_identifier p.name))
  have hmarked : Uncut 0 p.marked := by
    unfold marked
    split
    · have hfinal : Uncut 0 "final".toList :=
        uncut_of_class (by decide : "<>(),".toList.any isIdentifierPart = false) (List.all_eq_true.1 (by decide))
      exact hfinal.append (hspace.append hcore)
    · exact hcore
  unfold text
  split
  · next a _ => exact a.uncut.append (hspace.append hmarked)
  · exact hmarked

/-! ## Annotations -/

/-- Arguments without parentheses inside are read as a whole. -/
theorem takes_shallowGroup (g : AnnotationArguments) {c : Cursor} {rest : List Char}
    (hrest : c.rest = '(' :: (g.chars ++ [')']) ++ rest) :
    Takes shallowGroup c (c.after ('(' :: (g.chars ++ [')'])) rest) := by
  have hopen : c.rest = "(".toList ++ (g.chars ++ ')' :: rest) := by
    rw [hrest]
    simp
  have hstep : ∀ {d : Cursor} {x : Char} {rest' : List Char}, x ∈ g.chars → d.rest = x :: rest' →
      Takes (except "()" <|> lit "(" ++ star (except "()") ++ lit ")") d (d.after [x] rest') := by
    intro d x rest' hx hd
    have hok : (!"()".toList.contains x) = true := by
      obtain ⟨hleft, hright, -⟩ : x ≠ '(' ∧ x ≠ ')' ∧ x ≠ '<' ∧ x ≠ '>' := by
        simpa using List.all_eq_true.1 g.valid x hx
      simp [hleft, hright]
    exact Takes.left (takes_one hd hok)
  have hend : Fails (except "()" <|> lit "(" ++ star (except "()") ++ lit ")")
      ((c.after "(".toList (g.chars ++ ')' :: rest)).after g.chars (')' :: rest)) :=
    (fails_one rfl).alt (fails_lit (by simp)).seq.seq
  have htakes := ((takes_lit "(" _ hopen).seq (takes_star rfl hstep hend)).seq (takes_lit ")" rest rfl)
  rw [Cursor.after_after, Cursor.after_after] at htakes
  exact htakes

theorem takes_argumentGroup (o : Option AnnotationArguments) {c : Cursor} {rest : List Char}
    (hrest : c.rest = argumentGroup o ++ ' ' :: rest) (hopen : '(' ∉ rest) :
    Takes (opt (blanks ++ shallowGroup)) c (c.after (argumentGroup o) (' ' :: rest)) := by
  cases o with
  | none =>
    have hnone : '(' ∉ c.rest := by
      rw [hrest]
      simpa [argumentGroup] using hopen
    -- also behind the blanks no parenthesis opens
    have hfails : Fails (blanks ++ shallowGroup) c := by
      refine fails_seq_of_reaches fun d hd => (fails_lit fun hstands => hnone ?_).seq.seq
      obtain ⟨xs, hxs, -⟩ := hd
      rw [hxs]
      exact List.mem_append_right xs (hstands.subset List.mem_cons_self)
    have hstay : c.after (argumentGroup none) (' ' :: rest) = c := by
      have hc := c.after_nil
      rwa [hrest] at hc
    rw [hstay]
    exact hfails.opt
  | some g =>
    have hblank : Takes blanks c c := takes_blanks_nil (by rw [hrest]; rfl)
    exact (hblank.seq (takes_shallowGroup g hrest)).opt

/-- An annotation is read with its arguments, and no further if it has none. -/
theorem takes_annotationUse (a : AnnotationUse) {c : Cursor} {rest : List Char} (hrest : c.rest = a.text ++ ' ' :: rest)
    (hopen : '(' ∉ rest) : Takes annotation c (c.after a.text (' ' :: rest)) := by
  have hname : ∀ x ∈ a.name.chars, (Text.isWord x || x == '.') = true := by
    intro x hx
    rw [isWord_of_identifierPart (a.name.part_of_mem x hx), Bool.true_or]
  have hat : c.rest = "@".toList ++ (a.name.chars ++ (argumentGroup a.arguments ++ ' ' :: rest)) := by
    rw [hrest]
    simp [AnnotationUse.text]
  have hend : (argumentGroup a.arguments ++ ' ' :: rest).head?.any (fun x => Text.isWord x || x == '.') = false := by
    cases a.arguments <;> rfl
  have hall := ((takes_lit "@" _ hat).seq (takes_plus_one a.name.chars _ rfl a.name.nonempty hname hend)).seq
    (takes_argumentGroup a.arguments rfl hopen)
  rw [Cursor.after_after, Cursor.after_after] at hall
  exact hall

theorem opensWith_annotationSign : OpensWith annotation (· == '@') :=
  ((opensWith_lit '@' rfl).seq _).seq _

/-- What is erased leaves a blank of its own, in front of the one that stood behind it. -/
theorem allBlank_append_spaces {lead : List Char} (hlead : Text.AllBlank lead) : Text.AllBlank (lead ++ [' ', ' ']) :=
  List.forall_mem_append.2 ⟨hlead, List.all_eq_true.1 (by decide)⟩

/-- **An annotation is erased with its arguments**, and leaves a blank. -/
theorem Parameter.eraseAnnotations_text (p : Parameter) {lead : List Char} (hlead : Text.AllBlank lead) :
    ∃ lead', Text.AllBlank lead' ∧ eraseAnnotations (lead ++ p.text) = lead' ++ p.marked := by
  have hblank : ∀ x ∈ lead, (x == '@') = false := by
    intro x hx
    simpa using Text.ne_of_isBlank (hlead x hx) (by decide)
  have hmarked : ∀ x ∈ p.marked, (x == '@') = false := by
    intro x hx
    simpa using ne_of_isTypeChar (isTypeChar_of_mem_marked hx) (by decide)
  unfold text eraseAnnotations
  cases p.annotated with
  | none =>
    have hall : ∀ x ∈ lead ++ p.marked, (x == '@') = false := List.forall_mem_append.2 ⟨hblank, hmarked⟩
    exact ⟨lead, hlead, replaceAll_of_failsThrough (opensWith_annotationSign.failsThrough hall) _⟩
  | some a =>
    have hbehind : ∀ x ∈ ' ' :: p.marked, (x == '@') = false := List.forall_mem_cons.2 ⟨rfl, hmarked⟩
    have hopen : '(' ∉ p.marked := fun hmem => absurd (isTypeChar_of_mem_marked hmem) (by decide)
    refine ⟨lead ++ [' ', ' '], allBlank_append_spaces hlead, ?_⟩
    show replaceAll annotation [' '] (lead ++ (a.text ++ ' ' :: p.marked)) = _
    have hne : a.text ≠ [] := List.cons_ne_nil '@' _
    rw [replaceAll_once (opensWith_annotationSign.failsThrough hblank) hne (takes_annotationUse a rfl hopen) rfl
      (opensWith_annotationSign.failsThrough hbehind)]
    simp

/-! ## The word `final` -/

/-- The words of two texts with a separator in between are those of both. -/
theorem not_mem_wordRuns_append_cons {w xs ys : List Char} {sep : Char} (hsep : Text.isWord sep = false) :
    w ∉ wordRuns (xs ++ sep :: ys) ↔ w ∉ wordRuns xs ∧ w ∉ wordRuns ys := by
  have hcut : (fun c => !Text.isWord c) sep = true := by simp [hsep]
  rw [wordRuns, Text.splitWhere_append_cons hcut, List.mem_append, not_or]
  rfl

theorem wordRuns_of_forall {w : List Char} (h : ∀ c ∈ w, Text.isWord c) : wordRuns w = [w] := by
  refine Text.splitWhere_of_forall fun c hc => ?_
  rw [h c hc, Bool.not_true]

/-- A text of word characters is one of the words if no word character stands next to it. -/
theorem mem_wordRuns {u w v : List Char} (hw : ∀ c ∈ w, Text.isWord c) (hu : u.getLast?.any Text.isWord = false)
    (hv : v.head?.any Text.isWord = false) : w ∈ wordRuns (u ++ (w ++ v)) := by
  have hback : w ∈ wordRuns (w ++ v) := by
    cases v with
    | nil =>
      rw [List.append_nil, wordRuns_of_forall hw]
      exact List.mem_singleton_self w
    | cons c v =>
      by_contra hnot
      have hfront := ((not_mem_wordRuns_append_cons hv).1 hnot).1
      rw [wordRuns_of_forall hw] at hfront
      exact hfront (List.mem_singleton_self w)
  rcases List.eq_nil_or_concat u with rfl | ⟨u, c, rfl⟩
  · exact hback
  · rw [List.concat_eq_append, List.getLast?_concat] at hu
    by_contra hnot
    rw [List.concat_eq_append, List.append_assoc, List.singleton_append] at hnot
    exact ((not_mem_wordRuns_append_cons hu).1 hnot).2 hback

/-- **The word is not found where it is not one of the words**: in a longer word there is no edge next to it. -/
theorem failsThrough_finalWord {xs : List Char} {before : Option Char} (hxs : "final".toList ∉ wordRuns xs) :
    FailsThrough finalWord before xs [] := by
  refine failsThrough_of_places fun u x v hsplit c hc hrest => ?_
  rw [List.append_nil] at hrest
  by_cases hword : u.getLast?.any Text.isWord = true ∧ Text.isWord x = true
  · obtain ⟨y, hy, hbehind⟩ := (Option.any_eq_true _ _).1 hword.1
    have hinside : c.atWordEdge = false := by
      rw [Cursor.atWordEdge, hc, hy, hrest]
      simp [hbehind, hword.2]
    exact (fails_wordEdge hinside).seq.seq
  · have hfails : Fails (wordEdge ++ (lit "final" ++ wordEdge)) c := by
      refine Fails.wordEdge_seq (fails_lit_seq fun rest hfinal => fails_wordEdge ?_)
      rw [atWordEdge_after (by rfl), Bool.not_eq_false']
      by_contra hend
      rw [Bool.not_eq_true] at hend
      rw [hrest] at hfinal
      obtain rfl : x = 'f' := (List.cons.inj hfinal).1
      have hstart : u.getLast?.any Text.isWord = false := by
        rw [← Bool.not_eq_true]
        exact fun hu => hword ⟨hu, by rfl⟩
      rw [hsplit, hfinal] at hxs
      exact hxs (mem_wordRuns (List.all_eq_true.1 (by decide)) hstart hend)
    exact hfails

theorem final_not_mem_wordRuns_cons {sep : Char} {ys : List Char} (hsep : Text.isWord sep = false)
    (h : "final".toList ∉ wordRuns ys) : "final".toList ∉ wordRuns (sep :: ys) := by
  rw [← List.nil_append (sep :: ys), not_mem_wordRuns_append_cons hsep]
  exact ⟨by decide, h⟩

theorem final_not_mem_wordRuns_identifier {i : Identifier} (h : i.chars ≠ "final".toList) :
    "final".toList ∉ wordRuns i.chars := by
  rw [wordRuns_of_forall fun c hc => isWord_of_identifierPart (i.part_of_mem c hc), List.mem_singleton]
  exact h.symm

theorem final_not_mem_wordRuns_qualified {path : List Identifier} {name : Identifier}
    (h : ∀ i ∈ path ++ [name], i.chars ≠ "final".toList) :
    "final".toList ∉ wordRuns (Term.qualifier path ++ name.chars) := by
  induction path with
  | nil => exact final_not_mem_wordRuns_identifier (h name (by simp))
  | cons i path ih =>
    have hsplit : Term.qualifier (i :: path) ++ name.chars = i.chars ++ '.' :: (Term.qualifier path ++ name.chars) := by
      simp [Term.qualifier]
    rw [hsplit, not_mem_wordRuns_append_cons (by decide)]
    exact ⟨final_not_mem_wordRuns_identifier (h i (by simp)), ih fun j hj => h j (List.mem_cons_of_mem i hj)⟩

namespace Parameter

/-- The word is not among the words of the type and the name. -/
theorem final_not_mem_core (p : Parameter) : "final".toList ∉ wordRuns p.core := by
  have hname : "final".toList ∉ wordRuns p.name.chars := final_not_mem_wordRuns_identifier p.plain
  have hbare : "final".toList ∉ wordRuns p.type.bare := final_not_mem_wordRuns_qualified p.type.plain
  unfold core ParameterType.text
  cases p.type.arguments with
  | none =>
    rw [not_mem_wordRuns_append_cons (by decide)]
    exact ⟨by rwa [argumentSection, List.append_nil], hname⟩
  | some g =>
    have hsplit : p.type.bare ++ argumentSection (some g) ++ ' ' :: p.name.chars =
        p.type.bare ++ '<' :: (g.chars ++ '>' :: ([] ++ ' ' :: p.name.chars)) := by
      simp [argumentSection, bracketed]
    rw [hsplit, not_mem_wordRuns_append_cons (by decide), not_mem_wordRuns_append_cons (by decide),
      not_mem_wordRuns_append_cons (by decide)]
    exact ⟨hbare, g.plain, by decide, hname⟩

theorem final_not_mem_lead (p : Parameter) {lead : List Char} (hlead : Text.AllBlank lead) :
    "final".toList ∉ wordRuns (lead ++ p.core) := by
  induction lead with
  | nil => exact p.final_not_mem_core
  | cons c lead ih =>
    obtain ⟨hc, hlead⟩ := List.forall_mem_cons.1 hlead
    exact final_not_mem_wordRuns_cons (not_isWord_of_isBlank hc) (ih hlead)

/-- **The word is erased where it marks the parameter**, and leaves a blank. -/
theorem eraseFinal_marked (p : Parameter) {lead : List Char} (hlead : Text.AllBlank lead) :
    ∃ lead', Text.AllBlank lead' ∧ finalWord.replaceAll [' '] (lead ++ p.marked) = lead' ++ p.core := by
  unfold marked
  split
  · have hopens : OpensWith finalWord (· == 'f') := fun c hc => (opensWith_lit 'f' rfl c hc).wordEdge_seq.seq
    have hblank : ∀ x ∈ lead, (x == 'f') = false := by
      intro x hx
      simpa using Text.ne_of_isBlank (hlead x hx) (by decide)
    have hbefore : lead.getLast?.any Text.isWord = false :=
      Text.getLast?_any_of_forall fun x hx => not_isWord_of_isBlank (hlead x hx)
    have hedge (stop : Nat) : Cursor.atWordEdge ⟨lead.getLast?, lead.length, stop, "final".toList ++ ' ' :: p.core, []⟩ := by
      rw [Cursor.atWordEdge, hbefore]
      rfl
    have htakes (stop : Nat) : Takes finalWord ⟨lead.getLast?, lead.length, stop, "final".toList ++ ' ' :: p.core, []⟩ _ :=
      ((takes_wordEdge (hedge stop)).seq (takes_lit "final" (' ' :: p.core) rfl)).seq
        (takes_wordEdge (by rw [atWordEdge_after (by rfl)]; rfl))
    have hbehind : "final".toList ∉ wordRuns (' ' :: p.core) :=
      final_not_mem_wordRuns_cons (by decide) p.final_not_mem_core
    refine ⟨lead ++ [' ', ' '], allBlank_append_spaces hlead, ?_⟩
    rw [replaceAll_once (hopens.failsThrough hblank) (by decide) (htakes _) rfl (failsThrough_finalWord hbehind)]
    simp
  · exact ⟨lead, hlead, replaceAll_of_failsThrough (failsThrough_finalWord (p.final_not_mem_lead hlead)) _⟩

end Parameter

/-! ## The type and the name -/

/-- What is read as a type, with its optional parts. -/
def typePattern : Pattern :=
  qualifiedName ++ blanks ++ generic ++ arrayBrackets ++ opt (lit "...")

theorem parameterPattern_eq :
    parameterPattern = blanks ++ group 1 typePattern ++ blanks1 ++ group 2 namePart ++ blanks ++ lastLineEnd :=
  rfl

theorem idles_generic {c : Cursor} (h : c.rest.head?.any (· == '<') = false) : Idles generic c :=
  Fails.idles_opt (opensWith_lit '<' rfl c h).seq.seq

theorem idles_dots {c : Cursor} (h : c.rest.head?.any (· == '.') = false) : Idles (opt (lit "...")) c :=
  Fails.idles_opt (opensWith_lit '.' rfl c h)

theorem idles_arrayBrackets {c : Cursor} (h : '[' ∉ c.rest) : Idles arrayBrackets c := by
  refine Fails.idles_star (fails_seq_of_reaches fun d hd => fails_lit fun hstands => h ?_)
  obtain ⟨xs, hxs, -⟩ := hd
  rw [hxs]
  exact List.mem_append_right xs (hstands.subset List.mem_cons_self)

section Types

variable {path : List Identifier} {name i : Identifier} {c : Cursor}

/-- In front of a name no optional part of a type stands. -/
theorem head?_chars_any (i : Identifier) {ok : Char → Bool} (hok : ∀ x, isIdentifierPart x → ok x = false) :
    i.chars.head?.any ok = false :=
  Text.head?_any_of_forall fun x hx => hok x (i.part_of_mem x hx)

theorem bracket_not_mem (i : Identifier) : '[' ∉ ' ' :: i.chars := by
  rw [List.mem_cons, not_or]
  exact ⟨by decide, fun hmem => absurd (i.part_of_mem '[' hmem) (by decide)⟩

/-- Behind the generic section of a type there is the space. -/
theorem takes_generic_type {g : TypeArguments}
    (hrest : c.rest = (Term.constant path name).text ++ (bracketed g.chars ++ ' ' :: i.chars)) :
    Takes typePattern c (c.after ((Term.constant path name).text ++ bracketed g.chars) (' ' :: i.chars)) := by
  have hblank (e : Cursor) (he : e.rest = bracketed g.chars ++ ' ' :: i.chars) : Takes blanks e e :=
    takes_blanks_nil (by rw [he]; rfl)
  have hsection (e : Cursor) (he : e.rest = bracketed g.chars ++ ' ' :: i.chars) :
      Takes generic e (e.after (bracketed g.chars) (' ' :: i.chars)) := by
    rw [generic_eq]
    exact (takes_section (nesting_of_nestsWithin g.nested) he).opt
  have htakes := ((((Term.takes_qualifiedName hrest rfl).seq (hblank _ rfl)).seq (hsection _ rfl)).seq
    (idles_arrayBrackets (bracket_not_mem i)).takes).seq (idles_dots rfl).takes
  rwa [Cursor.after_after] at htakes

/-- **A type is read up to the space behind it.** Where it has no generic section, the space is first taken for the blanks
    in front of one. Then nothing is left for the blanks that have to follow, and the space is given back. -/
theorem takes_plain_type (hrest : c.rest = (Term.constant path name).text ++ ' ' :: i.chars) :
    Takes (group 1 typePattern ++ blanks1) c
      (((c.after (Term.constant path name).text (' ' :: i.chars)).capture 1 c.pos).after [' '] i.chars) := by
  intro hfit
  obtain ⟨hfit', hname⟩ := Term.takes_qualifiedName hrest (show isQualifiedPart ' ' = false by decide) hfit
  refine ⟨hfit'.after rfl, fun k r hk => ?_⟩
  show qualifiedName.run c (fun d => blanks.run d fun d => generic.run d fun d => arrayBrackets.run d fun d =>
    (opt (lit "...")).run d fun d => blanks1.run (d.capture 1 c.pos) k) = some r
  apply hname
  have hblank : i.chars.head?.any Text.isBlank = false := head?_chars_any i fun _ => not_isBlank_of_identifierPart
  have hless : i.chars.head?.any (· == '<') = false :=
    head?_chars_any i fun x hx => by simpa using ne_of_identifierPart hx (by decide)
  have hdot : i.chars.head?.any (· == '.') = false :=
    head?_chars_any i fun x hx => by simpa using ne_of_identifierPart hx (by decide)
  have hbracket : '[' ∉ i.chars := fun hmem => bracket_not_mem i (List.mem_cons_of_mem _ hmem)
  have hnone : Fails blanks1 (((c.after (Term.constant path name).text (' ' :: i.chars)).after [' '] i.chars).capture 1
      c.pos) := fails_plus (fails_one hblank)
  have hspace : Takes blanks1 ((c.after (Term.constant path name).text (' ' :: i.chars)).capture 1 c.pos) _ :=
    takes_blanks1_space i.chars rfl hblank
  rw [blanks, run_star_one hfit' rfl (by decide) hblank, idles_generic hless, idles_arrayBrackets hbracket, idles_dots hdot,
    hnone, Option.none_or, idles_generic rfl, idles_arrayBrackets (bracket_not_mem i), idles_dots rfl]
  exact (hspace hfit').2 k r hk

end Types

theorem takes_type (t : ParameterType) (i : Identifier) {c : Cursor} (hrest : c.rest = t.text ++ ' ' :: i.chars) :
    Takes (group 1 typePattern ++ blanks1) c
      (((c.after t.text (' ' :: i.chars)).capture 1 c.pos).after [' '] i.chars) := by
  obtain ⟨path, name, arguments, plain⟩ := t
  cases arguments with
  | none =>
    change c.rest = (Term.constant path name).text ++ [] ++ ' ' :: i.chars at hrest
    show Takes _ c (((c.after ((Term.constant path name).text ++ []) (' ' :: i.chars)).capture 1 c.pos).after [' '] i.chars)
    rw [List.append_nil] at hrest ⊢
    exact takes_plain_type hrest
  | some g =>
    change c.rest = (Term.constant path name).text ++ bracketed g.chars ++ ' ' :: i.chars at hrest
    rw [List.append_assoc] at hrest
    have hblank : i.chars.head?.any Text.isBlank = false := head?_chars_any i fun _ => not_isBlank_of_identifierPart
    exact ((takes_generic_type hrest).group 1).seq (takes_blanks1_space i.chars rfl hblank)

/-! ## Parameters are read back -/

namespace Parameter

theorem head?_core_any (p : Parameter) : p.core.head?.any Text.isBlank = false := by
  have hne : p.type.bare ≠ [] := List.append_ne_nil_of_right_ne_nil _ p.type.name.nonempty
  obtain ⟨x, xs, hbare⟩ := List.exists_cons_of_ne_nil hne
  have hx : Text.isBlank x = false := Term.not_isBlank_of_mem_constant x (hbare ▸ List.mem_cons_self : x ∈ p.type.bare)
  rw [core, ParameterType.text, hbare]
  exact hx

/-- What is left of a parameter is matched as a whole. -/
theorem matchStart?_core (p : Parameter) {lead : List Char} (hlead : Text.AllBlank lead) :
    ∃ m, parameterPattern.matchStart? (lead ++ p.core) = some m ∧ m.group (lead ++ p.core) 1 = p.type.text ∧
      m.group (lead ++ p.core) 2 = p.name.chars := by
  have hfront : Takes blanks ⟨none, 0, (lead ++ p.core).length, lead ++ p.core, []⟩ _ :=
    takes_star_one lead p.core rfl hlead p.head?_core_any
  have hparts : ∀ x ∈ p.name.chars, isNamePart x := fun x hx => isNamePart_of_identifierPart (p.name.part_of_mem x hx)
  have htype : Takes (blanks ++ group 1 typePattern ++ blanks1) ⟨none, 0, (lead ++ p.core).length, lead ++ p.core, []⟩ _ :=
    hfront.seq (takes_type p.type p.name rfl)
  have htakes := ((htype.seq ((takes_plus_one p.name.chars [] (List.append_nil _).symm p.name.nonempty hparts rfl).group 2)).seq
    (takes_blanks_nil rfl)).seq (takes_lastLineEnd rfl)
  rw [parameterPattern_eq]
  refine ⟨_, matchStart?_eq_some htakes, ?_, ?_⟩
  · refine Match.group_eq lead (' ' :: p.name.chars) (List.append_assoc _ _ _).symm ?_
    simp [Match.span?]
  · refine Match.group_eq (lead ++ (p.type.text ++ [' '])) [] (by simp [core]) ?_
    simp [Match.span?, Nat.add_assoc]

/-- **A parameter is read back**, with blanks in front of it or without. -/
theorem parameter?_text (p : Parameter) {lead : List Char} (hlead : Text.AllBlank lead) :
    parameter? (lead ++ p.text) = some (p.type.text, p.name.chars) := by
  obtain ⟨lead', hlead', herased⟩ := p.eraseAnnotations_text hlead
  obtain ⟨lead'', hlead'', hfinal⟩ := p.eraseFinal_marked hlead'
  obtain ⟨m, hm, htype, hname⟩ := p.matchStart?_core hlead''
  simp only [parameter?, herased, hfinal, hm, htype, hname, Option.map_some]

end Parameter

/-- A list with a comma and a space between its items has commas between them, and a space in front of all but the first. -/
theorem join_comma_space (w : List Char) (ws : List (List Char)) :
    Text.join ", ".toList (w :: ws) = Text.join [','] (w :: ws.map (' ' :: ·)) := by
  induction ws generalizing w with
  | nil => rw [List.map_nil, Text.join_singleton, Text.join_singleton]
  | cons v ws ih =>
    rw [Text.join_cons_cons, ih, List.map_cons, Text.join_cons_cons, Text.join_head_cons]
    rfl

/-- **A parameter list is read back**: the types and the names of its parameters, in order. -/
theorem parameters_join (ps : List Parameter) :
    parameters (Text.join ", ".toList (ps.map Parameter.text)) = ps.map fun p => (p.type.text, p.name.chars) := by
  cases ps with
  | nil => rfl
  | cons p ps =>
    have huncut : ∀ w ∈ p.text :: (ps.map Parameter.text).map (' ' :: ·), Uncut 0 w := by
      refine List.forall_mem_cons.2 ⟨p.uncut, fun w hw => ?_⟩
      rw [List.map_map] at hw
      obtain ⟨q, -, rfl⟩ := List.mem_map.1 hw
      exact uncut_space.append q.uncut
    have hread (q : Parameter) : parameter? (' ' :: q.text) = some (q.type.text, q.name.chars) := by
      have hspace : Text.AllBlank [' '] := List.forall_mem_singleton.2 (by decide)
      rw [← List.singleton_append]
      exact q.parameter?_text hspace
    have hfirst := p.parameter?_text (List.forall_mem_nil _)
    rw [List.nil_append] at hfirst
    have hpieces : (((ps.map Parameter.text).map (' ' :: ·)).filterMap parameter?) =
        ps.map fun q => (q.type.text, q.name.chars) := by
      rw [List.map_map, List.filterMap_map, ← List.filterMap_eq_map]
      exact congrArg (fun f => ps.filterMap f) (funext hread)
    rw [List.map_cons, join_comma_space, parameters, splitTopLevel_join rfl rfl (List.cons_ne_nil _ _) huncut]
    show List.filterMap parameter? (List.dropLast _ ++ [List.getLast _ _]) = _
    rw [List.dropLast_concat_getLast, List.filterMap_cons_some hfirst, hpieces, List.map_cons]

/-- A parameter with commas in its annotation and on two levels of its generic section, which holds the word `final` as a part
    of a longer one. -/
def itemsParameter : Parameter where
  annotated := some
    { name := ⟨"Named".toList, by decide, by decide, by decide⟩
      arguments := some ⟨"a = 1, b".toList, by decide⟩ }
  isFinal := true
  type :=
    { path := [⟨"util".toList, by decide, by decide, by decide⟩]
      name := ⟨"Map".toList, by decide, by decide, by decide⟩
      arguments := some ⟨"finalKey, List<? extends Pair<A, B>>".toList, by decide, by decide, by decide⟩
      plain := by decide }
  name := ⟨"items".toList, by decide, by decide, by decide⟩
  plain := by decide

example : itemsParameter.text =
    "@Named(a = 1, b) final util.Map<finalKey, List<? extends Pair<A, B>>> items".toList := by
  rfl

end SpringAtlas.Source

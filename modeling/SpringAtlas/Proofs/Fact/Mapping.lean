import SpringAtlas.Proofs.Fact.Layout
import SpringAtlas.Proofs.Source.Reading

/-!
# `Proofs.Fact.Mapping` — reading annotations and signatures

What the readers of mapping annotations and of method signatures make of the lines of a layout. A path is read back from
the argument list it stands in, the method from the name of the annotation, and a signature gives back its type and its
name.

## Contents
* `groupEnd_argumentText`, `mappingPath?_argumentText` — the path of an annotation
* `mappingOn_annotationLine`, `mappingOn_code` — the mapping of a line, or none
* `search?_signatureLine` — the signature of a handler
-/

namespace SpringAtlas

open Pattern

/-! ## Argument lists -/

theorem groupLength?_append {cs : List Char} (h : ∀ c ∈ cs, c ≠ '(' ∧ c ≠ ')') (depth : Nat) (rest : List Char) :
    Source.groupLength? depth (cs ++ rest) = (Source.groupLength? depth rest).map (· + cs.length) := by
  induction cs with
  | nil => simp
  | cons c cs ih =>
    obtain ⟨hopen, hclose⟩ := h c (by simp)
    rw [List.cons_append, Source.groupLength?, if_neg (by simpa using hopen), if_neg (by simpa using hclose),
      ih fun d hd => h d (List.mem_cons_of_mem _ hd), Option.map_map]
    congr 1

theorem groupLength?_argumentText (p : PathText) :
    Source.groupLength? 0 (argumentText p) = some (argumentText p).length := by
  have hinner : ∀ c ∈ '"' :: (p.chars ++ ['"']), c ≠ '(' ∧ c ≠ ')' := by
    intro c hc
    simp only [List.mem_cons, List.mem_append, List.not_mem_nil, or_false] at hc
    rcases hc with rfl | hc | rfl
    · decide
    · exact ⟨p.ne_of_mem hc (by decide), p.ne_of_mem hc (by decide)⟩
    · decide
  have hsplit : argumentText p = '(' :: ('"' :: (p.chars ++ ['"']) ++ [')']) := by
    simp [argumentText]
  rw [hsplit, Source.groupLength?, if_pos (by decide), groupLength?_append hinner]
  simp [Source.groupLength?]
  omega

/-- The argument list that ends a line ends where the line ends. -/
theorem groupEnd_argumentText (pre : List Char) (p : PathText) :
    Source.groupEnd (pre ++ argumentText p) pre.length = (pre ++ argumentText p).length := by
  have hgap : ((pre ++ argumentText p).drop pre.length).takeWhile (fun c => c == ' ' || c == '\t') = [] := by
    rw [List.drop_left, argumentText, List.takeWhile_cons_of_neg (by decide)]
  rw [Source.groupEnd, hgap, List.length_nil, Nat.add_zero, List.drop_left]
  simp only [groupLength?_argumentText]
  rw [if_pos (by rfl), List.length_append]

/-! ## Paths -/

theorem fails_pathAttribute {c : Cursor} {rest : List Char} (hrest : c.rest = '"' :: rest) :
    Fails pathAttribute c := by
  have hword : Fails (oneOf ["value", "path"]) c := fails_oneOf (by simp [hrest])
  exact hword.seq.seq.seq

theorem takes_leadingPath {c : Cursor} {s rest : List Char} (hs : ∀ x ∈ s, x ≠ '"' ∧ x ≠ '\n') (hpos : c.pos = 0)
    (hrest : c.rest = '(' :: (quoted s ++ rest)) :
    ∃ d, Takes leadingPathPattern c d ∧ d.captures = ⟨1, 2, 2 + s.length⟩ :: c.captures := by
  have hopen : Takes (lit "(") c (c.after ['('] (quoted s ++ rest)) := takes_lit "(" _ hrest
  have htext : (c.after ['('] (quoted s ++ rest)).rest = '"' :: (s ++ '"' :: rest) := by simp [quoted]
  obtain ⟨d, hquoted, hcaptures⟩ := Source.takes_quoted 1 hs htext
  -- behind the parenthesis there is neither a blank nor the name of an attribute nor a brace
  have hbrace : Fails (lit "\x7b") (c.after ['('] (quoted s ++ rest)) := opensWith_lit '\x7b' rfl _ rfl
  have hblanks : Takes blanks (c.after ['('] (quoted s ++ rest)) _ := takes_blanks_nil rfl
  have hattribute : Fails pathAttribute (c.after ['('] (quoted s ++ rest)) := fails_pathAttribute rfl
  refine ⟨d, ?_, by simpa [hpos] using hcaptures⟩
  exact (((((((takes_textStart hpos).seq (takes_blanks_nil (by rw [hrest]; rfl))).seq hopen).seq hblanks).seq
    hattribute.opt).seq hbrace.opt).seq hblanks).seq hquoted

/-- **A path at the start of an argument list is read back**, whatever follows it. -/
theorem argumentsPath?_leading {s : List Char} (hs : ∀ x ∈ s, x ≠ '"' ∧ x ≠ '\n') (rest : List Char) :
    argumentsPath? ('(' :: (quoted s ++ rest)) = some s := by
  obtain ⟨d, hd, hcaptures⟩ :=
    takes_leadingPath (c := ⟨none, 0, ('(' :: (quoted s ++ rest)).length, '(' :: (quoted s ++ rest), []⟩) hs rfl rfl
  have hsearch : leadingPathPattern.search? ('(' :: (quoted s ++ rest)) = some ⟨0, d.pos, d.captures⟩ :=
    search?_eq_some_start hd
  have htext : '(' :: (quoted s ++ rest) = ['(', '"'] ++ s ++ '"' :: rest := by
    simp [quoted]
  rw [argumentsPath?, hsearch, Option.some_or]
  exact congrArg some (Match.group_eq _ _ htext (by simp [Match.span?, hcaptures]))

theorem argumentsPath?_argumentText (p : PathText) : argumentsPath? (argumentText p) = some p.chars := by
  rw [argumentText_eq]
  refine argumentsPath?_leading (fun x hx => ?_) [')']
  exact ⟨p.ne_of_mem hx (by decide), p.ne_of_mem hx (by decide)⟩

/-- **The path of an annotation is read as it is written**, wherever the annotation stands on its line. -/
theorem mappingPath?_argumentText (pre : List Char) (p : PathText) :
    mappingPath? (pre ++ argumentText p) pre.length = some p.chars := by
  have hne : (pre ++ argumentText p).length ≠ pre.length := by
    simp [argumentText]
  have hslice : Text.slice (pre ++ argumentText p) pre.length (pre ++ argumentText p).length = argumentText p := by
    rw [Text.slice, List.take_length, List.drop_left]
  rw [mappingPath?, groupEnd_argumentText, if_neg hne, hslice, argumentsPath?_argumentText]

/-! ## The mapping of a line -/

theorem opensWith_mappingPattern : OpensWith mappingPattern (· == '@') :=
  (((opensWith_lit '@' rfl).seq _).seq _).seq _

/-- A mapping of requests opens with its at sign. -/
theorem opensWith_requestMappingPattern : OpensWith requestMappingPattern (· == '@') :=
  (opensWith_lit '@' rfl).seq _

/-- A line of code holds no mapping, and neither does one with another annotation. -/
theorem mappingMethod_code {line : List Char} (h : ∀ c ∈ line, isCodeChar c) (inside : Bool) :
    mappingMethod line inside = .ok none := by
  have hat : ∀ c ∈ line, (c == '@') = false := by
    intro c hc
    simpa using (isCodeChar_iff.1 (h c hc)).2.2
  rw [mappingMethod, opensWith_mappingPattern.search?_eq_none hat]
  simp only [opensWith_requestMappingPattern.search?_eq_none hat]
  split <;> rfl

theorem verb_mem (m : HttpMethod) : m.verb ∈ ["Get", "Post", "Put", "Delete", "Patch"] := by
  cases m <;> decide

/-- No spelling of a method is the start of another one. -/
theorem verb_not_prefix {m : HttpMethod} {s : String} (hs : s ∈ ["Get", "Post", "Put", "Delete", "Patch"])
    (hne : s ≠ m.verb) (rest : List Char) : ¬ s.toList <+: m.verb.toList ++ rest := by
  simp only [List.mem_cons, List.not_mem_nil, or_false] at hs
  -- those that share a letter at their start differ at the next one
  rcases hs with rfl | rfl | rfl | rfl | rfl <;> cases m <;> simp_all [HttpMethod.verb]

theorem ofName?_verb (m : HttpMethod) : HttpMethod.ofName? m.verb.toList = some m := by
  cases m <;> decide

theorem takes_mappingPattern {c : Cursor} (m : HttpMethod) (p : PathText)
    (hrest : c.rest = annotationLine (m.verb ++ "Mapping") p) :
    ∃ d, Takes mappingPattern c d ∧ d.pos = c.pos + ('@' :: (m.verb ++ "Mapping").toList).length ∧
      d.captures = ⟨1, c.pos + 1, c.pos + 1 + m.verb.toList.length⟩ :: c.captures := by
  have hsplit : annotationLine (m.verb ++ "Mapping") p =
      "@".toList ++ (m.verb.toList ++ ("Mapping".toList ++ argumentText p)) := by
    simp [annotationLine]
  rw [hsplit] at hrest
  have hverb : Takes (oneOf ["Get", "Post", "Put", "Delete", "Patch"])
      (c.after "@".toList (m.verb.toList ++ ("Mapping".toList ++ argumentText p))) _ :=
    takes_oneOf m.verb ("Mapping".toList ++ argumentText p) (verb_mem m)
      (fun s hs hne => verb_not_prefix hs hne _) rfl
  have hedge (e : Cursor) : Takes wordEdge (e.after "Mapping".toList (argumentText p)) _ :=
    takes_wordEdge (atWordEdge_after (by decide))
  refine ⟨_, (((takes_lit "@" _ hrest).seq (hverb.group 1)).seq (takes_lit "Mapping" (argumentText p) rfl)).seq
    (hedge _), ?_, rfl⟩
  have hone : "@".toList.length = 1 := rfl
  simp only [Cursor.after_pos, Cursor.capture_pos, List.length_cons, String.toList_append, List.length_append, hone]
  omega

theorem mappingMethod_annotationLine (m : HttpMethod) (p : PathText) (inside : Bool) :
    mappingMethod (annotationLine (m.verb ++ "Mapping") p) inside =
      .ok (some (m, ('@' :: (m.verb ++ "Mapping").toList).length)) := by
  obtain ⟨d, hd, hpos, hcaptures⟩ := takes_mappingPattern
    (c := ⟨none, 0, (annotationLine (m.verb ++ "Mapping") p).length, annotationLine (m.verb ++ "Mapping") p, []⟩) m p rfl
  have hgroup : Match.group ⟨0, d.pos, d.captures⟩ (annotationLine (m.verb ++ "Mapping") p) 1 = m.verb.toList := by
    refine Match.group_eq ['@'] ("Mapping".toList ++ argumentText p) ?_ ?_
    · simp [annotationLine]
    · simp [Match.span?, hcaptures]
  rw [mappingMethod, search?_eq_some_start hd]
  simp only [hgroup, ofName?_verb]
  rw [hpos, Nat.zero_add]

theorem mappingOn_eq_some {raw masked path : List Char} {inside : Bool} {m : HttpMethod} {start : Nat}
    (hmethod : mappingMethod masked inside = .ok (some (m, start))) (hpath : mappingPath? raw start = some path) :
    mappingOn raw masked inside = .ok (some ⟨m, path, Source.groupEnd masked start⟩) := by
  rw [mappingOn, hmethod]
  show Except.ok ((mappingPath? raw start).map fun path => Mapping.mk m path (Source.groupEnd masked start)) = _
  rw [hpath, Option.map_some]

/-- A line without a method has no mapping. -/
theorem mappingOn_eq_none {raw masked : List Char} {inside : Bool} (h : mappingMethod masked inside = .ok none) :
    mappingOn raw masked inside = .ok none := by
  rw [mappingOn, h]
  rfl

/-- **A mapping annotation is read back**, its method from the masked line and its path from the line as it stands. -/
theorem mappingOn_annotationLine (m : HttpMethod) (p q : PathText) (inside : Bool) :
    mappingOn (annotationLine (m.verb ++ "Mapping") p) (annotationLine (m.verb ++ "Mapping") q) inside =
      .ok (some ⟨m, p.chars, (annotationLine (m.verb ++ "Mapping") q).length⟩) := by
  have hpath : mappingPath? (annotationLine (m.verb ++ "Mapping") p) _ = some p.chars :=
    mappingPath?_argumentText ('@' :: (m.verb ++ "Mapping").toList) p
  have hend : Source.groupEnd (annotationLine (m.verb ++ "Mapping") q) _ = _ :=
    groupEnd_argumentText ('@' :: (m.verb ++ "Mapping").toList) q
  rw [mappingOn_eq_some (mappingMethod_annotationLine m q inside) hpath, hend]
  rfl

/-- An annotation whose name does not start like a method is no mapping. -/
theorem fails_mappingPattern {c : Cursor} {rest : List Char} (hrest : c.rest = '@' :: 'R' :: rest) :
    Fails mappingPattern c := by
  have hhead : Fails (lit "@" ++ group 1 (oneOf ["Get", "Post", "Put", "Delete", "Patch"])) c := by
    refine fails_lit_seq fun rest' hrest' => ?_
    obtain rfl : 'R' :: rest = rest' := by simpa [hrest] using hrest'
    exact (fails_oneOf (by simp)).group 1
  exact hhead.seq.seq

/-- In front of the declaration, the annotations of the class are no mappings. -/
theorem mappingMethod_classAnnotation (rest : List Char) (h : '@' ∉ rest) :
    mappingMethod ('@' :: 'R' :: rest) false = .ok none := by
  have hsearch : mappingPattern.search? ('@' :: 'R' :: rest) = none := by
    refine search?_eq_none ⟨fun c _ hrest => fails_mappingPattern hrest, ?_⟩
      fun c hrest => opensWith_mappingPattern c (by rw [hrest]; rfl)
    refine opensWith_mappingPattern.failsThrough fun x hx => ?_
    have hne : x ≠ '@' := by
      rintro rfl
      simp [h] at hx
    simpa using hne
  rw [mappingMethod, hsearch]
  rfl

/-! ## Signatures -/

/-- A word that is not the whole of a name in front of which it stands goes on there. -/
theorem head?_isIdentifierPart {name tail word rest : List Char} (hname : ∀ c ∈ name, isIdentifierPart c)
    (hword : ∀ c ∈ word, isIdentifierPart c) (hne : word ≠ name) (htail : tail.head?.any isIdentifierPart = false)
    (h : name ++ tail = word ++ rest) : rest.head?.any isIdentifierPart := by
  rcases List.append_eq_append_iff.1 h with ⟨more, hmore, htl⟩ | ⟨more, hmore, hrs⟩
  · -- the word is longer than the name: then the text behind the name starts with a part of a name
    cases more with
    | nil => exact absurd (by simpa using hmore) hne
    | cons c more =>
      rw [htl, List.cons_append, List.head?_cons, Option.any_some, hword c (by simp [hmore])] at htail
      cases htail
  · cases more with
    | nil => exact absurd (by simpa using hmore.symm) hne
    | cons c more =>
      rw [hrs, List.cons_append, List.head?_cons, Option.any_some]
      exact hname c (by simp [hmore])

section Signature

variable {c : Cursor} {r : ReturnType} {rest : List Char}

/-- At the name of a type no modifier and no keyword is read: where one stands, the name goes on behind it. -/
theorem fails_words {q : Pattern} {ws : List String} {tail : List Char} (hrest : c.rest = r.name.chars ++ tail)
    (htail : tail.head?.any isIdentifierPart = false) (hws : ∀ s ∈ ws, s ∈ signatureWords)
    (hq : ∀ s ∈ ws, ∀ rest, rest.head?.any isIdentifierPart → Fails q (c.after s.toList rest)) :
    Fails (oneOf ws ++ q) c := by
  have hparts : ∀ s ∈ signatureWords, s.toList.all isIdentifierPart := by decide
  refine fails_oneOf_seq fun s hs rest h => hq s hs rest ?_
  have hne : s.toList ≠ r.name.chars := by
    intro he
    apply r.plain
    rw [← he, String.ofList_toList]
    exact hws s hs
  exact head?_isIdentifierPart r.name.part_of_mem (List.all_eq_true.1 (hparts s (hws s hs))) hne htail (hrest.symm.trans h)

theorem takes_modifiers {tail : List Char} (hrest : c.rest = r.name.chars ++ tail)
    (htail : tail.head?.any isIdentifierPart = false) : Takes modifiers c c := by
  refine (fails_words hrest htail (by decide) fun s _ rest hhead => ?_).star
  refine fails_plus (fails_one ?_)
  obtain ⟨x, hx, hpart⟩ := (Option.any_eq_true _ _).1 hhead
  simp [hx, not_isBlank_of_identifierPart hpart]

theorem takes_notWord {ws : List String} {tail : List Char} (hrest : c.rest = r.name.chars ++ tail)
    (htail : tail.head?.any isIdentifierPart = false) (hws : ∀ s ∈ ws, s ∈ signatureWords) :
    Takes (notWord ws) c c := by
  have hends : ∀ s ∈ signatureWords, s.toList.getLast?.any Text.isWord := by decide
  refine (fails_words hrest htail hws fun s hs rest hhead => ?_).notAhead
  obtain ⟨x, hx, hpart⟩ := (Option.any_eq_true _ _).1 hhead
  refine fails_wordEdge ?_
  rw [atWordEdge_after (hends s (hws s hs)), hx, Option.any_some, isWord_of_identifierPart hpart]
  rfl

/-- One name in angle brackets. -/
theorem takes_generic (a : Identifier) (hrest : c.rest = '<' :: (a.chars ++ '>' :: rest)) :
    Takes Source.generic c (c.after ('<' :: (a.chars ++ ['>'])) rest) := by
  have hopen : Takes (lit "<") c (c.after ['<'] (a.chars ++ '>' :: rest)) := takes_lit "<" _ hrest
  have hjoin : ((c.after ['<'] (a.chars ++ '>' :: rest)).after a.chars ('>' :: rest)).after ['>'] rest =
      c.after ('<' :: (a.chars ++ ['>'])) rest := by
    simp [Cursor.after_after]
  rw [← hjoin]
  refine Takes.opt ((hopen.seq (takes_star rfl (fun hx hd => ?_) ?_)).seq (takes_lit ">" rest rfl))
  · refine Takes.left (takes_one hd ?_)
    simp [Identifier.ne_of_mem hx (d := '<') (by decide), Identifier.ne_of_mem hx (d := '>') (by decide)]
  · have hplain : Fails (except "<>") ((c.after ['<'] (a.chars ++ '>' :: rest)).after a.chars ('>' :: rest)) :=
      fails_one rfl
    have hangle : Fails (lit "<") ((c.after ['<'] (a.chars ++ '>' :: rest)).after a.chars ('>' :: rest)) :=
      opensWith_lit '<' rfl _ rfl
    exact hplain.alt hangle.seq.seq

/-- The brackets of a type, if there are any. -/
theorem takes_brackets (hrest : c.rest = r.brackets ++ ' ' :: rest) :
    Takes Source.generic c (c.after r.brackets (' ' :: rest)) := by
  unfold ReturnType.brackets at hrest ⊢
  split
  · next a ha =>
    rw [ha] at hrest
    exact takes_generic a (by simpa using hrest)
  · next ha =>
    rw [ha, List.nil_append] at hrest
    have hopen : Fails (lit "<") c := opensWith_lit '<' rfl c (by rw [hrest]; rfl)
    rw [← hrest, c.after_nil]
    exact hopen.seq.seq.opt

theorem head?_brackets (r : ReturnType) (rest : List Char) :
    (r.brackets ++ ' ' :: rest).head? = some '<' ∨ (r.brackets ++ ' ' :: rest).head? = some ' ' := by
  unfold ReturnType.brackets
  split
  · exact Or.inl rfl
  · exact Or.inr rfl

theorem takes_arrayBrackets_nil (h : '[' ∉ c.rest) : Takes Source.arrayBrackets c c := by
  -- however many blanks are skipped first, there is no bracket behind them
  refine (fails_seq_of_reaches fun d hd => fails_lit fun hprefix => ?_).star
  obtain ⟨xs, hrest, -⟩ := hd
  obtain ⟨ys, hd⟩ := hprefix
  rw [hrest, ← hd] at h
  simp at h

/-- The text of a type is taken as a whole. -/
theorem takes_typeText (hrest : c.rest = r.text ++ ' ' :: rest) (harray : '[' ∉ rest) :
    Takes (Source.qualifiedName ++ Source.generic ++ Source.arrayBrackets) c (c.after r.text (' ' :: rest)) := by
  have hsplit : c.rest = r.name.chars ++ (r.brackets ++ ' ' :: rest) := by
    rw [hrest, ReturnType.text, List.append_assoc]
  have hend : (r.brackets ++ ' ' :: rest).head?.any Source.isQualifiedPart = false := by
    rcases head?_brackets r rest with h | h <;> rw [h] <;> rfl
  have hname : Takes Source.qualifiedName c (c.after r.name.chars (r.brackets ++ ' ' :: rest)) :=
    takes_plus_one _ _ hsplit r.name.nonempty (fun x hx => isQualifiedPart_of_identifierPart (r.name.part_of_mem x hx)) hend
  have hbrackets := takes_brackets (c := c.after r.name.chars (r.brackets ++ ' ' :: rest)) rfl
  rw [Cursor.after_after] at hbrackets
  exact (hname.seq hbrackets).seq (takes_arrayBrackets_nil (by simpa using harray))

theorem takes_visibility (hrest : c.rest = "public ".toList ++ rest) (hhead : rest.head?.any Text.isBlank = false) :
    Takes visibility c (c.after "public ".toList rest) := by
  have hword : Takes (oneOf ["public", "protected", "private"]) c (c.after "public".toList (' ' :: rest)) := by
    refine takes_oneOf "public" (' ' :: rest) (by decide) (fun s hs hne => ?_) hrest
    rw [hrest]
    simp only [List.mem_cons, List.not_mem_nil, or_false] at hs
    rcases hs with rfl | rfl | rfl <;> simp_all
  have hjoin : (c.after "public".toList (' ' :: rest)).after [' '] rest = c.after "public ".toList rest := by
    simp [Cursor.after_after]
  rw [← hjoin]
  exact hword.seq (takes_blanks1_space rest rfl hhead)

theorem takes_shallowText_nil (hrest : c.rest = ')' :: rest) : Takes Source.shallowText c c := by
  have hplain : Fails (except "()") c := fails_one (by rw [hrest]; rfl)
  have hopen : Fails (lit "(") c := opensWith_lit '(' rfl c (by rw [hrest]; rfl)
  exact (hplain.alt hopen.seq.seq).star

theorem takes_typeParameters_nil {tail : List Char} (hrest : c.rest = r.name.chars ++ tail) :
    Takes typeParameters c c := by
  have hopen : Fails (lit "<") c := by
    refine opensWith_lit '<' rfl c ?_
    rw [hrest]
    exact r.name.head?_append_any (fun x hx => by simpa using ne_of_identifierPart hx (by decide)) tail
  exact hopen.seq.seq.seq.opt

/-- **The way of a signature**: its type and its name are captured, and no parameters. -/
theorem takes_signature {h : HandlerLayout} (hbefore : c.before = none) (hrest : c.rest = h.signatureLine) :
    ∃ d e, Takes signaturePattern c d ∧ d.captures =
      ⟨3, e, e⟩ ::
      ⟨2, c.pos + ("public ".toList ++ h.returnType.text ++ [' ']).length,
        c.pos + ("public ".toList ++ h.returnType.text ++ [' ']).length + h.name.chars.length⟩ ::
      ⟨1, c.pos + "public ".toList.length, c.pos + "public ".toList.length + h.returnType.text.length⟩ ::
      c.captures := by
  unfold HandlerLayout.signatureLine at hrest
  generalize h.returnType = r at hrest ⊢
  generalize h.name = m at hrest ⊢
  -- what stands behind the visibility, as the text of the type and as its name
  have hsplit : r.text ++ ' ' :: (m.chars ++ "() \x7b".toList) =
      r.name.chars ++ (r.brackets ++ ' ' :: (m.chars ++ "() \x7b".toList)) := by
    rw [ReturnType.text, List.append_assoc]
  have htail : (r.brackets ++ ' ' :: (m.chars ++ "() \x7b".toList)).head?.any isIdentifierPart = false := by
    rcases head?_brackets r (m.chars ++ "() \x7b".toList) with h | h <;> rw [h] <;> rfl
  have hhead : (r.text ++ ' ' :: (m.chars ++ "() \x7b".toList)).head?.any Text.isBlank = false := by
    rw [hsplit]
    exact r.name.head?_append_any (fun _ => not_isBlank_of_identifierPart) _
  have hfront : Takes (notBehind (fun c => Source.isQualifiedPart c || c == '@') ++ opt visibility ++ modifiers ++
      typeParameters ++ notWord ["return", "new", "throw", "else", "case", "public", "protected", "private", "class",
      "interface", "enum"]) c (c.after "public ".toList (r.text ++ ' ' :: (m.chars ++ "() \x7b".toList))) :=
    ((((takes_notBehind (by rw [hbefore]; rfl)).seq (takes_visibility hrest hhead).opt).seq
      (takes_modifiers hsplit htail)).seq (takes_typeParameters_nil hsplit)).seq
      (takes_notWord hsplit htail (by decide))
  have harray : '[' ∉ m.chars ++ "() \x7b".toList := by
    intro hmem
    rcases List.mem_append.1 hmem with hmem | hmem
    · exact Identifier.ne_of_mem hmem (by decide) rfl
    · revert hmem
      decide
  have htype (e : Cursor) (he : e.rest = r.text ++ ' ' :: (m.chars ++ "() \x7b".toList)) :=
    (takes_typeText he harray).group 1
  have hblank (e : Cursor) (he : e.rest = ' ' :: (m.chars ++ "() \x7b".toList)) :=
    takes_blanks1_space _ he (m.head?_append_any (fun _ => not_isBlank_of_identifierPart) _)
  have hname (e : Cursor) (he : e.rest = m.chars ++ "() \x7b".toList) :=
    (takes_plus_one m.chars "() \x7b".toList he m.nonempty (fun x hx => isNamePart_of_identifierPart (m.part_of_mem x hx))
      rfl).group 2
  have hopen (e : Cursor) (he : e.rest = "() \x7b".toList) := takes_lit "(" ") \x7b".toList he
  refine ⟨_, c.pos + ("public ".toList ++ r.text ++ [' '] ++ m.chars ++ ['(']).length, ((((((hfront.seq
    (htype _ rfl)).seq (hblank _ rfl)).seq (hname _ rfl)).seq (takes_blanks_nil rfl)).seq (hopen _ rfl)).seq
    ((takes_shallowText_nil rfl).group 3)).seq (takes_lit ")" " \x7b".toList rfl), ?_⟩
  simp [Nat.add_assoc]
  omega

/-- **A signature is read back**: its type, its name and an empty parameter list. -/
theorem search?_signatureLine (h : HandlerLayout) :
    ∃ m, signaturePattern.search? h.signatureLine = some m ∧ m.group h.signatureLine 1 = h.returnType.text ∧
      m.group h.signatureLine 2 = h.name.chars ∧ ∃ e, m.span? 3 = some (e, e) := by
  obtain ⟨d, e, hd, hcaptures⟩ :=
    takes_signature (c := ⟨none, 0, h.signatureLine.length, h.signatureLine, []⟩) rfl rfl
  refine ⟨_, search?_eq_some_start hd, ?_, ?_, e, ?_⟩
  · refine Match.group_eq "public ".toList (' ' :: (h.name.chars ++ "() \x7b".toList)) ?_ ?_
    · unfold HandlerLayout.signatureLine
      rw [List.append_assoc]
    · simp [Match.span?, hcaptures]
  · refine Match.group_eq ("public ".toList ++ h.returnType.text ++ [' ']) "() \x7b".toList ?_ ?_
    · unfold HandlerLayout.signatureLine
      simp
    · simp [Match.span?, hcaptures]
  · simp [Match.span?, hcaptures]

/-- No signature stands at the end of a line: it would have a closing parenthesis. -/
theorem fails_signature_nil (hrest : c.rest = []) : Fails signaturePattern c := by
  refine fails_seq_of_reaches fun d hd => opensWith_lit ')' rfl d ?_
  obtain ⟨xs, hxs, -⟩ := hd
  rw [hrest] at hxs
  rw [(List.nil_eq_append_iff.1 hxs).2]
  rfl

end Signature

end SpringAtlas

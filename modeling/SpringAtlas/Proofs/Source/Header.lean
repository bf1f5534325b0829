import SpringAtlas.Proofs.Source.Clause
import SpringAtlas.Proofs.Source.Declaration
import SpringAtlas.Proofs.Source.Generics

/-!
# `Proofs.Source.Header` — class headers are read back

The header of a class names the class, its superclass and its interfaces, each with a generic section or without. Such a
section may hold anything that balances its angle brackets, also the words `extends` and `implements`, commas, and
further sections. They all go before the clauses of the header are looked for: what is left are the words of the header,
with one space between them (`squeeze_stripGenerics_words`). Of those words, only the keywords of the clauses are not free
of a keyword, so that each clause is found where it was written.

## Contents
* `GenericText`, `TypeReference`, `ClassHeader` — the headers and their texts
* `ClassHeader.squeeze_stripGenerics_words`, `ClassHeader.declaration?_mask` — the words of a header
* `TypeReference.simpleName_eq`, `typeNames_typeList` — the types of a clause
* `ClassHeader.superclass?_eq`, `ClassHeader.interfaces_eq` — what the clauses name
* `ClassHeader.declaration?_source` — what is read from a header
-/

namespace SpringAtlas.Source

open Pattern

/-! ## Class headers -/

/-- What a generic section may hold: letters and digits of any script, spaces, and the characters of type arguments and
    their bounds. -/
def isGenericChar (c : Char) : Bool :=
  Text.isWord c || " .,?&<>".toList.contains c

/-- The inside of a generic section, with balanced angle brackets. -/
structure GenericText where
  chars : List Char
  valid : chars.all isGenericChar
  balanced : (outside? 0 chars).isSome

/-- The section with its brackets, if there is one. -/
def sectionText : Option GenericText → List Char
  | some g => '<' :: (g.chars ++ ['>'])
  | none => []

/-- A type that a clause names, behind the packages or types that qualify it. -/
structure TypeReference where
  path : List Identifier := []
  name : Identifier
  arguments : Option GenericText := none
  plain : String.ofList name.chars ∉ clauseWords

namespace TypeReference

/-- The type without its generic section. -/
def bare (t : TypeReference) : List Char :=
  Term.qualifier t.path ++ t.name.chars

def text (t : TypeReference) : List Char :=
  t.bare ++ sectionText t.arguments

end TypeReference

/-- A class with its type parameters, its superclass and its interfaces. -/
structure ClassHeader where
  name : Identifier
  parameters : Option GenericText := none
  superclass : Option TypeReference := none
  interfaces : List TypeReference := []
  plain : String.ofList name.chars ∉ clauseWords

/-- The words that each header is written with, whatever it names. -/
def headerWords : List String :=
  "class" :: clauseWords

/-- The words with a comma behind each but the last one. -/
def commaWords : List (List Char) → List (List Char)
  | [] => []
  | [w] => [w]
  | w :: v :: ws => (w ++ [',']) :: commaWords (v :: ws)

namespace ClassHeader

def extendsWords (write : TypeReference → List Char) : Option TypeReference → List (List Char)
  | some t => ["extends".toList, write t]
  | none => []

def implementsWords (write : TypeReference → List Char) : List TypeReference → List (List Char)
  | [] => []
  | t :: ts => "implements".toList :: commaWords ((t :: ts).map write)

/-- The words of a header whose name and whose types are written in some way. -/
def wordsWith (h : ClassHeader) (name : List Char) (write : TypeReference → List Char) : List (List Char) :=
  "class".toList :: name :: (extendsWords write h.superclass ++ implementsWords write h.interfaces)

def words (h : ClassHeader) : List (List Char) :=
  h.wordsWith (h.name.chars ++ sectionText h.parameters) TypeReference.text

/-- The words of the header without its generic sections. -/
def bareWords (h : ClassHeader) : List (List Char) :=
  h.wordsWith h.name.chars TypeReference.bare

/-- The header as it is written, a space behind each word, up to the brace that opens the class. -/
def source (h : ClassHeader) : List Char :=
  Text.spaced h.words ++ ['\x7b']

end ClassHeader

/-! ## Words of a header -/

/-- The words of a header are written like identifiers. -/
theorem headerWord_chars : ∀ s ∈ headerWords, s.toList ≠ [] ∧ ∀ c ∈ s.toList, isIdentifierPart c := by
  refine List.forall_mem_cons.2 ⟨⟨by decide, ?_⟩, clauseWord_chars⟩
  exact List.all_eq_true.1 (by decide : "class".toList.all isIdentifierPart)

section Words

variable {R : List Char → List Char → Prop} {P : List Char → Prop}

/-- What relates words relates them with commas behind them. -/
theorem forall₂_commaWords (hcomma : ∀ {w v}, R w v → R (w ++ [',']) (v ++ [','])) {ws vs : List (List Char)}
    (h : List.Forall₂ R ws vs) : List.Forall₂ R (commaWords ws) (commaWords vs) := by
  induction h with
  | nil => exact .nil
  | cons hw hws ih =>
    cases hws with
    | nil => exact .cons hw .nil
    | cons => exact .cons (hcomma hw) ih

/-- What relates the ways in which the name and the types are written relates the words of the header. -/
theorem ClassHeader.forall₂_wordsWith (h : ClassHeader)
    (hword : ∀ s ∈ headerWords, R s.toList s.toList)
    (hcomma : ∀ {w v}, R w v → R (w ++ [',']) (v ++ [','])) {name name' : List Char} (hname : R name name')
    {write write' : TypeReference → List Char} (htype : ∀ t, R (write t) (write' t)) :
    List.Forall₂ R (h.wordsWith name write) (h.wordsWith name' write') := by
  have hextends : List.Forall₂ R (extendsWords write h.superclass) (extendsWords write' h.superclass) := by
    cases h.superclass with
    | none => exact .nil
    | some t => exact .cons (hword "extends" (by decide)) (.cons (htype t) .nil)
  have hwritten (ts : List TypeReference) : List.Forall₂ R (ts.map write) (ts.map write') := by
    rw [List.forall₂_map_left_iff, List.forall₂_map_right_iff]
    exact List.forall₂_same.2 fun t _ => htype t
  have himplements : List.Forall₂ R (implementsWords write h.interfaces) (implementsWords write' h.interfaces) := by
    cases h.interfaces with
    | nil => exact .nil
    | cons t ts => exact .cons (hword "implements" (by decide)) (forall₂_commaWords hcomma (hwritten (t :: ts)))
  exact .cons (hword "class" (by decide)) (.cons hname (List.rel_append hextends himplements))

theorem forall_commaWords (hcomma : ∀ {w}, P w → P (w ++ [','])) {ws : List (List Char)} (h : ∀ w ∈ ws, P w) :
    ∀ w ∈ commaWords ws, P w :=
  List.forall₂_same.1 (forall₂_commaWords hcomma (List.forall₂_same.2 h))

theorem ClassHeader.forall_wordsWith (h : ClassHeader) (hword : ∀ s ∈ headerWords, P s.toList)
    (hcomma : ∀ {w}, P w → P (w ++ [','])) {name : List Char} (hname : P name) {write : TypeReference → List Char}
    (htype : ∀ t, P (write t)) : ∀ w ∈ h.wordsWith name write, P w :=
  List.forall₂_same.1 (h.forall₂_wordsWith hword hcomma hname htype)

end Words

/-- The name of a type, without its arguments, is made of identifiers and dots. -/
theorem TypeReference.mem_bare {t : TypeReference} {c : Char} (hc : c ∈ t.bare) : isIdentifierPart c ∨ c = '.' :=
  Term.mem_constant hc

/-! ## The mask of a header -/

theorem isGenericChar_of_identifierPart {c : Char} (h : isIdentifierPart c) : isGenericChar c := by
  rw [isGenericChar, isWord_of_identifierPart h, Bool.true_or]

theorem isPlainChar_of_isGenericChar {c : Char} (h : isGenericChar c) : isPlainChar c := by
  rcases Bool.or_eq_true_iff.1 h with hword | hother
  · exact isPlainChar_of_isWord hword
  · have hplain : " .,?&<>".toList.all isPlainChar := by decide
    exact List.all_eq_true.1 hplain c (List.contains_iff_mem.1 hother)

theorem isGenericChar_of_mem_sectionText {g : Option GenericText} {c : Char} (hc : c ∈ sectionText g) :
    isGenericChar c := by
  cases g with
  | none => exact absurd hc List.not_mem_nil
  | some g =>
    rcases List.mem_cons.1 hc with rfl | hc
    · decide
    · rcases List.mem_append.1 hc with hc | hc
      · exact List.all_eq_true.1 g.valid c hc
      · rw [List.mem_singleton.1 hc]
        decide

/-- A header holds parts of identifiers and the characters of type arguments. -/
theorem ClassHeader.isGenericChar_of_mem (h : ClassHeader) {c : Char} (hc : c ∈ Text.spaced h.words) :
    isGenericChar c := by
  have hword : ∀ w ∈ h.words, ∀ c ∈ w, isGenericChar c := by
    refine h.forall_wordsWith (P := fun w => ∀ c ∈ w, isGenericChar c) ?_ ?_ ?_ fun t => ?_
    · intro s hs c hc
      exact isGenericChar_of_identifierPart ((headerWord_chars s hs).2 c hc)
    · intro w hw
      exact List.forall_mem_append.2 ⟨hw, List.forall_mem_singleton.2 (by decide)⟩
    · exact List.forall_mem_append.2 ⟨fun c hc => isGenericChar_of_identifierPart (h.name.part_of_mem c hc),
        fun c => isGenericChar_of_mem_sectionText⟩
    · refine List.forall_mem_append.2 ⟨fun c hc => ?_, fun c => isGenericChar_of_mem_sectionText⟩
      rcases t.mem_bare hc with hc | rfl
      · exact isGenericChar_of_identifierPart hc
      · decide
  rcases Text.mem_spaced hc with rfl | ⟨w, hw, hc⟩
  · decide
  · exact hword w hw c hc

/-- A header is its own mask, since nothing in it starts a comment or a literal. -/
theorem ClassHeader.masksTo_source (h : ClassHeader) : MasksTo h.source h.source := by
  refine masksTo_plain (List.forall_mem_append.2 ⟨fun c hc => ?_, List.forall_mem_singleton.2 (by decide)⟩)
  exact isPlainChar_of_isGenericChar (h.isGenericChar_of_mem hc)

/-- A header ends in front of its brace. -/
theorem ClassHeader.brace_not_mem (h : ClassHeader) : '\x7b' ∉ Text.spaced h.words := by
  intro hbrace
  exact absurd (h.isGenericChar_of_mem hbrace) (by decide)

/-! ## The words without generic sections -/

theorem stripsTo_spaced {ws vs : List (List Char)} (h : List.Forall₂ StripsTo ws vs) :
    StripsTo (Text.spaced ws) (Text.spaced vs) := by
  induction h with
  | nil => exact stripsTo_plain (List.forall_mem_nil _)
  | cons hw _ ih =>
    have hspace : StripsTo [' '] [' '] := stripsTo_char (by decide)
    rw [Text.spaced_cons, Text.spaced_cons]
    exact hw.append (hspace.append ih)

theorem not_isAngle_of_identifierPart {c : Char} (h : isIdentifierPart c) : isAngle c = false := by
  have hopen : c ≠ '<' := ne_of_identifierPart h (by decide)
  have hclose : c ≠ '>' := ne_of_identifierPart h (by decide)
  simp [isAngle, hopen, hclose]

/-- Type arguments are stripped away. -/
theorem stripsTo_sectionText (g : Option GenericText) : StripsTo (sectionText g) [] := by
  cases g with
  | none => exact stripsTo_plain (List.forall_mem_nil _)
  | some g => exact stripsTo_section g.balanced

theorem TypeReference.stripsTo_bare (t : TypeReference) : StripsTo t.bare t.bare := by
  refine stripsTo_plain fun c hc => ?_
  rcases t.mem_bare hc with hc | rfl
  · exact not_isAngle_of_identifierPart hc
  · decide

namespace ClassHeader

theorem stripsTo_words (h : ClassHeader) : List.Forall₂ StripsTo h.words h.bareWords := by
  have hword : ∀ s ∈ headerWords, StripsTo s.toList s.toList := by
    intro s hs
    exact stripsTo_plain fun c hc => not_isAngle_of_identifierPart ((headerWord_chars s hs).2 c hc)
  have hcomma : StripsTo [','] [','] := stripsTo_char (by decide)
  have hname : StripsTo h.name.chars h.name.chars :=
    stripsTo_plain fun c hc => not_isAngle_of_identifierPart (h.name.part_of_mem c hc)
  refine h.forall₂_wordsWith hword (fun hw => hw.append hcomma) ?_ fun t => ?_
  · have hall := hname.append (stripsTo_sectionText h.parameters)
    rwa [List.append_nil] at hall
  · have hall := t.stripsTo_bare.append (stripsTo_sectionText t.arguments)
    rwa [List.append_nil] at hall

theorem isSolid_of_mem (h : ClassHeader) : ∀ w ∈ h.bareWords, Text.IsSolid w := by
  refine h.forall_wordsWith ?_ ?_ ?_ fun t => ?_
  · intro s hs
    obtain ⟨hne, hpart⟩ := headerWord_chars s hs
    exact ⟨hne, fun c hc => not_isBlank_of_identifierPart (hpart c hc)⟩
  · rintro w ⟨hne, hsolid⟩
    exact ⟨List.append_ne_nil_of_left_ne_nil hne _,
      List.forall_mem_append.2 ⟨hsolid, List.forall_mem_singleton.2 (by decide)⟩⟩
  · exact ⟨h.name.nonempty, fun c hc => not_isBlank_of_identifierPart (h.name.part_of_mem c hc)⟩
  · exact ⟨List.append_ne_nil_of_right_ne_nil _ t.name.nonempty, Term.not_isBlank_of_mem_constant⟩

/-- **The header without generic sections**: its words with one space between them. -/
theorem squeeze_stripGenerics_words (h : ClassHeader) :
    Text.squeeze (stripGenerics (Text.spaced h.words)) = Text.join [' '] h.bareWords := by
  rw [(stripsTo_spaced h.stripsTo_words).stripGenerics, Text.squeeze_spaced h.isSolid_of_mem]

/-- What is read of a header are its words without generic sections. -/
theorem declaration?_mask (h : ClassHeader) (rest : List Char) :
    declaration? (mask (h.source ++ rest)) =
      some { kind := .ordinary, name := h.name.chars, start := 0, header := Text.join [' '] h.bareWords } := by
  -- what stands between the name and the brace
  obtain ⟨tail, htail⟩ : ∃ tail, tail = sectionText h.parameters ++
      ' ' :: Text.spaced (extendsWords TypeReference.text h.superclass ++
        implementsWords TypeReference.text h.interfaces) := ⟨_, rfl⟩
  have hbody : Text.spaced h.words = "class ".toList ++ (h.name.chars ++ tail) := by
    rw [htail, words, wordsWith, Text.spaced_cons, Text.spaced_cons]
    simp
  have hbrace : ∀ c ∈ tail, (c != '\x7b') = true := by
    intro c hc
    have hne : c ≠ '\x7b' := by
      rintro rfl
      exact h.brace_not_mem (hbody ▸ List.mem_append_right _ (List.mem_append_right _ hc))
    simpa using hne
  have hend : (tail ++ '\x7b' :: mask rest).head?.any isNamePart = false := by
    rw [htail]
    cases h.parameters with
    | none =>
      show isNamePart ' ' = false
      decide
    | some g =>
      show isNamePart '<' = false
      decide
  have htaken : tail = (tail ++ '\x7b' :: mask rest).takeWhile (· != '\x7b') := by
    rw [List.takeWhile_append_of_pos hbrace, List.takeWhile_cons_of_neg (by decide), List.append_nil]
  have hsource : h.source ++ mask rest = "class ".toList ++ (h.name.chars ++ (tail ++ '\x7b' :: mask rest)) := by
    rw [source, hbody]
    simp
  rw [h.masksTo_source rest, hsource, ← h.squeeze_stripGenerics_words, hbody]
  nth_rewrite 2 [htaken]
  exact declaration?_eq_some [] h.name True.intro rfl hend

end ClassHeader

/-! ## Words that are free of a keyword -/

namespace ClassHeader

variable {keyword : String}

/-- The words in front of the clauses are free of the words that open clauses. -/
theorem free_opening (h : ClassHeader) (hkeyword : keyword ∈ clauseWords) :
    ∀ w ∈ ["class".toList, h.name.chars], Free keyword w := by
  have hclass : ∀ s ∈ clauseWords, ¬ s.toList <:+ "class".toList := by decide
  have hname : Free keyword h.name.chars := free_qualified hkeyword [] h.plain
  simpa using And.intro (free_of_not_suffix (hclass keyword hkeyword)) hname

theorem free_extendsWords (s : Option TypeReference) :
    ∀ w ∈ extendsWords TypeReference.bare s, Free "implements" w := by
  cases s with
  | none => exact List.forall_mem_nil _
  | some t =>
    refine List.forall_mem_cons.2 ⟨free_of_not_suffix (by decide), List.forall_mem_singleton.2 ?_⟩
    exact free_qualified (by decide) t.path t.plain

theorem free_implementsWords (ts : List TypeReference) :
    ∀ w ∈ implementsWords TypeReference.bare ts, Free "extends" w := by
  cases ts with
  | nil => exact List.forall_mem_nil _
  | cons t ts =>
    refine List.forall_mem_cons.2 ⟨free_of_not_suffix (by decide), ?_⟩
    refine forall_commaWords (fun {w} _ => free_comma (by decide) w) fun w hw => ?_
    obtain ⟨t, -, rfl⟩ := List.mem_map.1 hw
    exact free_qualified (by decide) t.path t.plain

end ClassHeader

/-! ## The types of a clause -/

theorem replace_of_not_mem {x : Char} {old new cs : List Char} (h : x ∉ cs) : Text.replace (x :: old) new cs = cs := by
  induction cs with
  | nil => rfl
  | cons c cs ih =>
    obtain ⟨hne, hcs⟩ := not_or.1 (mt List.mem_cons.2 h)
    have hprefix : List.isPrefixOf (x :: old) (c :: cs) = false := by simp [List.isPrefixOf, hne]
    rw [Text.replace, Text.replaceFrom, hprefix, if_neg Bool.false_ne_true]
    exact congrArg (c :: ·) (ih hcs)

/-- The name of a type is read with blanks around the type. -/
theorem TypeReference.simpleName_eq (t : TypeReference) {w : List Char} (h : Padded t.bare w) :
    simpleName w = t.name.chars := by
  have hplain {d : Char} (hblank : Text.isBlank d = false) (hpart : isIdentifierPart d = false) (hdot : d ≠ '.') :
      d ∉ w := by
    intro hd
    rcases h.mem hd with hd | hd
    · simp [hblank] at hd
    · exact Term.not_mem_constant hpart hdot hd
  have hstrip : stripGenerics w = w := by
    refine (stripsTo_plain fun c hc => ?_).stripGenerics
    rcases angle_cases c with rfl | rfl | hangle
    · exact absurd hc (hplain (by decide) (by decide) (by decide))
    · exact absurd hc (hplain (by decide) (by decide) (by decide))
    · exact hangle
  have hreplace : Text.replace "[]".toList [] w = w :=
    replace_of_not_mem (hplain (by decide) (by decide) (by decide))
  rw [simpleName, hstrip, hreplace, (Term.constant t.path t.name).trim_eq h]
  exact Term.lastSegment_constant t.path t.name

theorem commaWords_cons (w : List Char) (ws : List (List Char)) :
    ∃ comma more, commaWords (w :: ws) = (w ++ comma) :: more := by
  cases ws with
  | nil => exact ⟨[], [], by rw [commaWords, List.append_nil]⟩
  | cons v ws => exact ⟨[','], _, rfl⟩

theorem commaWords_ne_nil (w : List Char) (ws : List (List Char)) : commaWords (w :: ws) ≠ [] := by
  obtain ⟨comma, more, hwords⟩ := commaWords_cons w ws
  rw [hwords]
  exact List.cons_ne_nil _ _

/-- Words with commas behind them are words with commas between them, all but the first one behind a space. -/
theorem join_commaWords (w : List Char) (ws : List (List Char)) :
    Text.join [' '] (commaWords (w :: ws)) = Text.join [','] (w :: ws.map (' ' :: ·)) := by
  induction ws generalizing w with
  | nil => rw [commaWords, List.map_nil, Text.join_singleton, Text.join_singleton]
  | cons v ws ih =>
    have hfirst := Text.join_append_spaced [w ++ [',']] (commaWords_ne_nil v ws)
    rw [List.singleton_append, Text.spaced_cons, ih] at hfirst
    rw [commaWords, hfirst, List.map_cons, Text.join_cons_cons, Text.join_head_cons]
    simp [Text.spaced]

theorem isName_identifier (i : Identifier) : isName i.chars := by
  obtain ⟨c, cs, hchars⟩ := List.exists_cons_of_ne_nil i.nonempty
  have hdigit := i.start
  rw [hchars, List.head?_cons, Option.any_some] at hdigit
  have hstart : isNameStart c := isNameStart_of_identifier (i.part_of_mem c (by simp [hchars])) hdigit
  have hparts : cs.all isNamePart :=
    List.all_eq_true.2 fun d hd => isNamePart_of_identifierPart (i.part_of_mem d (by simp [hchars, hd]))
  rw [hchars, isName, hstart, hparts, Bool.true_and]

/-- Types without generic sections in a list. -/
def typeList (ts : List TypeReference) : List Char :=
  Text.join [' '] (commaWords (ts.map TypeReference.bare))

theorem typeList_ne_nil (t : TypeReference) (ts : List TypeReference) : typeList (t :: ts) ≠ [] := by
  obtain ⟨comma, more, hwords⟩ := commaWords_cons t.bare (ts.map TypeReference.bare)
  have hbare : t.bare ≠ [] := List.append_ne_nil_of_right_ne_nil _ t.name.nonempty
  rw [typeList, List.map_cons, hwords, Text.join_cons, List.append_assoc]
  exact List.append_ne_nil_of_left_ne_nil hbare _

theorem mem_typeList {ts : List TypeReference} {c : Char} (hc : c ∈ typeList ts) :
    isIdentifierPart c ∨ c = '.' ∨ c = ',' ∨ c = ' ' := by
  have hwords : ∀ w ∈ commaWords (ts.map TypeReference.bare), ∀ c ∈ w, isIdentifierPart c ∨ c = '.' ∨ c = ',' := by
    refine forall_commaWords (fun hw => ?_) fun w hw c hc => ?_
    · exact List.forall_mem_append.2 ⟨hw, List.forall_mem_singleton.2 (Or.inr (Or.inr rfl))⟩
    · obtain ⟨t, -, rfl⟩ := List.mem_map.1 hw
      exact (t.mem_bare hc).imp_right Or.inl
  rcases Text.mem_join hc with hc | ⟨w, hw, hc⟩
  · exact Or.inr (Or.inr (Or.inr (List.mem_singleton.1 hc)))
  · rcases hwords w hw c hc with hc | hc | hc
    · exact Or.inl hc
    · exact Or.inr (Or.inl hc)
    · exact Or.inr (Or.inr (Or.inl hc))

/-- **The types of a list** are read by their names. -/
theorem typeNames_typeList (t : TypeReference) (ts : List TypeReference) :
    typeNames (typeList (t :: ts)) = (t :: ts).map (·.name.chars) := by
  have hplain : ∀ c ∈ typeList (t :: ts), isAngle c = false := by
    intro c hc
    rcases mem_typeList hc with hc | rfl | rfl | rfl
    · exact not_isAngle_of_identifierPart hc
    · decide
    · decide
    · decide
  have hpadded : List.Forall₂ (fun t w => Padded t.bare w) (t :: ts)
      (t.bare :: (ts.map TypeReference.bare).map (' ' :: ·)) := by
    refine .cons (padded_self t.bare) ?_
    rw [List.map_map, List.forall₂_map_right_iff]
    refine List.forall₂_same.2 fun t _ => ⟨[' '], [], ?_, List.forall_mem_nil _, by simp⟩
    exact List.forall_mem_singleton.2 (by decide)
  have hcomma : ∀ w ∈ t.bare :: (ts.map TypeReference.bare).map (' ' :: ·), ∀ c ∈ w, (c == ',') = false := by
    refine forall_mem_of_forall₂ (fun t w hw c hc => ?_) hpadded
    have hne : c ≠ ',' := by
      rcases hw.mem hc with hblank | hc
      · exact Text.ne_of_isBlank hblank (by decide)
      · exact fun he => Term.not_mem_constant (by decide) (by decide) (he ▸ hc)
    simpa using hne
  have hnames : (t.bare :: (ts.map TypeReference.bare).map (' ' :: ·)).map simpleName =
      (t :: ts).map (·.name.chars) :=
    (map_eq_map_of_forall₂ (fun t _ hw => (t.simpleName_eq hw).symm) hpadded).symm
  have hvalid : ∀ n ∈ (t :: ts).map (·.name.chars), isName n := by
    intro n hn
    obtain ⟨t, -, rfl⟩ := List.mem_map.1 hn
    exact isName_identifier t.name
  rw [typeNames, (stripsTo_plain hplain).stripGenerics, typeList, List.map_cons, join_commaWords,
    Text.splitWhere_join (by decide) (List.cons_ne_nil _ _) hcomma, hnames, List.filter_eq_self.2 hvalid]

/-! ## Headers are read back -/

theorem takes_bare (t : TypeReference) {c : Cursor} {rest : List Char} (hrest : c.rest = t.bare ++ rest)
    (hend : rest.head?.any isQualifiedPart = false) : Takes qualifiedName c (c.after t.bare rest) :=
  Term.takes_qualifiedName hrest hend

theorem takes_typeList (t : TypeReference) (ts : List TypeReference) {c : Cursor}
    (hrest : c.rest = typeList (t :: ts) ++ []) :
    Takes (plus (one fun c => isQualifiedPart c || c == ',' || Text.isBlank c)) c
      (c.after (typeList (t :: ts)) []) := by
  refine takes_plus_one _ [] hrest (typeList_ne_nil t ts) (fun x hx => ?_) rfl
  rcases mem_typeList hx with hx | rfl | rfl | rfl
  · simp [isQualifiedPart_of_identifierPart hx]
  · decide
  · decide
  · decide

namespace ClassHeader

variable {h : ClassHeader} {d : TypeDeclaration}

/-- The superclass is named behind the one `extends` of the header. -/
theorem superclass?_eq (hd : d.header = Text.join [' '] h.bareWords) :
    d.superclass? = h.superclass.map (·.name.chars) := by
  have hsolid := h.isSolid_of_mem
  have hopening : ∀ w ∈ ["class".toList, h.name.chars], Free "extends" w := h.free_opening (by decide)
  rw [TypeDeclaration.superclass?, extendsPattern_eq, hd]
  cases hs : h.superclass with
  | none =>
    have hwords : h.bareWords = ["class".toList, h.name.chars] ++ implementsWords TypeReference.bare h.interfaces := by
      rw [bareWords, wordsWith, hs]
      rfl
    have hfree : ∀ w ∈ h.bareWords, Free "extends" w := by
      rw [hwords]
      exact List.forall_mem_append.2 ⟨hopening, free_implementsWords h.interfaces⟩
    rw [search?_clause_eq_none (by decide) hsolid hfree, Option.map_none, Option.map_none]
  | some t =>
    have hwords : h.bareWords = ["class".toList, h.name.chars] ++
        "extends".toList :: t.bare :: implementsWords TypeReference.bare h.interfaces := by
      rw [bareWords, wordsWith, hs]
      rfl
    have hend : ((implementsWords TypeReference.bare h.interfaces).flatMap (' ' :: ·)).head?.any isQualifiedPart =
        false := by
      cases h.interfaces with
      | nil => rfl
      | cons t ts =>
        show isQualifiedPart ' ' = false
        decide
    rw [hwords] at hsolid ⊢
    obtain ⟨m, hsearch, hgroup⟩ := search?_clause (by decide) hsolid hopening (List.cons_ne_nil _ _)
      (Text.join_cons t.bare _) fun c hc => takes_bare t hc hend
    rw [hsearch, Option.map_some, Option.map_some, hgroup, t.simpleName_eq (padded_self t.bare)]

/-- The interfaces are listed behind the one `implements` of the header, which they end. -/
theorem interfaces_eq (hd : d.header = Text.join [' '] h.bareWords) :
    d.interfaces = h.interfaces.map (·.name.chars) := by
  have hsolid := h.isSolid_of_mem
  have hopening : ∀ w ∈ ["class".toList, h.name.chars] ++ extendsWords TypeReference.bare h.superclass,
      Free "implements" w :=
    List.forall_mem_append.2 ⟨h.free_opening (by decide), free_extendsWords h.superclass⟩
  rw [TypeDeclaration.interfaces, implementsPattern_eq, hd]
  cases hs : h.interfaces with
  | nil =>
    have hwords : h.bareWords = ["class".toList, h.name.chars] ++ extendsWords TypeReference.bare h.superclass := by
      rw [bareWords, wordsWith, hs, implementsWords, List.append_nil]
      rfl
    rw [search?_clause_eq_none (by decide) hsolid (hwords ▸ hopening)]
    rfl
  | cons t ts =>
    have hwords : h.bareWords = (["class".toList, h.name.chars] ++ extendsWords TypeReference.bare h.superclass) ++
        "implements".toList :: commaWords ((t :: ts).map TypeReference.bare) := by
      rw [bareWords, wordsWith, hs, implementsWords, List.append_assoc]
      rfl
    rw [hwords] at hsolid ⊢
    obtain ⟨m, hsearch, hgroup⟩ := search?_clause (by decide) hsolid hopening (commaWords_ne_nil _ _)
      (List.append_nil (typeList (t :: ts))).symm fun c hc => takes_typeList t ts hc
    rw [hsearch]
    exact (congrArg typeNames hgroup).trans (typeNames_typeList t ts)

/-- **The header of a class is read back**, whatever its generic sections hold: the name of the class, and the simple
    names of its superclass and of its interfaces, in order. -/
theorem declaration?_source (h : ClassHeader) (rest : List Char) :
    ∃ d, declaration? (mask (h.source ++ rest)) = some d ∧ d.kind = .ordinary ∧ d.name = h.name.chars ∧
      d.superclass? = h.superclass.map (·.name.chars) ∧ d.interfaces = h.interfaces.map (·.name.chars) :=
  ⟨_, h.declaration?_mask rest, rfl, rfl, superclass?_eq rfl, interfaces_eq rfl⟩

end ClassHeader

/-- A header whose generic sections hold the keyword of a clause, commas and further sections. -/
def shelfHeader : ClassHeader where
  name := ⟨"Shelf".toList, by decide, by decide, by decide⟩
  parameters := some ⟨"T extends A<T> & B".toList, by decide, by decide⟩
  superclass := some
    { path := [⟨"store".toList, by decide, by decide, by decide⟩]
      name := ⟨"Base".toList, by decide, by decide, by decide⟩
      arguments := some ⟨"K, List<T>".toList, by decide, by decide⟩
      plain := by decide }
  interfaces :=
    [{ name := ⟨"Open".toList, by decide, by decide, by decide⟩
       plain := by decide },
     { name := ⟨"Sorted".toList, by decide, by decide, by decide⟩
       arguments := some ⟨"? extends T".toList, by decide, by decide⟩
       plain := by decide }]
  plain := by decide

example : shelfHeader.words.map String.ofList =
    ["class", "Shelf<T extends A<T> & B>", "extends", "store.Base<K, List<T>>", "implements", "Open,",
      "Sorted<? extends T>"] := by
  rfl

end SpringAtlas.Source

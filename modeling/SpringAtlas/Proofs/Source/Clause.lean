import SpringAtlas.Proofs.Pattern.Search
import SpringAtlas.Proofs.Source.Expression
import SpringAtlas.Proofs.Text.Words
import SpringAtlas.Source.Declaration

/-!
# `Proofs.Source.Clause` — where a clause of a header is found

A clause opens where its keyword stands as a word of its own. A header is searched for it character by character, and may
hold the keyword in other places: at the end of a longer name, in front of a comma, between two dots. `Free` says of a word
that no clause opens in it. Among free words there is no clause (`search?_clause_eq_none`), and behind free words the
first clause is the one that stands there (`search?_clause`).

## Contents
* `clausePattern`, `Free` — clauses and their keywords
* `failsThrough_word`, `failsThrough_spaced` — words that a search passes
* `search?_clause_eq_none`, `search?_clause` — what it finds
* `free_of_not_suffix`, `free_comma`, `free_qualified` — words that are free of a keyword
-/

namespace SpringAtlas.Source

open Pattern

/-! ## Clauses -/

/-- The words that open the clauses of a header. -/
def clauseWords : List String :=
  ["extends", "implements"]

/-- The keyword of a clause as a word of its own, and what the clause names. -/
def clausePattern (keyword : String) (named : Pattern) : Pattern :=
  wordEdge ++ lit keyword ++ blanks1 ++ group 1 named

/-- The pattern of the superclass is a clause with one qualified name. -/
theorem extendsPattern_eq : extendsPattern = clausePattern "extends" qualifiedName :=
  rfl

/-- The pattern of the interfaces is a clause with a list of names. -/
theorem implementsPattern_eq : implementsPattern =
    clausePattern "implements" (plus (one fun c => isQualifiedPart c || c == ',' || Text.isBlank c)) :=
  rfl

/-- Where the keyword stands at the end of the word, it is the end of a longer name. -/
def Free (keyword : String) (w : List Char) : Prop :=
  ∀ pre, w = pre ++ keyword.toList → pre.getLast?.any Text.isWord

/-- The words that open clauses are identifiers. -/
theorem clauseWord_chars : ∀ s ∈ clauseWords, s.toList ≠ [] ∧ ∀ c ∈ s.toList, isIdentifierPart c := by
  have hall : ∀ s ∈ clauseWords, s.toList ≠ [] ∧ s.toList.all isIdentifierPart := by decide
  exact fun s hs => ⟨(hall s hs).1, List.all_eq_true.1 (hall s hs).2⟩

/-! ## The search for a clause -/

section Clause

variable {keyword : String} {named : Pattern} {c : Cursor} {ws vs : List (List Char)}

theorem fails_clause (hkeyword : keyword ∈ clauseWords) (h : ∀ rest, c.rest = keyword.toList ++ rest →
    c.before.any Text.isWord ∨ rest.head?.any Text.isBlank = false) : Fails (clausePattern keyword named) c := by
  obtain ⟨hne, hpart⟩ := clauseWord_chars keyword hkeyword
  by_cases hword : c.before.any Text.isWord ∧ c.rest.head?.any Text.isWord
  · have hinside : c.atWordEdge = false := by rw [Cursor.atWordEdge, hword.1, hword.2, bne_self_eq_false]
    exact (fails_wordEdge hinside).seq.seq.seq
  · have hbehind : Fails (lit keyword ++ blanks1) c := by
      refine fails_lit_seq fun rest hrest => fails_plus (fails_one ((h rest hrest).resolve_left fun hbefore => ?_))
      obtain ⟨x, xs, hchars⟩ := List.exists_cons_of_ne_nil hne
      refine hword ⟨hbefore, ?_⟩
      rw [hrest, hchars, List.cons_append, List.head?_cons, Option.any_some]
      exact isWord_of_identifierPart (hpart x (hchars ▸ List.mem_cons_self))
    exact Fails.seq hbehind.wordEdge_seq

theorem fails_clause_nil (hkeyword : keyword ∈ clauseWords) (hrest : c.rest = []) :
    Fails (clausePattern keyword named) c := by
  refine fails_clause hkeyword fun rest h => ?_
  have hnil := (List.append_eq_nil_iff.1 (h.symm.trans hrest)).1
  exact absurd hnil (clauseWord_chars keyword hkeyword).1

/-- No clause opens in a word that is free of its keyword. -/
theorem failsThrough_word {w rest : List Char} {before : Option Char} (hkeyword : keyword ∈ clauseWords)
    (hsolid : Text.IsSolid w) (hfree : Free keyword w) (hrest : rest.head?.all Text.isBlank) :
    FailsThrough (clausePattern keyword named) before w rest := by
  obtain ⟨-, hpart⟩ := clauseWord_chars keyword hkeyword
  refine failsThrough_of_places fun u x v hw c hbefore hc => fails_clause hkeyword fun after hafter => ?_
  have hends (hkey : x :: v = keyword.toList) : c.before.any Text.isWord := by
    rw [hkey] at hw
    obtain ⟨y, hy, hword⟩ := (Option.any_eq_true _ _).1 (hfree u hw)
    rw [hbefore, hy, Option.some_or, Option.any_some, hword]
  rw [← List.cons_append] at hc
  -- behind the word stands a blank, so the keyword does not reach beyond it
  rcases List.append_eq_append_iff.1 (hc.symm.trans hafter) with ⟨ks, hks, rfl⟩ | ⟨more, hmore, rfl⟩
  · cases ks with
    | nil => exact Or.inl (hends (hks.trans (List.append_nil _)).symm)
    | cons k ks =>
      have hblank : Text.isBlank k := by simpa using hrest
      have hk : isIdentifierPart k := hpart k (by simp [hks])
      rw [not_isBlank_of_identifierPart hk] at hblank
      cases hblank
  · cases more with
    | nil => exact Or.inl (hends (hmore.trans (List.append_nil _)))
    | cons m more =>
      have hm : m ∈ w := by simp [hw, hmore]
      exact Or.inr (hsolid.2 m hm)

/-- No clause opens in front of a blank. -/
theorem fails_clause_space (hkeyword : keyword ∈ clauseWords) {rest : List Char} (hrest : c.rest = ' ' :: rest) :
    Fails (clausePattern keyword named) c := by
  refine fails_clause hkeyword fun after hafter => ?_
  obtain ⟨hne, hpart⟩ := clauseWord_chars keyword hkeyword
  obtain ⟨x, xs, hchars⟩ := List.exists_cons_of_ne_nil hne
  rw [hrest, hchars, List.cons_append, List.cons_eq_cons] at hafter
  have hspace : ' ' ∈ keyword.toList := by
    rw [hchars, hafter.1]
    exact List.mem_cons_self
  exact absurd (hpart ' ' hspace) (by decide)

theorem failsThrough_spaced {rest : List Char} {before : Option Char} (hkeyword : keyword ∈ clauseWords)
    (hsolid : ∀ w ∈ ws, Text.IsSolid w) (hfree : ∀ w ∈ ws, Free keyword w) :
    FailsThrough (clausePattern keyword named) before (Text.spaced ws) rest := by
  induction ws generalizing before with
  | nil => exact True.intro
  | cons w ws ih =>
    rw [Text.spaced_cons, failsThrough_append]
    exact ⟨failsThrough_word hkeyword (hsolid w List.mem_cons_self) (hfree w List.mem_cons_self) rfl,
      fun c _ hrest => fails_clause_space hkeyword hrest,
      ih (fun v hv => hsolid v (List.mem_cons_of_mem _ hv)) fun v hv => hfree v (List.mem_cons_of_mem _ hv)⟩

/-- **There is no clause** among words that are free of its keyword. -/
theorem search?_clause_eq_none (hkeyword : keyword ∈ clauseWords) (hsolid : ∀ w ∈ ws, Text.IsSolid w)
    (hfree : ∀ w ∈ ws, Free keyword w) : (clausePattern keyword named).search? (Text.join [' '] ws) = none := by
  refine search?_eq_none ?_ fun c hc => fails_clause_nil hkeyword hc
  rcases List.eq_nil_or_concat ws with rfl | ⟨ws, w, rfl⟩
  · exact True.intro
  · rw [List.concat_eq_append] at hsolid hfree ⊢
    obtain ⟨hsolid, hlast⟩ := List.forall_mem_append.1 hsolid
    obtain ⟨hfree, hlastFree⟩ := List.forall_mem_append.1 hfree
    rw [Text.join_append_spaced ws (List.cons_ne_nil w []), Text.join_singleton, failsThrough_append]
    exact ⟨failsThrough_spaced hkeyword hsolid hfree,
      failsThrough_word hkeyword (hlast w List.mem_cons_self) (hlastFree w List.mem_cons_self) rfl⟩

/-- **The first clause** stands behind words that are free of its keyword, and names what is read of the words behind
    it. -/
theorem search?_clause {x tail : List Char} (hkeyword : keyword ∈ clauseWords)
    (hsolid : ∀ w ∈ ws ++ keyword.toList :: vs, Text.IsSolid w) (hfree : ∀ w ∈ ws, Free keyword w) (hne : vs ≠ [])
    (hnamed : Text.join [' '] vs = x ++ tail)
    (htakes : ∀ c : Cursor, c.rest = x ++ tail → Takes named c (c.after x tail)) :
    ∃ m, (clausePattern keyword named).search? (Text.join [' '] (ws ++ keyword.toList :: vs)) = some m ∧
      m.group (Text.join [' '] (ws ++ keyword.toList :: vs)) 1 = x := by
  obtain ⟨hbehind, hsolid⟩ := List.forall_mem_append.1 hsolid
  have htext : Text.join [' '] (ws ++ keyword.toList :: vs) =
      Text.spaced ws ++ (keyword.toList ++ ' ' :: (x ++ tail)) := by
    have hclause := Text.join_append_spaced [keyword.toList] hne
    rw [List.singleton_append, Text.spaced_cons, hnamed] at hclause
    rw [Text.join_append_spaced ws (List.cons_ne_nil _ _), hclause]
    simp [Text.spaced]
  have hblank : (x ++ tail).head?.any Text.isBlank = false := by
    rw [← hnamed]
    exact Text.head?_join_any fun v hv => hsolid v (List.mem_cons_of_mem _ hv)
  have hedge (stop : Nat) : Cursor.atWordEdge ⟨(Text.spaced ws).getLast?, (Text.spaced ws).length, stop,
      keyword.toList ++ ' ' :: (x ++ tail), []⟩ := by
    have hbefore : (Text.spaced ws).getLast?.any Text.isWord = false := by
      rcases Text.getLast?_spaced ws with hnil | hlast
      · rw [hnil]
        rfl
      · rw [hlast]
        decide
    obtain ⟨hnil, hpart⟩ := clauseWord_chars keyword hkeyword
    obtain ⟨k, ks, hchars⟩ := List.exists_cons_of_ne_nil hnil
    have hk : Text.isWord k := isWord_of_identifierPart (hpart k (by simp [hchars]))
    simp [Cursor.atWordEdge, hbefore, hchars, hk]
  have hway (stop : Nat) := (((takes_wordEdge (hedge stop)).seq (takes_lit keyword (' ' :: (x ++ tail)) rfl)).seq
    (takes_blanks1_space (x ++ tail) rfl hblank)).seq ((htakes _ rfl).group 1)
  rw [htext]
  refine ⟨_, search?_eq_some (failsThrough_spaced hkeyword hbehind hfree) (hway _),
    Match.group_eq (Text.spaced ws ++ (keyword.toList ++ [' '])) tail (by simp) ?_⟩
  simp [Match.span?, Nat.add_assoc]

end Clause

/-! ## Words that are free of a keyword -/

section Free

variable {keyword : String}

/-- A text that does not end in the keyword is free of it at its end. -/
theorem free_of_not_suffix {w : List Char} (h : ¬ keyword.toList <:+ w) : Free keyword w :=
  fun pre hpre => absurd ⟨pre, hpre.symm⟩ h

/-- A comma is no part of a keyword. -/
theorem free_comma (hkeyword : keyword ∈ clauseWords) (w : List Char) : Free keyword (w ++ [',']) := by
  refine free_of_not_suffix fun hsuffix => ?_
  obtain ⟨hne, hpart⟩ := clauseWord_chars keyword hkeyword
  obtain ⟨pre, hpre⟩ := hsuffix
  have hcomma : ',' ∈ keyword.toList := by
    have hlast : (pre ++ keyword.toList).getLast? = some ',' := by rw [hpre, List.getLast?_concat]
    rw [List.getLast?_append_of_ne_nil _ hne] at hlast
    exact List.mem_of_getLast? hlast
  exact absurd (hpart ',' hcomma) (by decide)

/-- A name that is no keyword, behind names with dots behind them. A keyword that reaches beyond the last dot would hold
    it. -/
theorem free_qualified (hkeyword : keyword ∈ clauseWords) (path : List Identifier) {name : Identifier}
    (hplain : String.ofList name.chars ∉ clauseWords) : Free keyword (Term.qualifier path ++ name.chars) := by
  have hne : name.chars ≠ keyword.toList := by
    intro he
    rw [he, String.ofList_toList] at hplain
    exact hplain hkeyword
  intro pre hpre
  rcases List.append_eq_append_iff.1 hpre with ⟨xs, rfl, hname⟩ | ⟨xs, hpath, hkey⟩
  · rcases List.eq_nil_or_concat xs with rfl | ⟨xs, x, rfl⟩
    · exact absurd hname hne
    · rw [List.concat_eq_append] at hname ⊢
      have hx : x ∈ name.chars := by simp [hname]
      rw [← List.append_assoc, List.getLast?_concat, Option.any_some]
      exact isWord_of_identifierPart (name.part_of_mem x hx)
  · rcases List.eq_nil_or_concat xs with rfl | ⟨xs, x, rfl⟩
    · exact absurd hkey.symm hne
    · rw [List.concat_eq_append] at hpath hkey
      have hdot : x = '.' := by
        rcases Term.getLast?_qualifier path with hnil | hlast
        · simp [hpath] at hnil
        · simpa [hpath] using hlast
      have hx : isIdentifierPart x := (clauseWord_chars keyword hkeyword).2 x (by simp [hkey])
      rw [hdot] at hx
      exact absurd hx (by decide)

end Free

end SpringAtlas.Source

import Mathlib.Data.List.TakeWhile
import SpringAtlas.Proofs.Pattern.Search
import SpringAtlas.Source.Arguments

/-!
# `Proofs.Source.Reading` — arguments that read alike

The arguments of a call are cut out of the masked text, and the terms of each are read from the text as it stands. Two
texts with the same mask are therefore cut at the same places, and an argument has the same values in both if each of
its terms reads alike: the terms begin with the same literal, or they are the same and the constant they name has the
same value, or neither names a constant.

## Contents
* `takes_quoted`, `firstLiteral?_quoted` — a literal in front
* `constantReference_group` — a reference names its last segment
* `SameTerm`, `Fragment.SameReading` — terms and expressions that read alike
* `Fragment.SameReading.values_eq` — they have the same values
* `Arguments.readSpan?`, `Arguments.SameReading` — the argument that is asked for
-/

namespace SpringAtlas.Source

open Pattern

/-! ## Literals -/

/-- A literal on one line: its inside is captured. -/
theorem takes_quoted {c : Cursor} (i : Nat) {s rest : List Char} (hs : ∀ x ∈ s, x ≠ '"' ∧ x ≠ '\n')
    (hrest : c.rest = '"' :: (s ++ '"' :: rest)) :
    ∃ d, Takes (quotedText i) c d ∧ d.captures = ⟨i, c.pos + 1, c.pos + 1 + s.length⟩ :: c.captures := by
  have hopen : Takes (lit "\"") c (c.after ['"'] (s ++ '"' :: rest)) := takes_lit "\"" _ hrest
  have hinner : Takes (star (except "\"\n")) (c.after ['"'] (s ++ '"' :: rest))
      ((c.after ['"'] (s ++ '"' :: rest)).after s ('"' :: rest)) :=
    takes_star_one _ _ rfl (fun x hx => by simp [hs x hx]) rfl
  exact ⟨_, (hopen.seq (hinner.group i)).seq (takes_lit "\"" rest rfl), rfl⟩

/-- The literal that a text starts with is its first one. -/
theorem firstLiteral?_quoted {s : List Char} (hs : ∀ x ∈ s, x ≠ '"' ∧ x ≠ '\n') (rest : List Char) :
    firstLiteral? ('"' :: (s ++ '"' :: rest)) = some s := by
  obtain ⟨d, hd, hcaptures⟩ := takes_quoted (c := ⟨none, 0, _, '"' :: (s ++ '"' :: rest), []⟩) 1 hs rfl
  rw [firstLiteral?, search?_eq_some_start hd, Option.map_some]
  exact congrArg some (Match.group_eq ['"'] ('"' :: rest) (by simp) (by simp [Match.span?, hcaptures]))

/-! ## Names of constants -/

theorem afterLast_of_forall {p : Char → Bool} {cs : List Char} (h : ∀ c ∈ cs, p c = false) :
    Text.afterLast p cs = 0 := by
  have htake : (cs.reverse.takeWhile fun c => !p c) = cs.reverse := by
    rw [List.takeWhile_eq_self_iff]
    intro c hc
    simp [h c (List.mem_reverse.1 hc)]
  rw [Text.afterLast, htake, List.length_reverse, Nat.sub_self]

/-- The place behind the last character of a class is found from the end of the text. -/
theorem afterLast_append {p : Char → Bool} {c : Char} (hc : p c) {post : List Char} (hpost : ∀ x ∈ post, p x = false)
    (pre : List Char) : Text.afterLast p (pre ++ c :: post) = pre.length + 1 := by
  have htake : ((pre ++ c :: post).reverse.takeWhile fun x => !p x) = post.reverse := by
    rw [List.reverse_append, List.reverse_cons, List.append_assoc, List.takeWhile_append_of_pos]
    · rw [List.singleton_append, List.takeWhile_cons_of_neg (by simp [hc]), List.append_nil]
    · intro x hx
      simp [hpost x (List.mem_reverse.1 hx)]
  rw [Text.afterLast, htake, List.length_reverse, List.length_append, List.length_cons]
  omega

/-- Behind the last dot stands the last segment. -/
theorem lastSegment_append {pre word : List Char} (hpre : pre = [] ∨ pre.getLast? = some '.') (hword : '.' ∉ word) :
    lastSegment (pre ++ word) = word := by
  have hdot : ∀ c ∈ word, (c == '.') = false := by
    intro c hc
    have hne : c ≠ '.' := fun he => hword (he ▸ hc)
    simpa using hne
  rcases hpre with rfl | hpre
  · rw [List.nil_append, lastSegment, afterLast_of_forall hdot, List.drop_zero]
  · obtain ⟨xs, rfl⟩ := List.getLast?_eq_some_iff.1 hpre
    rw [List.append_assoc, List.singleton_append, lastSegment, afterLast_append (by decide) hdot,
      ← List.drop_drop, List.drop_left]
    rfl

/-- The types in front of a constant end with a dot. -/
theorem way_qualifiers {p : Pattern} {c d : Cursor} (h : Way (star (p ++ lit ".")) c d) :
    ∃ xs, c.rest = xs ++ d.rest ∧ d.pos = c.pos + xs.length ∧ (xs = [] ∨ xs.getLast? = some '.') := by
  rcases Relation.ReflTransGen.cases_tail h with rfl | ⟨b, hb, ⟨e, he, hdot⟩, -⟩
  · exact ⟨[], rfl, rfl, Or.inl rfl⟩
  · obtain ⟨xs, hxs, hpos, -⟩ := (Way.reaches (p := star (p ++ lit ".")) hb).trans he.reaches
    obtain ⟨rest, hrest, rfl⟩ := way_lit hdot
    refine ⟨xs ++ ['.'], ?_, ?_, Or.inr (by simp)⟩
    · rw [hxs, hrest]
      simp
    · simp [hpos, Nat.add_assoc]

/-- **A reference names its last segment.** -/
theorem constantReference_group {term : List Char} {m : Match}
    (h : Fragment.constantReference.matchStart? term = some m) (hend : term.getLast? ≠ some '\n') :
    m.group term 1 = lastSegment term := by
  obtain ⟨d, hrun, rfl⟩ := Option.map_eq_some_iff.1 h
  obtain ⟨d, ⟨f, ⟨e, ⟨c, ⟨-, rfl⟩, hstar⟩, hgroup⟩, hplace, rfl⟩, hk⟩ := run_way hrun
  obtain rfl : d = _ := Option.some.inj hk
  obtain ⟨g, hname, rfl⟩ := hgroup
  obtain ⟨pre, hpre, hpos, hdot⟩ := way_qualifiers hstar
  obtain ⟨word, hword, hpos', hnodot⟩ := hname.not_mem_of_avoids (a := '.') rfl
  have hterm : term = pre ++ word ++ g.rest := by
    rw [List.append_assoc, ← hword, ← hpre]
  -- the name is followed by the end of the text, for the text does not end with a line break
  have hrest : g.rest = [] := by
    have hplace : g.rest = [] ∨ g.rest = ['\n'] := by simpa [Cursor.atLastLineEnd] using hplace
    refine hplace.resolve_right fun hbreak => hend ?_
    rw [hterm, hbreak, List.getLast?_concat]
  rw [hrest, List.append_nil] at hterm
  have hgroup : Match.group ⟨0, g.pos, ⟨1, e.pos, g.pos⟩ :: g.captures⟩ term 1 = word := by
    refine Match.group_eq pre [] (by rw [List.append_nil, hterm]) ?_
    simp [Match.span?, hpos, hpos']
  rw [hterm, lastSegment_append hdot hnodot, ← hterm]
  exact hgroup

theorem getLast?_trim_ne_newline (cs : List Char) : (Text.trim cs).getLast? ≠ some '\n' := by
  intro h
  rw [Text.trim, Text.trimWhere, Text.dropEndWhile, List.getLast?_reverse] at h
  have hhead := List.head?_dropWhile_not Text.isBlank (cs.dropWhile Text.isBlank).reverse
  rw [h] at hhead
  exact absurd hhead (by decide)

/-! ## Terms -/

/-- The values of constants by name. -/
abbrev Constants := List (List Char × List Char)

namespace Fragment

variable {constants constants' : Constants}

/-- The term is no literal, and the constant that it would name is not known. -/
def IsUnknown (constants : Constants) (term : List Char) : Prop :=
  (Text.trim term).head? ≠ some '"' ∧ constants.lookup (lastSegment (Text.trim term)) = none

/-- Two terms that read alike, each with the constants that it may name. -/
inductive SameTerm (constants constants' : Constants) : List Char → List Char → Prop
  /-- both begin with one literal -/
  | literal {u v : List Char} (s rest rest' : List Char) (hs : ∀ x ∈ s, x ≠ '"' ∧ x ≠ '\n')
      (hu : Text.trim u = '"' :: (s ++ '"' :: rest)) (hv : Text.trim v = '"' :: (s ++ '"' :: rest')) :
      SameTerm constants constants' u v
  /-- one text, and the constant that it may name has one value -/
  | same {u : List Char}
      (h : constants.lookup (lastSegment (Text.trim u)) = constants'.lookup (lastSegment (Text.trim u))) :
      SameTerm constants constants' u u
  | unknown {u v : List Char} (hu : IsUnknown constants u) (hv : IsUnknown constants' v) :
      SameTerm constants constants' u v

/-- A term that starts with a literal has the inside of it as its value. -/
theorem termValue?_literal {s : List Char} (hs : ∀ x ∈ s, x ≠ '"' ∧ x ≠ '\n') (rest : List Char) :
    termValue? constants ('"' :: (s ++ '"' :: rest)) = some s := by
  rw [termValue?, if_pos (by rfl), firstLiteral?_quoted hs]

/-- A term that is no literal has the value of its last segment, or none. -/
theorem termValue?_reference {term : List Char} (h : term.head? ≠ some '"') (hend : term.getLast? ≠ some '\n') :
    termValue? constants term =
      if (constantReference.matchStart? term).isSome then constants.lookup (lastSegment term) else none := by
  rw [termValue?, if_neg (by simpa using h)]
  cases hm : constantReference.matchStart? term with
  | none => rfl
  | some m => simp only [constantReference_group hm hend, Option.isSome_some, if_true]

theorem termValue?_unknown {term : List Char} (h : IsUnknown constants term) :
    termValue? constants (Text.trim term) = none := by
  rw [termValue?_reference h.1 (getLast?_trim_ne_newline term), h.2, ite_self]

/-- **Terms that read alike have the same value.** -/
theorem SameTerm.termValue?_eq {u v : List Char} (h : SameTerm constants constants' u v) :
    termValue? constants (Text.trim u) = termValue? constants' (Text.trim v) := by
  cases h with
  | literal s rest rest' hs hu hv => rw [hu, hv, termValue?_literal hs, termValue?_literal hs]
  | unknown hu hv => rw [termValue?_unknown hu, termValue?_unknown hv]
  | same h =>
    by_cases hquote : (Text.trim u).head? = some '"'
    · rw [termValue?, termValue?, if_pos (by simp [hquote]), if_pos (by simp [hquote])]
    · have hend := getLast?_trim_ne_newline u
      rw [termValue?_reference hquote hend, termValue?_reference hquote hend, h]

/-! ## Expressions -/

/-- The places of the terms of a sum. -/
def termSpans (masked : List Char) : List (Nat × Nat) :=
  spansFrom 0 (Text.splitWhere (· == '+') masked)

/-- Two expressions that read alike: arrays item by item, sums term by term. -/
inductive SameReading (constants constants' : Constants) : Fragment → Fragment → Prop
  | array {f f' g g' : Fragment} (hf : f.inner? = some g) (hf' : f'.inner? = some g')
      (items : ∀ s ∈ argumentSpans g.masked, SameReading constants constants' (g.slice s.1 s.2) (g'.slice s.1 s.2)) :
      SameReading constants constants' f f'
  | sum {f f' : Fragment} (hf : f.inner? = none) (hf' : f'.inner? = none)
      (terms : ∀ s ∈ termSpans f.masked,
        SameTerm constants constants' (Text.slice f.raw s.1 s.2) (Text.slice f'.raw s.1 s.2)) :
      SameReading constants constants' f f'

/-- The values of an array are those of its items, one item behind another. -/
theorem values_array {f g : Fragment} (h : f.inner? = some g) :
    f.values constants = (argumentSpans g.masked).flatMap fun s => (g.slice s.1 s.2).values constants := by
  rw [values]
  split
  · next hg =>
    rw [h] at hg
    cases hg
    rfl
  · next hg =>
    rw [h] at hg
    cases hg

/-- The value of anything else is that of its terms together, if all of them are known. -/
theorem values_sum {f : Fragment} (h : f.inner? = none) :
    f.values constants = (sumValue? ((termSpans f.masked).map fun s =>
      termValue? constants (Text.trim (Text.slice f.raw s.1 s.2)))).toList := by
  rw [values]
  split
  · next hg =>
    rw [h] at hg
    cases hg
  · rfl

/-- The inside of an array stands at places that the mask decides. -/
theorem inner?_masked {f f' g g' : Fragment} (h : f.masked = f'.masked) (hf : f.inner? = some g)
    (hf' : f'.inner? = some g') : g.masked = g'.masked := by
  simp only [inner?, ← h, Option.ite_none_right_eq_some, Option.some.injEq] at hf hf'
  obtain ⟨-, rfl⟩ := hf
  obtain ⟨-, rfl⟩ := hf'
  show Text.slice f.masked _ _ = Text.slice f'.masked _ _
  rw [h]

/-- **Expressions that read alike have the same values.** -/
theorem SameReading.values_eq {f f' : Fragment} (h : SameReading constants constants' f f')
    (hmasked : f.masked = f'.masked) : f.values constants = f'.values constants' := by
  induction h with
  | @array f f' g g' hf hf' items ih =>
    have hinner := inner?_masked hmasked hf hf'
    rw [values_array hf, values_array hf', ← hinner, List.flatMap_def, List.flatMap_def]
    refine congrArg List.flatten (List.map_congr_left fun s hs => ih s hs ?_)
    show Text.slice g.masked s.1 s.2 = Text.slice g'.masked s.1 s.2
    rw [hinner]
  | @sum f f' hf hf' terms =>
    rw [values_sum hf, values_sum hf', ← hmasked]
    refine congrArg (fun known => (sumValue? known).toList) (List.map_congr_left fun s hs => ?_)
    exact (terms s hs).termValue?_eq

end Fragment

/-! ## Argument lists -/

namespace Arguments

/-- The place of the first argument that has one of the names, without its name. -/
def namedSpan? (a : Arguments) (names : List String) : Option (Nat × Nat) :=
  a.spans.findSome? fun (start, stop) =>
    let masked := Text.slice a.fragment.masked start stop
    match argumentName.matchStart? masked with
    | some m => if names.contains (String.ofList (m.group masked 1)) then some (start + m.stop, stop) else none
    | none => none

/-- The place of the first argument, if it has no name. -/
def firstSpan? (a : Arguments) : Option (Nat × Nat) :=
  a.spans[0]?.filter fun s => (argumentName.matchStart? (Text.slice a.fragment.masked s.1 s.2)).isNone

/-- The place of the argument that is read when the names are asked for. -/
def readSpan? (a : Arguments) (names : List String) : Option (Nat × Nat) :=
  (a.namedSpan? names).or a.firstSpan?

/-- The values under a name are those at the first place that has the name. -/
theorem named?_eq (a : Arguments) (names : List String) :
    a.named? names = (a.namedSpan? names).map fun s => a.valuesAt s.1 s.2 := by
  rw [named?, namedSpan?, List.map_findSome?]
  refine congrArg (fun f => a.spans.findSome? f) (funext fun s => ?_)
  simp only [Function.comp_apply]
  cases argumentName.matchStart? (Text.slice a.fragment.masked s.1 s.2) with
  | none => rfl
  | some m =>
    by_cases hname : names.contains (String.ofList (m.group (Text.slice a.fragment.masked s.1 s.2) 1))
    · simp only [if_pos hname, Option.map_some]
    · simp only [if_neg hname, Option.map_none]

theorem positional_zero (a : Arguments) :
    a.positional 0 = (a.firstSpan?.map fun s => a.valuesAt s.1 s.2).getD [] := by
  rw [positional, firstSpan?]
  cases a.spans[0]? with
  | none => rfl
  | some s =>
    simp only [Option.filter_some]
    cases argumentName.matchStart? (Text.slice a.fragment.masked s.1 s.2) with
    | none => rfl
    | some m => rfl

/-- The values under a name, or else of the first argument, are those at one place. -/
theorem namedOrFirst_eq (a : Arguments) (names : List String) :
    a.namedOrFirst names = ((a.readSpan? names).map fun s => a.valuesAt s.1 s.2).getD [] := by
  rw [namedOrFirst, named?_eq, positional_zero, readSpan?]
  cases a.namedSpan? names with
  | none => rfl
  | some s => rfl

/-- Two argument lists where what is read for the names reads alike. -/
def SameReading (names : List String) (a a' : Arguments) : Prop :=
  ∀ s, a.readSpan? names = some s →
    Fragment.SameReading a.constants a'.constants (a.fragment.slice s.1 s.2) (a'.fragment.slice s.1 s.2)

variable {a a' : Arguments} {names : List String}

theorem namedSpan?_masked (h : a.fragment.masked = a'.fragment.masked) (names : List String) :
    a.namedSpan? names = a'.namedSpan? names := by
  simp only [namedSpan?, spans, h]

theorem readSpan?_masked (h : a.fragment.masked = a'.fragment.masked) (names : List String) :
    a.readSpan? names = a'.readSpan? names := by
  simp only [readSpan?, namedSpan?_masked h, firstSpan?, spans, h]

theorem SameReading.valuesAt_eq (h : SameReading names a a') (hmasked : a.fragment.masked = a'.fragment.masked)
    {s : Nat × Nat} (hs : a.readSpan? names = some s) : a.valuesAt s.1 s.2 = a'.valuesAt s.1 s.2 := by
  refine (h s hs).values_eq ?_
  show Text.slice a.fragment.masked s.1 s.2 = Text.slice a'.fragment.masked s.1 s.2
  rw [hmasked]

/-- **What is asked for has the same values in argument lists that read alike.** -/
theorem SameReading.namedOrFirst_eq (h : SameReading names a a') (hmasked : a.fragment.masked = a'.fragment.masked) :
    a.namedOrFirst names = a'.namedOrFirst names := by
  rw [Arguments.namedOrFirst_eq, Arguments.namedOrFirst_eq, ← readSpan?_masked hmasked]
  cases hs : a.readSpan? names with
  | none => rfl
  | some s => exact h.valuesAt_eq hmasked hs

/-- Arguments that read alike at the places asked for have the same values under a name. -/
theorem SameReading.named?_eq (h : SameReading names a a') (hmasked : a.fragment.masked = a'.fragment.masked) :
    a.named? names = a'.named? names := by
  rw [Arguments.named?_eq, Arguments.named?_eq, ← namedSpan?_masked hmasked]
  cases hs : a.namedSpan? names with
  | none => rfl
  | some s =>
    have hread : a.readSpan? names = some s := by rw [readSpan?, hs, Option.some_or]
    exact congrArg some (h.valuesAt_eq hmasked hread)

/-- Arguments that read alike at the places asked for have the same first value. -/
theorem SameReading.first?_eq (h : SameReading names a a') (hmasked : a.fragment.masked = a'.fragment.masked) :
    a.first? names = a'.first? names := by
  rw [first?, first?, h.namedOrFirst_eq hmasked]

end Arguments

end SpringAtlas.Source

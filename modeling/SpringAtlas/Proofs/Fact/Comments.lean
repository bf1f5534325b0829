import Mathlib.Data.List.TakeWhile
import SpringAtlas.Proofs.Fact.Completion
import SpringAtlas.Proofs.Source.Quoted

/-!
# `Proofs.Fact.Comments` — comments and facts

All of a fact but its endpoints is read from the mask, and blanking comments does not change the mask. Of an endpoint,
the path is read from the line as it stands, from the mapping annotation on: a comment between the annotation and its
path can hide the path, close the argument list early or give a path of its own.

A comment further back does no harm. Once the argument list has closed, or a path has been read, the rest of the line is
not looked at; and an annotation without a list or without literals has the empty path.

## Contents
* `Opens`, `Closes`, `HoldsPath` — the start of an argument list
* `SamePath`, `SamePath.mappingPath?_eq` — lines that give the same path
* `classPath_eq` — the path in front of the type
* `SamePaths`, `routes_uncommented`, `extract_uncommented` — the fact of a text without its comments
-/

namespace SpringAtlas

open Pattern

/-! ## Argument lists -/

/-- A character that may stand between an annotation and its argument list. -/
def isGap (c : Char) : Bool :=
  c == ' ' || c == '\t'

/-- An argument list opens at the start of the text. -/
def Opens (cs : List Char) : Prop :=
  (cs.dropWhile isGap).head? = some '('

/-- The argument list at the start of the text closes. -/
def Closes (cs : List Char) : Prop :=
  Opens cs ∧ (Source.groupLength? 0 (cs.dropWhile isGap)).isSome

theorem dropWhile_gap {gap : List Char} (hgap : ∀ c ∈ gap, isGap c) (rest : List Char) :
    (gap ++ '(' :: rest).dropWhile isGap = '(' :: rest := by
  rw [List.dropWhile_append_of_pos hgap]
  exact List.dropWhile_cons_of_neg (by decide)

theorem Opens.exists_gap {cs : List Char} (h : Opens cs) :
    ∃ gap rest, cs = gap ++ '(' :: rest ∧ ∀ c ∈ gap, isGap c := by
  obtain ⟨rest, hrest⟩ := List.head?_eq_some_iff.1 h
  refine ⟨cs.takeWhile isGap, rest, ?_, fun c => List.mem_takeWhile_imp⟩
  rw [← hrest, List.takeWhile_append_dropWhile]

/-- The list ends where its parentheses close, or with the text. -/
theorem groupEnd_gap {gap : List Char} (hgap : ∀ c ∈ gap, isGap c) (rest : List Char) :
    Source.groupEnd (gap ++ '(' :: rest) 0 =
      gap.length + (Source.groupLength? 0 ('(' :: rest)).getD (rest.length + 1) := by
  have htake : (gap ++ '(' :: rest).takeWhile (fun c => c == ' ' || c == '\t') = gap := by
    change List.takeWhile isGap _ = gap
    rw [List.takeWhile_append_of_pos hgap, List.takeWhile_cons_of_neg (by decide), List.append_nil]
  simp only [Source.groupEnd, List.drop_zero, htake, Nat.zero_add, List.drop_left, List.head?_cons]
  rw [if_pos (by rfl)]
  cases Source.groupLength? 0 ('(' :: rest) with
  | none => simp
  | some n => rfl

theorem groupEnd_unopened {cs : List Char} (h : ¬ Opens cs) : Source.groupEnd cs 0 = 0 := by
  have hdrop : cs.drop (cs.takeWhile isGap).length = cs.dropWhile isGap := by
    conv_lhs => arg 2; rw [← List.takeWhile_append_dropWhile (p := isGap) (l := cs)]
    exact List.drop_left
  have hhead : ((cs.dropWhile isGap).head? == some '(') = false := by simpa [Opens] using h
  simp only [Source.groupEnd, List.drop_zero, Nat.zero_add]
  have hrest : cs.drop (cs.takeWhile fun c => c == ' ' || c == '\t').length = cs.dropWhile isGap := hdrop
  rw [hrest, hhead]
  rfl

/-! ## Longer texts -/

/-- The depth behind a character. -/
def depthAfter (depth : Nat) (c : Char) : Nat :=
  if c == '(' then depth + 1 else if c == ')' then depth - 1 else depth

/-- One step of the search for a closing parenthesis: the character ends the group, or the search goes on at the depth
    behind it. -/
theorem groupLength?_cons (depth : Nat) (c : Char) (cs : List Char) :
    Source.groupLength? depth (c :: cs) =
      if c = ')' ∧ depth ≤ 1 then some 1 else (Source.groupLength? (depthAfter depth c) cs).map (· + 1) := by
  rw [Source.groupLength?, depthAfter]
  by_cases hopen : c = '('
  · simp [hopen]
  · by_cases hclose : c = ')'
    · simp [hclose]
    · simp [hopen, hclose]

/-- A group that closes in a text closes at the same place in a longer one. -/
theorem groupLength?_append_of_some {depth n : Nat} {cs : List Char} (h : Source.groupLength? depth cs = some n)
    (w : List Char) : Source.groupLength? depth (cs ++ w) = some n := by
  induction cs generalizing depth n with
  | nil => cases h
  | cons c cs ih =>
    rw [groupLength?_cons] at h
    rw [List.cons_append, groupLength?_cons]
    split at h
    · next hclose =>
      rw [if_pos hclose]
      exact h
    · next hclose =>
      obtain ⟨k, hk, rfl⟩ := Option.map_eq_some_iff.1 h
      rw [if_neg hclose, ih hk]
      rfl

/-- A group that closes ends in the text. -/
theorem groupLength?_le {depth n : Nat} {cs : List Char} (h : Source.groupLength? depth cs = some n) : n ≤ cs.length := by
  induction cs generalizing depth n with
  | nil => cases h
  | cons c cs ih =>
    rw [groupLength?_cons] at h
    split at h
    · cases h
      simp
    · obtain ⟨k, hk, rfl⟩ := Option.map_eq_some_iff.1 h
      exact Nat.succ_le_succ (ih hk)

/-- A list that has not closed closes later. -/
theorem length_le_of_groupLength?_append {depth n : Nat} {cs w : List Char} (h : Source.groupLength? depth cs = none)
    (hn : Source.groupLength? depth (cs ++ w) = some n) : cs.length ≤ n := by
  induction cs generalizing depth n with
  | nil => exact Nat.zero_le n
  | cons c cs ih =>
    rw [groupLength?_cons] at h
    rw [List.cons_append, groupLength?_cons] at hn
    split at h
    · cases h
    · next hclose =>
      rw [if_neg hclose] at hn
      obtain ⟨k, hk, rfl⟩ := Option.map_eq_some_iff.1 hn
      exact Nat.succ_le_succ (ih (Option.map_eq_none_iff.1 h) hk)

/-! ## Paths -/

/-- A path is found in the text, as a first argument or by name. -/
def HoldsPath (cs : List Char) : Prop :=
  ((leadingPathPattern.search? cs).or (namedPathPattern.search? cs)).isSome

/-- What the leading path pattern reads in front of the literal. -/
def leadingFront : Pattern :=
  textStart ++ blanks ++ lit "(" ++ blanks ++ opt pathAttribute ++ opt (lit "\x7b") ++ blanks

/-- What the named path pattern reads in front of the literal. -/
def namedFront : Pattern :=
  wordEdge ++ oneOf ["value", "path"] ++ blanks ++ lit "=" ++ blanks ++ opt (lit "\x7b") ++ blanks

/-- A leading path is looked for at the start only. -/
theorem leadingPath_search? (cs : List Char) : leadingPathPattern.search? cs = leadingPathPattern.matchStart? cs :=
  search?_of_anchored (fun _ h => (fails_textStart h).seq.seq.seq.seq.seq.seq.seq) cs

/-- A leading path is the inside of the first literal. -/
theorem leadingPath_encloses {cs : List Char} {m : Match} (h : leadingPathPattern.search? cs = some m) :
    ∃ pre s post, Source.Encloses cs pre s post :=
  (Source.search?_encloses (p := leadingFront) rfl h).1

/-- A path under a name is the inside of the first literal. -/
theorem namedPath_encloses {cs : List Char} {m : Match} (h : namedPathPattern.search? cs = some m) :
    ∃ pre s post, Source.Encloses cs pre s post :=
  (Source.search?_encloses (p := namedFront) rfl h).1

/-- A leading path that is not found in a text with a literal is not found in a longer one. -/
theorem leadingPath_append_eq_none {x pre s post : List Char} (henc : Source.Encloses x pre s post)
    (h : leadingPathPattern.search? x = none) (z : List Char) : leadingPathPattern.search? (x ++ z) = none := by
  rw [leadingPath_search?, matchStart?, ← Nat.zero_add x.length] at h
  rw [leadingPath_search?, matchStart?, ← Nat.zero_add (x ++ z).length]
  refine Option.not_isSome_iff_eq_none.1 fun hsome => ?_
  have hback := Source.matchAt?_isSome_congr (p := leadingFront) rfl rfl (henc.append z) henc hsome
  rw [show leadingFront ++ Source.quotedText 1 = leadingPathPattern from rfl, h] at hback
  cases hback

/-- **A path that is found in a text is the path of every longer text.** -/
theorem argumentsPath?_append {x : List Char} (h : HoldsPath x) (z : List Char) :
    argumentsPath? (x ++ z) = argumentsPath? x := by
  unfold argumentsPath?
  cases hlead : leadingPathPattern.search? x with
  | some m =>
    obtain ⟨m', hm', hgroup⟩ := Source.search?_append (p := leadingFront) rfl rfl hlead z
    rw [show leadingPathPattern.search? (x ++ z) = some m' from hm', Option.some_or, Option.some_or]
    exact congrArg some hgroup
  | none =>
    rw [HoldsPath, hlead, Option.none_or] at h
    obtain ⟨m, hm⟩ := Option.isSome_iff_exists.1 h
    obtain ⟨pre, s, post, henc⟩ := namedPath_encloses hm
    obtain ⟨m', hm', hgroup⟩ := Source.search?_append (p := namedFront) rfl rfl hm z
    rw [leadingPath_append_eq_none henc hlead, Option.none_or, Option.none_or, hm,
      show namedPathPattern.search? (x ++ z) = some m' from hm']
    exact congrArg some hgroup

theorem argumentsPath?_unquoted {cs : List Char} (h : '"' ∉ cs) : argumentsPath? cs = some [] := by
  have hlead : leadingPathPattern.search? cs = none := by
    refine Option.eq_none_iff_forall_ne_some.2 fun m hm => ?_
    obtain ⟨pre, s, post, henc⟩ := leadingPath_encloses hm
    exact h henc.quote_mem
  have hnamed : namedPathPattern.search? cs = none := by
    refine Option.eq_none_iff_forall_ne_some.2 fun m hm => ?_
    obtain ⟨pre, s, post, henc⟩ := namedPath_encloses hm
    exact h henc.quote_mem
  rw [argumentsPath?, hlead, hnamed, Option.or_none]
  exact if_neg (by simpa using h)

/-- A path is written between quotes. -/
theorem HoldsPath.quote_mem {cs : List Char} (h : HoldsPath cs) : '"' ∈ cs := by
  obtain ⟨m, hm⟩ := Option.isSome_iff_exists.1 h
  rcases Option.or_eq_some_iff.1 hm with hm | ⟨-, hm⟩
  · obtain ⟨pre, s, post, henc⟩ := leadingPath_encloses hm
    exact henc.quote_mem
  · obtain ⟨pre, s, post, henc⟩ := namedPath_encloses hm
    exact henc.quote_mem

/-! ## The path of an annotation -/

theorem mappingPath?_zero (u : List Char) :
    mappingPath? u 0 =
      if Source.groupEnd u 0 = 0 then some [] else argumentsPath? (u.take (Source.groupEnd u 0)) := by
  rw [mappingPath?]
  rfl

/-- Only the text behind the annotation counts. -/
theorem groupEnd_drop (line : List Char) (start : Nat) :
    Source.groupEnd line start = start + Source.groupEnd (line.drop start) 0 := by
  simp only [Source.groupEnd, Nat.zero_add, Nat.add_zero, List.drop_drop]
  split
  · next hopen =>
    cases Source.groupLength? 0 (line.drop (start + ((line.drop start).takeWhile fun c => c == ' ' || c == '\t').length)) with
    | none =>
      have hlt : start ≤ line.length := by
        by_contra hlt
        rw [List.drop_eq_nil_of_le (by omega)] at hopen
        simp at hopen
      show line.length = start + (line.drop start).length
      rw [List.length_drop]
      omega
    | some n => exact Nat.add_assoc _ _ _
  · rfl

theorem mappingPath?_drop (line : List Char) (start : Nat) : mappingPath? line start = mappingPath? (line.drop start) 0 := by
  rw [mappingPath?_zero, mappingPath?, groupEnd_drop]
  have hslice : Text.slice line start (start + Source.groupEnd (line.drop start) 0) =
      (line.drop start).take (Source.groupEnd (line.drop start) 0) := by
    rw [Text.slice, List.drop_take, Nat.add_sub_cancel_left]
  simp only [hslice, Nat.add_eq_left]

theorem mappingPath?_unopened {u : List Char} (h : ¬ Opens u) : mappingPath? u 0 = some [] := by
  rw [mappingPath?_zero, if_pos (groupEnd_unopened h)]

theorem mappingPath?_unquoted {u : List Char} (h : '"' ∉ u) : mappingPath? u 0 = some [] := by
  rw [mappingPath?_zero]
  split
  · rfl
  · exact argumentsPath?_unquoted fun hmem => h (List.mem_of_mem_take hmem)

/-- A list that closes ends the text that is read. -/
theorem mappingPath?_append_of_closes {x : List Char} (h : Closes x) (w : List Char) :
    mappingPath? (x ++ w) 0 = mappingPath? x 0 := by
  obtain ⟨hopens, hcloses⟩ := h
  obtain ⟨gap, rest, rfl, hgap⟩ := hopens.exists_gap
  rw [dropWhile_gap hgap] at hcloses
  obtain ⟨n, hn⟩ := Option.isSome_iff_exists.1 hcloses
  have hend : Source.groupEnd (gap ++ '(' :: rest) 0 = gap.length + n := by
    rw [groupEnd_gap hgap, hn, Option.getD_some]
  have hend' : Source.groupEnd (gap ++ '(' :: rest ++ w) 0 = gap.length + n := by
    rw [List.append_assoc, List.cons_append, groupEnd_gap hgap, ← List.cons_append, groupLength?_append_of_some hn,
      Option.getD_some]
  have hle : gap.length + n ≤ (gap ++ '(' :: rest).length := by
    rw [List.length_append]
    exact Nat.add_le_add_left (groupLength?_le hn) _
  rw [mappingPath?_zero, mappingPath?_zero, hend, hend', List.take_append_of_le_length hle]

/-- A list that does not close goes on into the text behind. -/
theorem mappingPath?_append_of_open {x : List Char} (hopens : Opens x) (hopen : ¬ Closes x) (w : List Char) :
    ∃ z, mappingPath? (x ++ w) 0 = argumentsPath? (x ++ z) := by
  obtain ⟨gap, rest, rfl, hgap⟩ := hopens.exists_gap
  have hnone : Source.groupLength? 0 ('(' :: rest) = none := by
    rw [← Option.not_isSome_iff_eq_none, ← dropWhile_gap hgap]
    exact fun hsome => hopen ⟨hopens, hsome⟩
  have hend : (gap ++ '(' :: rest).length ≤ Source.groupEnd (gap ++ '(' :: rest ++ w) 0 := by
    rw [List.append_assoc, List.cons_append, groupEnd_gap hgap, List.length_append]
    refine Nat.add_le_add_left ?_ _
    cases hn : Source.groupLength? 0 ('(' :: (rest ++ w)) with
    | none => simp
    | some n => exact length_le_of_groupLength?_append hnone hn
  refine ⟨w.take (Source.groupEnd (gap ++ '(' :: rest ++ w) 0 - (gap ++ '(' :: rest).length), ?_⟩
  rw [mappingPath?_zero, if_neg, List.take_append, List.take_of_length_le hend]
  intro hzero
  rw [hzero] at hend
  simp at hend

theorem opens_append_iff {x : List Char} (h : '"' ∈ x) (w : List Char) : Opens (x ++ w) ↔ Opens x := by
  have hne : x.dropWhile isGap ≠ [] := by
    intro hnil
    have hgap := List.dropWhile_eq_nil_iff.1 hnil _ h
    exact absurd hgap (by decide)
  rw [Opens, Opens, List.dropWhile_append, if_neg (by simpa using hne), List.head?_append_of_ne_nil _ hne]

/-- **Once a path is read, the rest of the line is not looked at.** -/
theorem mappingPath?_append_of_holdsPath {x : List Char} (h : HoldsPath x) (w w' : List Char) :
    mappingPath? (x ++ w) 0 = mappingPath? (x ++ w') 0 := by
  by_cases hopens : Opens x
  · by_cases hcloses : Closes x
    · rw [mappingPath?_append_of_closes hcloses, mappingPath?_append_of_closes hcloses]
    · obtain ⟨z, hz⟩ := mappingPath?_append_of_open hopens hcloses w
      obtain ⟨z', hz'⟩ := mappingPath?_append_of_open hopens hcloses w'
      rw [hz, hz', argumentsPath?_append h, argumentsPath?_append h]
  · have hno (v : List Char) : ¬ Opens (x ++ v) := by rwa [opens_append_iff h.quote_mem]
    rw [mappingPath?_unopened (hno w), mappingPath?_unopened (hno w')]

/-! ## Lines that give the same path -/

/-- Two texts behind an annotation that give the same path. -/
inductive SamePath : List Char → List Char → Prop
  | same (u : List Char) : SamePath u u
  /-- they differ behind the argument list -/
  | closed {x : List Char} (h : Closes x) (w w' : List Char) : SamePath (x ++ w) (x ++ w')
  /-- they differ behind the path -/
  | read {x : List Char} (h : HoldsPath x) (w w' : List Char) : SamePath (x ++ w) (x ++ w')
  /-- neither opens an argument list -/
  | unopened {u v : List Char} (hu : ¬ Opens u) (hv : ¬ Opens v) : SamePath u v
  /-- neither holds a literal -/
  | unquoted {u v : List Char} (hu : '"' ∉ u) (hv : '"' ∉ v) : SamePath u v

theorem SamePath.mappingPath?_eq {u v : List Char} (h : SamePath u v) : mappingPath? u 0 = mappingPath? v 0 := by
  cases h with
  | same => rfl
  | closed h w w' => rw [mappingPath?_append_of_closes h, mappingPath?_append_of_closes h]
  | read h w w' => exact mappingPath?_append_of_holdsPath h w w'
  | unopened hu hv => rw [mappingPath?_unopened hu, mappingPath?_unopened hv]
  | unquoted hu hv => rw [mappingPath?_unquoted hu, mappingPath?_unquoted hv]

/-! ## The path in front of the type -/

/-- The text from an offset to the end of its line. -/
def lineFrom (text : List Char) (offset : Nat) : List Char :=
  (text.drop offset).takeWhile (· != '\n')

theorem take_length_takeWhile (p : Char → Bool) (cs : List Char) : cs.take (cs.takeWhile p).length = cs.takeWhile p := by
  conv_lhs => arg 2; rw [← List.takeWhile_append_dropWhile (p := p) (l := cs)]
  exact List.take_left

/-- The request mapping in front of the type is read from its line. -/
theorem classPath_eq (text masked : List Char) (d : Source.TypeDeclaration) :
    classPath text masked d =
      ((requestMappingPattern.searchIn? masked 0 d.start).bind fun m => mappingPath? (lineFrom text m.stop) 0).getD [] := by
  unfold classPath
  cases hm : requestMappingPattern.searchIn? masked 0 d.start with
  | none => rfl
  | some m =>
    have hstart : Text.afterLast (· == '\n') (text.take m.start) ≤ m.stop := by
      have hle := searchIn?_start_le hm
      have hlen : (text.take m.start).length ≤ m.start := List.length_take_le _ _
      rw [Text.afterLast]
      omega
    simp only [Option.bind_some]
    rw [mappingPath?_drop, Text.slice, List.drop_drop, Nat.add_sub_cancel' hstart, List.drop_take, Nat.add_sub_cancel_left,
      take_length_takeWhile]
    rfl

/-! ## Texts without comments -/

/-- The path of every mapping annotation is the same with and without comments. -/
structure SamePaths (text : List Char) (d : Source.TypeDeclaration) : Prop where
  /-- the request mapping in front of the type -/
  root : ∀ m, requestMappingPattern.searchIn? (Source.mask text) 0 d.start = some m →
    SamePath (lineFrom text m.stop) (lineFrom (Source.blankComments text) m.stop)
  /-- the mapping of a method, on its line -/
  methods : ∀ {i : Nat} {line raw bare : List Char}, (Text.lines (Source.mask text))[i]? = some line →
    (Text.lines text)[i]? = some raw → (Text.lines (Source.blankComments text))[i]? = some bare →
    ∀ {method : HttpMethod} {start : Nat},
      mappingMethod line (Text.newlinesBefore (Source.mask text) d.start < i) = .ok (some (method, start)) →
      SamePath (raw.drop start) (bare.drop start)

theorem SamePaths.classPath_eq {text : List Char} {d : Source.TypeDeclaration} (h : SamePaths text d) :
    classPath (Source.blankComments text) (Source.mask text) d = classPath text (Source.mask text) d := by
  rw [SpringAtlas.classPath_eq, SpringAtlas.classPath_eq]
  cases hm : requestMappingPattern.searchIn? (Source.mask text) 0 d.start with
  | none => rfl
  | some m => rw [Option.bind_some, Option.bind_some, (h.root m hm).mappingPath?_eq]

theorem mappingOn_congr {raw bare line : List Char} {inside : Bool}
    (h : ∀ {method : HttpMethod} {start : Nat}, mappingMethod line inside = .ok (some (method, start)) →
      SamePath (raw.drop start) (bare.drop start)) : mappingOn bare line inside = mappingOn raw line inside := by
  obtain ⟨found, hfound⟩ := mappingMethod_returns line inside
  rw [mappingOn, mappingOn, hfound]
  cases found with
  | none => rfl
  | some found =>
    have hpath := (h hfound).mappingPath?_eq
    rw [← mappingPath?_drop, ← mappingPath?_drop] at hpath
    show Except.ok ((mappingPath? bare found.2).map _) = Except.ok ((mappingPath? raw found.2).map _)
    rw [hpath]

theorem SamePaths.mappingAt?_eq {text : List Char} {d : Source.TypeDeclaration} (h : SamePaths text d) {i : Nat}
    {line : List Char} (hline : (Text.lines (Source.mask text))[i]? = some line) :
    mappingAt? (Text.lines (Source.blankComments text)) (Text.newlinesBefore (Source.mask text) d.start) i line =
      mappingAt? (Text.lines text) (Text.newlinesBefore (Source.mask text) d.start) i line := by
  obtain ⟨hi, -⟩ := List.getElem?_eq_some_iff.1 hline
  have hraw := List.getElem?_eq_getElem (Nat.lt_of_lt_of_le hi (length_lines_mask_le text))
  have hlen := length_lines_mask_le (Source.blankComments text)
  rw [Source.mask_blankComments] at hlen
  have hbare := List.getElem?_eq_getElem (Nat.lt_of_lt_of_le hi hlen)
  rw [mappingAt?, mappingAt?, hraw, hbare, Option.bind_some, Option.bind_some,
    mappingOn_congr (h.methods hline hraw hbare)]

theorem SamePaths.routes_eq {text : List Char} {d : Source.TypeDeclaration} (h : SamePaths text d)
    (limits : ExtractionLimits) : routes limits (Source.blankComments text) d = routes limits text d := by
  simp only [routes, Source.mask_blankComments, h.classPath_eq]
  refine List.filterMap_congr fun x hx => ?_
  rw [h.mappingAt?_eq (List.mem_zipIdx_iff_getElem?.1 hx)]

/-- If the text declares a controller, its paths are the same with and without comments. -/
def PathsUncommented (text : List Char) : Prop :=
  ∀ d, Source.declaration? (Source.mask text) = some d →
    (stereotypeOf d.kind ((Source.annotationNames (Source.mask text)).map String.ofList)).isController →
    SamePaths text d

/-- **Comments change facts through paths only.** Extraction returns for a text with and without its comments; both
    declare no type, or the two facts agree on all but their endpoints. Where the paths are the same, the endpoints serve
    the same routes with the same handlers. -/
theorem extract_uncommented (limits : ExtractionLimits) (path : String) (text : List Char) :
    ∃ r r', extract limits path text = .ok r ∧ extract limits path (Source.blankComments text) = .ok r' ∧
      r.map ClassFact.outline = r'.map ClassFact.outline ∧
      (PathsUncommented text →
        r.map (fun f => f.endpoints.map Endpoint.route) = r'.map fun f => f.endpoints.map Endpoint.route) := by
  obtain ⟨r, r', hr, hr', houtline, hroutes⟩ := extract_outline limits path (Source.mask_blankComments text).symm
  refine ⟨r, r', hr, hr', houtline, fun hpaths => hroutes fun d hd hcontroller => ?_⟩
  exact ((hpaths d hd hcontroller).routes_eq limits).symm

/-- A controller on one line, with a comment behind the path and one at the end. -/
def annotatedController : List Char :=
  "@RestController class A \x7b @GetMapping(\"/a\" /* all */) int f() \x7b \x7d \x7d // api".toList

theorem annotatedController_paths : PathsUncommented annotatedController := by
  intro d hd _
  have hstart : d.start = 16 := by
    have h : (Source.declaration? (Source.mask annotatedController)).map (·.start) = some 16 := by decide +kernel
    rw [hd] at h
    exact Option.some.inj h
  have hroot : requestMappingPattern.searchIn? (Source.mask annotatedController) 0 16 = none := by decide +kernel
  have hmethod : (mappingMethod (Source.mask annotatedController) false).toOption = some (some (.get, 37)) := by
    decide +kernel
  have hline : Text.lines (Source.mask annotatedController) = [Source.mask annotatedController] ∧
      Text.lines annotatedController = [annotatedController] ∧
      Text.lines (Source.blankComments annotatedController) = [Source.blankComments annotatedController] := by
    decide +kernel
  have hpath : HoldsPath "(\"/a\" ".toList := by
    unfold HoldsPath
    decide +kernel
  have hraw : annotatedController.drop 37 = "(\"/a\" ".toList ++ "/* all */) int f() \x7b \x7d \x7d // api".toList := by
    decide +kernel
  have hbare : (Source.blankComments annotatedController).drop 37 =
      "(\"/a\" ".toList ++ "         ) int f() \x7b \x7d \x7d       ".toList := by
    decide +kernel
  constructor
  · intro m hm
    rw [hstart, hroot] at hm
    cases hm
  · intro i line raw bare hi hi' hi'' method start hm
    rw [hline.1] at hi
    rw [hline.2.1] at hi'
    rw [hline.2.2] at hi''
    -- the text has one line
    cases i with
    | succ i => cases hi
    | zero =>
      cases hi
      cases hi'
      cases hi''
      have hfound : (mappingMethod (Source.mask annotatedController) false).toOption = some (some (method, start)) :=
        toOption_eq_some.2 hm
      rw [hmethod] at hfound
      cases hfound
      rw [hraw, hbare]
      exact .read hpath _ _

theorem extract_annotatedController :
    PathsUncommented annotatedController ∧
    ∃ r r', extract {} "A.java" annotatedController = .ok r ∧
      extract {} "A.java" (Source.blankComments annotatedController) = .ok r' ∧
      r.map ClassFact.outline = r'.map ClassFact.outline ∧
      r.map (fun f => f.endpoints.map Endpoint.route) = r'.map fun f => f.endpoints.map Endpoint.route := by
  obtain ⟨r, r', hr, hr', houtline, hroutes⟩ := extract_uncommented {} "A.java" annotatedController
  exact ⟨annotatedController_paths, r, r', hr, hr', houtline, hroutes annotatedController_paths⟩

/-- A controller whose mapping holds an old path in a comment. -/
def commentedPath : List Char :=
  ("@RestController\nclass A \x7b\n  @GetMapping(/* path = \"/old\" */ path = \"/new\")\n" ++
    "  String f() \x7b return null; \x7d\n\x7d\n").toList

/-- **A comment moves an endpoint**: it is served under the path in the comment. -/
theorem extract_commentedPath :
    ∃ f f', extract {} "A.java" commentedPath = .ok (some f) ∧
      extract {} "A.java" (Source.blankComments commentedPath) = .ok (some f') ∧
      f.endpoints.map Endpoint.route = [⟨.get, "/old", "f", "String"⟩] ∧
      f'.endpoints.map Endpoint.route = [⟨.get, "/new", "f", "String"⟩] := by
  have hroutes : ((extract {} "A.java" commentedPath).toOption.join.map fun f => f.endpoints.map Endpoint.route) =
      some [⟨.get, "/old", "f", "String"⟩] := by
    decide +kernel
  have hroutes' : ((extract {} "A.java" (Source.blankComments commentedPath)).toOption.join.map fun f =>
      f.endpoints.map Endpoint.route) = some [⟨.get, "/new", "f", "String"⟩] := by
    decide +kernel
  obtain ⟨f, hf, hf'⟩ := Option.map_eq_some_iff.1 hroutes
  obtain ⟨g, hg, hg'⟩ := Option.map_eq_some_iff.1 hroutes'
  exact ⟨f, g, toOption_eq_some.1 (Option.join_eq_some_iff.1 hf), toOption_eq_some.1 (Option.join_eq_some_iff.1 hg), hf',
    hg'⟩

end SpringAtlas

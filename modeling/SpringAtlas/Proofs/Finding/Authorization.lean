import SpringAtlas.Finding.Source
import SpringAtlas.Proofs.Module.Capabilities

/-!
# `Proofs.Finding.Authorization` — controllers that ask for no authorisation

Users sign in and up without being signed in, so the endpoints by which they do must be open. The exemption is taken from
the whole text of the file: one path of this kind anywhere in it, be it in a comment or at another endpoint, and every
creating endpoint of the file is passed over. A creating endpoint without authorisation whose own arguments name no such
path is therefore reported if no such path stands in the file, or if some endpoint of another verb changes something.

## Contents
* `Text.contains_iff` — pieces of a text
* `HasMapping`, `exists_mem_findAll_mutatingPattern_iff` — the mappings that change something
* `missingAuthFindings_cases`, `missingAuthFindings_ne_nil_iff` — when a controller is reported
* `CreatesWith`, `UnsecuredPost`, `missingAuthFindings_unsecuredPost_iff` — creating endpoints without authorisation
-/

namespace SpringAtlas

/-! ## Pieces of a text -/

/-- A piece is searched for among all places of a text. -/
theorem Text.contains_iff {piece cs : List Char} : Text.contains piece cs = true ↔ piece <:+: cs := by
  induction cs with
  | nil =>
    rw [List.infix_nil]
    show (if piece.isEmpty then some 0 else none).isSome = true ↔ piece = []
    cases piece <;> simp
  | cons c cs ih =>
    rw [List.infix_cons_iff, ← ih, ← List.isPrefixOf_iff_prefix]
    unfold Text.contains
    rw [Text.find]
    by_cases hstarts : piece.isPrefixOf (c :: cs) = true
    · simp [hstarts]
    · rw [if_neg hstarts, Option.isSome_map]
      exact ⟨Or.inr, fun h => h.resolve_left hstarts⟩

/-- A text names a path by which users sign in or up. -/
def MentionsOpenPath (text : List Char) : Prop :=
  ∃ path ∈ openPaths, path.toList <:+: text

theorem any_openPaths_iff {text : List Char} :
    (openPaths.any fun path => Text.contains path.toList text) = true ↔ MentionsOpenPath text := by
  rw [List.any_eq_true]
  exact exists_congr fun path => and_congr_right fun _ => Text.contains_iff

/-! ## Mappings -/

/-- The verbs of the mappings that change something. -/
def changingVerbs : List String :=
  ["Delete", "Put", "Patch", "Post"]

/-- The mapping annotation of a verb stands in a text. -/
def HasMapping (verb : String) (text : List Char) : Prop :=
  HasAnnotation (verb ++ "Mapping") text

/-- No verb starts another one. -/
theorem eq_of_prefix_changingVerbs : ∀ verb ∈ changingVerbs, ∀ other ∈ changingVerbs,
    verb.toList <+: other.toList → verb = other := by
  decide

theorem at_not_mem_mapping : ∀ verb ∈ changingVerbs, '@' ∉ verb.toList ++ "Mapping".toList := by
  decide

section Mappings

open Pattern

variable {text : List Char} {m : Match}

/-- The place behind a mapping annotation, its verb captured. -/
def mappingEnd (c : Cursor) (verb : String) (post : List Char) : Cursor :=
  let d := c.after "@".toList (verb.toList ++ ("Mapping".toList ++ post))
  ((d.after verb.toList ("Mapping".toList ++ post)).capture 1 d.pos).after "Mapping".toList post

/-- The pattern of mappings that change something reads an at sign, a verb and the word behind it. -/
theorem way_mutatingPattern_iff {c d : Cursor} : Way mutatingPattern c d ↔ ∃ verb ∈ changingVerbs, ∃ post,
    c.rest = '@' :: (verb.toList ++ ("Mapping".toList ++ post)) ∧ post.head?.any Text.isWord = false ∧
      d = mappingEnd c verb post := by
  have hne : changingVerbs ≠ [] := by decide
  have hlast : "Mapping".toList.getLast?.any Text.isWord = true := by decide
  constructor
  · rintro ⟨c₃, ⟨c₂, ⟨c₁, hat, c₂', hverb, rfl⟩, hmapping⟩, hbehind, rfl⟩
    obtain ⟨rest₁, hrest, rfl⟩ := way_lit_iff.1 hat
    obtain ⟨verb, hmem, hverb⟩ := (way_oneOf_iff hne).1 hverb
    obtain ⟨rest₂, hrest₁, rfl⟩ := way_lit_iff.1 hverb
    obtain ⟨post, hrest₂, rfl⟩ := way_lit_iff.1 hmapping
    change rest₁ = _ at hrest₁
    change rest₂ = _ at hrest₂
    subst hrest₁ hrest₂
    rw [atWordEdge_after hlast] at hbehind
    exact ⟨verb, hmem, post, hrest, by simpa using hbehind, rfl⟩
  · rintro ⟨verb, hmem, post, hrest, hbehind, rfl⟩
    refine ⟨_, ⟨_, ⟨_, way_lit_iff.2 ⟨_, hrest, rfl⟩, _, ?_, rfl⟩, way_lit_iff.2 ⟨post, rfl, rfl⟩⟩, ?_, rfl⟩
    · apply (way_oneOf_iff hne).2
      exact ⟨verb, hmem, way_lit_iff.2 ⟨_, rfl, rfl⟩⟩
    · rw [atWordEdge_after hlast, hbehind]
      rfl

/-- What a match of a changing mapping has read, and where it keeps the verb. -/
theorem matchAt?_mutatingPattern {before : Option Char} {pos stop : Nat} {rest : List Char}
    (h : mutatingPattern.matchAt? before pos stop rest = some m) : ∃ verb ∈ changingVerbs, ∃ post,
      rest = '@' :: (verb.toList ++ ("Mapping".toList ++ post)) ∧ post.head?.any Text.isWord = false ∧
        m.span? 1 = some (pos + 1, pos + 1 + verb.toList.length) ∧
        m.stop = pos + 1 + (verb.toList ++ "Mapping".toList).length := by
  obtain ⟨d, hrun, rfl⟩ := Option.map_eq_some_iff.1 h
  obtain ⟨d', hway, hd'⟩ := run_way hrun
  cases hd'
  obtain ⟨verb, hverb, post, hrest, hbehind, rfl⟩ := way_mutatingPattern_iff.1 hway
  refine ⟨verb, hverb, post, hrest, hbehind, rfl, ?_⟩
  rw [List.length_append, ← Nat.add_assoc]
  rfl

/-- No such mapping holds a second at sign. -/
theorem opensOnce_mutatingPattern : mutatingPattern.OpensOnce '@' := by
  intro before pos stop rest m h
  obtain ⟨verb, hverb, post, hrest, -, -, hstop⟩ := matchAt?_mutatingPattern h
  refine ⟨verb.toList ++ "Mapping".toList, post, ?_, at_not_mem_mapping verb hverb, hstop⟩
  rw [hrest, List.append_assoc]

/-- **Every changing mapping is found, and nothing else**, each with its verb. -/
theorem exists_mem_findAll_mutatingPattern_iff {P : List Char → Prop} :
    (∃ m ∈ mutatingPattern.findAll text, P (m.group text 1)) ↔
      ∃ verb ∈ changingVerbs, HasMapping verb text ∧ P verb.toList := by
  have hgroup : ∀ {pre post : List Char} {verb : String} {m : Match},
      m.span? 1 = some (pre.length + 1, pre.length + 1 + verb.toList.length) →
      m.group (pre ++ '@' :: (verb.toList ++ post)) 1 = verb.toList := by
    intro pre post verb m hspan
    apply Match.group_eq (pre ++ ['@']) post (by simp)
    rw [hspan, List.length_append, List.length_singleton]
  constructor
  · rintro ⟨m, hm, hP⟩
    obtain ⟨pre, rest, rfl, hmatch⟩ := exists_matchAt?_of_mem_findAll hm
    obtain ⟨verb, hverb, post, rfl, hbehind, hspan, -⟩ := matchAt?_mutatingPattern hmatch
    refine ⟨verb, hverb, ⟨pre, post, ?_, hbehind⟩, hgroup hspan ▸ hP⟩
    rw [String.toList_append, List.append_assoc]
  · rintro ⟨verb, hverb, ⟨pre, post, rfl, hbehind⟩, hP⟩
    rw [String.toList_append, List.append_assoc]
    -- the pattern has a way from the annotation, so it matches there
    have hsome : (mutatingPattern.matchAt? pre.getLast? pre.length
        (pre ++ '@' :: (verb.toList ++ ("Mapping".toList ++ post))).length
        ('@' :: (verb.toList ++ ("Mapping".toList ++ post)))).isSome := by
      rw [matchAt?, Option.isSome_map]
      apply (run_isSome_iff (placeIn_fits pre _)).2
      exact ⟨_, way_mutatingPattern_iff.2 ⟨verb, hverb, post, rfl, hbehind, rfl⟩, rfl⟩
    obtain ⟨m, hm⟩ := Option.isSome_iff_exists.1 hsome
    obtain ⟨other, hother, post', hrest, -, hspan, -⟩ := matchAt?_mutatingPattern hm
    -- and what it has read there is the verb of the annotation
    have heq : verb.toList ++ ("Mapping".toList ++ post) = other.toList ++ ("Mapping".toList ++ post') :=
      (List.cons.inj hrest).2
    obtain rfl : verb = other := by
      have hstarts : verb.toList <+: other.toList ++ ("Mapping".toList ++ post') := heq ▸ List.prefix_append _ _
      rcases List.prefix_or_prefix_of_prefix hstarts (List.prefix_append _ _) with h | h
      · exact eq_of_prefix_changingVerbs verb hverb other hother h
      · exact (eq_of_prefix_changingVerbs other hother verb hverb h).symm
    exact ⟨m, opensOnce_mutatingPattern.mem_findAll hm, (hgroup hspan).symm ▸ hP⟩

end Mappings

/-! ## Reports -/

/-- A text declares a controller. -/
def IsController (text : List Char) : Prop :=
  ∃ name ∈ ["RestController", "Controller"], HasAnnotation name text

/-- A text asks for authorisation somewhere. -/
def AsksForAuthorization (text : List Char) : Prop :=
  ∃ name ∈ ["PreAuthorize", "Secured", "RolesAllowed", "PostAuthorize"], HasAnnotation name text

/-- The pattern of controllers looks for one of two annotations. -/
theorem occursIn_controllerPattern {text : List Char} : controllerPattern.occursIn text = true ↔ IsController text :=
  occursIn_annotated (by decide) (by decide)

/-- The pattern of authorization looks for one of its annotations. -/
theorem occursIn_authorizationPattern {text : List Char} :
    authorizationPattern.occursIn text = true ↔ AsksForAuthorization text :=
  occursIn_annotated (by decide) (by decide)

/-- At most one finding is reported for a file. -/
theorem missingAuthFindings_cases (f : SourceFile) :
    missingAuthFindings f = [] ∨ ∃ x, missingAuthFindings f = [x] ∧ x.category = .missingAuth := by
  unfold missingAuthFindings
  dsimp only
  split
  · exact Or.inl rfl
  · cases (mutatingPattern.findAll (Source.mask f.chars)).find? _ with
    | none => exact Or.inl rfl
    | some m => exact Or.inr ⟨_, rfl, rfl⟩

/-- **What is reported**: a controller that asks for no authorisation and changes something, where creating does not count in
    a file that names an open path. -/
theorem missingAuthFindings_ne_nil_iff (f : SourceFile) :
    missingAuthFindings f ≠ [] ↔ IsController (Source.mask f.chars) ∧ ¬ AsksForAuthorization (Source.mask f.chars) ∧
      ∃ verb ∈ changingVerbs, HasMapping verb (Source.mask f.chars) ∧ ¬ (verb = "Post" ∧ MentionsOpenPath f.chars) := by
  have hsuspect : ∀ m : Match, (!(m.group (Source.mask f.chars) 1 == "Post".toList &&
      openPaths.any fun path => Text.contains path.toList f.chars)) = true ↔
        ¬ (m.group (Source.mask f.chars) 1 = "Post".toList ∧ MentionsOpenPath f.chars) := by
    intro m
    rw [Bool.not_eq_true', ← Bool.not_eq_true, Bool.and_eq_true_iff, beq_iff_eq, any_openPaths_iff]
  have hverb : ∀ verb : String, verb.toList = "Post".toList ↔ verb = "Post" := fun _ => String.toList_inj
  rw [← occursIn_controllerPattern, ← occursIn_authorizationPattern]
  unfold missingAuthFindings
  dsimp only
  cases hcontroller : controllerPattern.occursIn (Source.mask f.chars) with
  | false => simp
  | true =>
    cases hauthorization : authorizationPattern.occursIn (Source.mask f.chars) with
    | true => simp
    | false =>
      -- something is reported if the search finds a mapping that counts
      rw [if_neg (by decide), and_iff_right rfl, and_iff_right Bool.false_ne_true, Ne, Option.toList_eq_nil_iff,
        Option.map_eq_none_iff, ← Ne, ← Option.isSome_iff_ne_none, List.find?_isSome]
      simp only [hsuspect, ← hverb]
      apply exists_mem_findAll_mutatingPattern_iff (P := fun word => ¬ (word = "Post".toList ∧ MentionsOpenPath f.chars))

/-! ## Creating endpoints -/

/-- A creating mapping with an argument list that closes on its line, and the text of the list. -/
def CreatesWith (text arguments : List Char) : Prop :=
  ∃ pre gap list post, Source.mask text = pre ++ ("@PostMapping".toList ++ (gap ++ (list ++ post))) ∧
    (∀ c ∈ gap, c = ' ' ∨ c = '\t') ∧ list.head? = some '(' ∧ Source.groupLength? 0 list = some list.length ∧
    '\n' ∉ list ∧
    arguments = Text.slice text (pre ++ ("@PostMapping".toList ++ gap)).length
      (pre ++ ("@PostMapping".toList ++ (gap ++ list))).length

/-- A controller that asks for no authorisation has a creating endpoint whose arguments name no open path. -/
structure UnsecuredPost (text : List Char) : Prop where
  controller : IsController (Source.mask text)
  unchecked : ¬ AsksForAuthorization (Source.mask text)
  creates : ∃ arguments, CreatesWith text arguments ∧ ¬ MentionsOpenPath arguments

theorem CreatesWith.hasMapping {text arguments : List Char} (h : CreatesWith text arguments) :
    HasMapping "Post" (Source.mask text) := by
  obtain ⟨pre, gap, list, post, hmask, hgap, hopen, -⟩ := h
  refine ⟨pre, gap ++ (list ++ post), hmask, ?_⟩
  -- a blank or the parenthesis follows
  cases gap with
  | nil =>
    rw [List.nil_append, List.head?_append, hopen]
    show Text.isWord '(' = false
    decide
  | cons c gap =>
    rw [List.cons_append, List.head?_cons, Option.any_some]
    rcases hgap c List.mem_cons_self with rfl | rfl <;> decide

/-- **An unsecured creating endpoint is reported** if and only if no open path stands anywhere in the file, or an endpoint
    of the controller deletes, replaces or changes something. -/
theorem missingAuthFindings_unsecuredPost_iff {f : SourceFile} (h : UnsecuredPost f.chars) :
    (∃ x, missingAuthFindings f = [x] ∧ x.category = .missingAuth) ↔
      ¬ MentionsOpenPath f.chars ∨ ∃ verb ∈ ["Delete", "Put", "Patch"], HasMapping verb (Source.mask f.chars) := by
  have hsome : (∃ x, missingAuthFindings f = [x] ∧ x.category = .missingAuth) ↔ missingAuthFindings f ≠ [] := by
    constructor
    · rintro ⟨x, hx, -⟩
      rw [hx]
      exact List.cons_ne_nil x []
    · exact (missingAuthFindings_cases f).resolve_left
  obtain ⟨arguments, hcreates, -⟩ := h.creates
  rw [hsome, missingAuthFindings_ne_nil_iff, and_iff_right h.controller, and_iff_right h.unchecked]
  constructor
  · rintro ⟨verb, hverb, hmapping, hcounts⟩
    by_cases hpost : verb = "Post"
    · exact Or.inl fun hopen => hcounts ⟨hpost, hopen⟩
    · have hother : ∀ verb ∈ changingVerbs, verb ≠ "Post" → verb ∈ ["Delete", "Put", "Patch"] := by decide
      exact Or.inr ⟨verb, hother verb hverb hpost, hmapping⟩
  · rintro (hclosed | ⟨verb, hverb, hmapping⟩)
    · exact ⟨"Post", by decide, hcreates.hasMapping, fun hpost => hclosed hpost.2⟩
    · have hother : ∀ verb ∈ ["Delete", "Put", "Patch"], verb ∈ changingVerbs ∧ verb ≠ "Post" := by decide
      exact ⟨verb, (hother verb hverb).1, hmapping, fun hpost => (hother verb hverb).2 hpost.1⟩

/-- A controller with two creating endpoints, the second at the path. -/
def endpointsFile (path : String) : SourceFile where
  path := "A.java"
  text := "@RestController class A \x7b " ++ "@PostMapping(\"/orders\") void f(); " ++ "@PostMapping(\"" ++ path ++
    "\") void g(); \x7d"

theorem chars_endpointsFile (path : String) : (endpointsFile path).chars =
    "@RestController class A \x7b ".toList ++ "@PostMapping(\"/orders\") void f(); ".toList ++
      "@PostMapping(\"".toList ++ path.toList ++ "\") void g(); \x7d".toList := by
  simp only [SourceFile.chars, endpointsFile, String.toList_append]

/-- The masked text of the file, whichever of the paths it has. -/
def maskedEndpoints : List Char :=
  "@RestController class A \x7b ".toList ++ "@PostMapping(\"       \") void f(); ".toList ++
    "@PostMapping(\"      \") void g(); \x7d".toList

theorem mask_endpointsFile :
    ∀ path ∈ ["/items", "/login"], Source.mask (endpointsFile path).chars = maskedEndpoints := by
  simp only [chars_endpointsFile]
  decide +kernel

theorem unsecuredPost_endpointsFile : ∀ path ∈ ["/items", "/login"], UnsecuredPost (endpointsFile path).chars := by
  intro path hpath
  have hmask := mask_endpointsFile path hpath
  have hcontroller : IsController maskedEndpoints := by
    rw [← occursIn_controllerPattern]
    decide
  have hunchecked : ¬ AsksForAuthorization maskedEndpoints := by
    rw [← occursIn_authorizationPattern]
    decide
  refine ⟨hmask ▸ hcontroller, hmask ▸ hunchecked, "(\"/orders\")".toList, ?_, ?_⟩
  · refine ⟨"@RestController class A \x7b ".toList, [], "(\"       \")".toList, maskedEndpoints.drop 49, ?_, ?_, by decide,
      by decide, by decide, ?_⟩
    · rw [hmask]
      decide
    · intro c hc
      cases hc
    · clear hmask
      rw [chars_endpointsFile]
      revert path
      decide
  · rw [← any_openPaths_iff]
    decide

theorem missingAuthFindings_noOpenPath :
    UnsecuredPost (endpointsFile "/items").chars ∧ ¬ MentionsOpenPath (endpointsFile "/items").chars ∧
      ∃ x, missingAuthFindings (endpointsFile "/items") = [x] ∧ x.category = .missingAuth := by
  have hunsecured := unsecuredPost_endpointsFile "/items" (by decide)
  have hclosed : ¬ MentionsOpenPath (endpointsFile "/items").chars := by
    rw [← any_openPaths_iff, chars_endpointsFile]
    decide +kernel
  exact ⟨hunsecured, hclosed, (missingAuthFindings_unsecuredPost_iff hunsecured).2 (Or.inl hclosed)⟩

/-- **An unsecured endpoint that is passed over**, since users sign in at another one. -/
theorem missingAuthFindings_eq_nil_loginElsewhere :
    UnsecuredPost (endpointsFile "/login").chars ∧ missingAuthFindings (endpointsFile "/login") = [] := by
  have hopen : MentionsOpenPath (endpointsFile "/login").chars := by
    refine ⟨"/login", by decide, ?_⟩
    rw [chars_endpointsFile]
    exact List.infix_append _ _ _
  -- the annotations of the other verbs do not stand in the file
  have hothers : ¬ ∃ name ∈ ["DeleteMapping", "PutMapping", "PatchMapping"], HasAnnotation name maskedEndpoints := by
    rw [← occursIn_annotated (by decide) (by decide)]
    decide
  refine ⟨unsecuredPost_endpointsFile "/login" (by decide), ?_⟩
  rcases missingAuthFindings_cases (endpointsFile "/login") with hnil | ⟨x, hx, -⟩
  · exact hnil
  · exfalso
    have hreported : missingAuthFindings (endpointsFile "/login") ≠ [] := hx ▸ List.cons_ne_nil x []
    obtain ⟨-, -, verb, hverb, hmapping, hcounts⟩ := (missingAuthFindings_ne_nil_iff _).1 hreported
    rw [mask_endpointsFile "/login" (by decide)] at hmapping
    have hname : ∀ verb ∈ changingVerbs, verb ≠ "Post" →
        verb ++ "Mapping" ∈ ["DeleteMapping", "PutMapping", "PatchMapping"] := by decide
    exact hothers ⟨_, hname verb hverb fun hpost => hcounts ⟨hpost, hopen⟩, hmapping⟩

end SpringAtlas

import Mathlib.Data.List.Chain
import Mathlib.Data.List.DropRight
import SpringAtlas.Proofs.Fact.Extract
import SpringAtlas.Proofs.Text.Blank
import SpringAtlas.Proofs.Text.Lines

/-!
# `Proofs.Fact.Paths` — endpoint paths are normal

The path of an endpoint is put together from the path of the class and the path of the method by text operations: runs of
slashes are squeezed, slashes at the ends are dropped, one is put in front. Together they do what a list of segments
makes plain: cut both paths at their slashes, leave the empty segments out, and join what is left.

The argument follows the pieces between slashes. Squeezing leaves at most one slash behind each piece
(`squeezeSlashes_append`), so that trimming and joining go on from piece to piece (`trimmed_append`).

## Contents
* `pathSegments` — the non-empty segments of a path
* `trimmed_join`, `normalizePath_eq` — the path is its segments, joined
* `NormalPath`, `normalPath_ofSegments` — what a path of segments looks like
* `extract_path` — where the path of an endpoint comes from
* `normalizePath_joins_segments` — all of it, for every endpoint
-/

namespace SpringAtlas

/-! ## Segments -/

/-- The non-empty segments of a path. -/
def pathSegments (cs : List Char) : List (List Char) :=
  (Text.splitWhere (· == '/') cs).filter fun s => !s.isEmpty

/-- The path that goes through the segments, from the root. -/
def pathOfSegments (segments : List (List Char)) : List Char :=
  '/' :: Text.join ['/'] segments

/-- A text that can stand between two slashes. -/
def IsSegment (s : List Char) : Prop :=
  s ≠ [] ∧ '/' ∉ s

theorem slashFree_of_not_mem {w : List Char} (h : '/' ∉ w) : ∀ c ∈ w, (c == '/') = false := by
  intro c hc
  have hne : c ≠ '/' := fun he => h (he ▸ hc)
  simpa using hne

theorem isSegment_of_mem {cs s : List Char} (h : s ∈ pathSegments cs) : IsSegment s := by
  obtain ⟨hs, hne⟩ := List.mem_filter.1 h
  refine ⟨by simpa using hne, fun hslash => ?_⟩
  have hsep := Text.splitWhere_no_separator hs '/' hslash
  exact absurd hsep (by decide)

/-- The segments of two paths with a slash between them. -/
theorem pathSegments_append (a b : List Char) : pathSegments (a ++ '/' :: b) = pathSegments a ++ pathSegments b := by
  rw [pathSegments, Text.splitWhere_append_cons (by rfl), List.filter_append]
  rfl

/-- A path gives back the segments that it goes through. -/
theorem pathSegments_pathOfSegments {segments : List (List Char)} (h : ∀ s ∈ segments, IsSegment s) :
    pathSegments (pathOfSegments segments) = segments := by
  have hfilter : segments.filter (fun s => !s.isEmpty) = segments := by
    refine List.filter_eq_self.2 fun s hs => ?_
    simpa using (h s hs).1
  have hfront : pathSegments (pathOfSegments segments) = pathSegments (Text.join ['/'] segments) := pathSegments_append [] _
  rw [hfront, pathSegments]
  by_cases hne : segments = []
  · subst hne
    rfl
  · rw [Text.splitWhere_join (by rfl) hne, hfilter]
    intro s hs c hc
    have hslash : c ≠ '/' := fun he => (h s hs).2 (he ▸ hc)
    simpa using hslash

/-! ## Squeezing and trimming -/

/-- A slash takes the slashes behind it with it. -/
theorem squeezeSlashes_slash (cs : List Char) :
    squeezeSlashes ('/' :: cs) = '/' :: (squeezeSlashes cs).dropWhile (· == '/') := by
  induction cs with
  | nil => rfl
  | cons c cs ih =>
    by_cases hc : c = '/'
    · subst hc
      rw [squeezeSlashes, if_pos (by rfl), ih, List.dropWhile_cons_of_pos (by rfl), List.dropWhile_idempotent]
    · have hstop : squeezeSlashes (c :: cs) = c :: squeezeSlashes cs := by
        rw [squeezeSlashes, if_neg (by simp [hc])]
      rw [squeezeSlashes, if_neg (by simp [hc]), hstop, List.dropWhile_cons_of_neg (by simpa using hc)]

theorem squeezeSlashes_of_not_mem {w : List Char} (h : '/' ∉ w) (rest : List Char) :
    squeezeSlashes (w ++ rest) = w ++ squeezeSlashes rest := by
  induction w with
  | nil => rfl
  | cons c w ih =>
    have hc : c ≠ '/' := fun he => h (he ▸ List.mem_cons_self)
    rw [List.cons_append, squeezeSlashes, if_neg (by simp [hc]), ih (List.not_mem_of_not_mem_cons h), List.cons_append]

/-- **Behind a piece one slash is left**, and the slashes in front of the rest are gone. -/
theorem squeezeSlashes_append {w : List Char} (h : '/' ∉ w) (rest : List Char) :
    squeezeSlashes (w ++ '/' :: rest) = w ++ '/' :: (squeezeSlashes rest).dropWhile (· == '/') := by
  rw [squeezeSlashes_of_not_mem h, squeezeSlashes_slash]

/-- The path without the slashes at its ends, and with single ones inside. -/
def trimmed (cs : List Char) : List Char :=
  Text.trimWhere (· == '/') (squeezeSlashes cs)

theorem trimmed_of_not_mem {w : List Char} (h : '/' ∉ w) : trimmed w = w := by
  have hsqueeze : squeezeSlashes w = w := by
    have happend := squeezeSlashes_of_not_mem h []
    simpa [squeezeSlashes] using happend
  rw [trimmed, hsqueeze, Text.trimWhere_of_forall (slashFree_of_not_mem h)]

/-- **Trimming goes on behind a piece.** An empty piece leaves no trace, and neither does the slash behind a piece if
    nothing but slashes follows it. -/
theorem trimmed_append {w : List Char} (h : '/' ∉ w) (rest : List Char) :
    trimmed (w ++ '/' :: rest) =
      if w = [] then trimmed rest else if trimmed rest = [] then w else w ++ '/' :: trimmed rest := by
  rw [trimmed, Text.trimWhere, squeezeSlashes_append h]
  split
  · next hnil =>
    subst hnil
    rw [List.nil_append, List.dropWhile_cons_of_pos (by rfl), List.dropWhile_idempotent]
    rfl
  · next hne =>
    have hslash : Text.dropEndWhile (· == '/') ('/' :: (squeezeSlashes rest).dropWhile (· == '/')) =
        if trimmed rest = [] then [] else '/' :: trimmed rest :=
      Text.dropEndWhile_append (· == '/') ['/'] _
    have hfirst : (w ++ '/' :: (squeezeSlashes rest).dropWhile (· == '/')).head?.any (· == '/') = false := by
      obtain ⟨c, cs, rfl⟩ := List.exists_cons_of_ne_nil hne
      exact slashFree_of_not_mem h c List.mem_cons_self
    have hlast := Text.getLast?_any_of_forall (slashFree_of_not_mem h)
    rw [Text.dropWhile_of_head? hfirst, Text.dropEndWhile_append, hslash]
    split
    · next hrest => rw [if_pos rfl, Text.dropEndWhile_of_getLast? hlast]
    · next hrest => rw [if_neg (List.cons_ne_nil _ _)]

theorem join_eq_nil_iff {segments : List (List Char)} (h : ∀ s ∈ segments, s ≠ []) :
    Text.join ['/'] segments = [] ↔ segments = [] := by
  cases segments with
  | nil => simp [Text.join]
  | cons s segments =>
    have hs : s ≠ [] := h s List.mem_cons_self
    cases segments with
    | nil => simpa [Text.join_singleton] using hs
    | cons s' segments => simp [Text.join_cons_cons]

/-- **The pieces that are left are the non-empty ones**, by induction on the pieces between slashes. -/
theorem trimmed_join {ws : List (List Char)} (hne : ws ≠ []) (h : ∀ w ∈ ws, '/' ∉ w) :
    trimmed (Text.join ['/'] ws) = Text.join ['/'] (ws.filter fun w => !w.isEmpty) := by
  induction ws with
  | nil => exact absurd rfl hne
  | cons w ws ih =>
    have hw : '/' ∉ w := h w List.mem_cons_self
    cases ws with
    | nil =>
      rw [Text.join_singleton, trimmed_of_not_mem hw]
      cases w with
      | nil => rfl
      | cons c w => exact (Text.join_singleton _ _).symm
    | cons w' ws =>
      have hrest := ih (List.cons_ne_nil _ _) fun v hv => h v (List.mem_cons_of_mem _ hv)
      rw [Text.join_cons_cons, List.singleton_append, trimmed_append hw, hrest]
      cases w with
      | nil =>
        rw [if_pos rfl]
        rfl
      | cons c w =>
        have hfirst : ((c :: w) :: w' :: ws).filter (fun w => !w.isEmpty) =
            (c :: w) :: (w' :: ws).filter fun w => !w.isEmpty :=
          List.filter_cons_of_pos rfl
        have hkept : ∀ s ∈ (w' :: ws).filter (fun w => !w.isEmpty), s ≠ [] := by
          intro s hs
          simpa using (List.mem_filter.1 hs).2
        rw [if_neg (List.cons_ne_nil c w), hfirst]
        split
        · next hnil => rw [(join_eq_nil_iff hkept).1 hnil, Text.join_singleton]
        · next hnil =>
          obtain ⟨s, segments, hs⟩ := List.exists_cons_of_ne_nil (mt (join_eq_nil_iff hkept).2 hnil)
          rw [hs, Text.join_cons_cons, List.singleton_append]

theorem trimmed_eq_join (cs : List Char) : trimmed cs = Text.join ['/'] (pathSegments cs) := by
  have hpieces : ∀ w ∈ Text.splitWhere (· == '/') cs, '/' ∉ w := by
    intro w hw hslash
    have hsep := Text.splitWhere_no_separator hw '/' hslash
    exact absurd hsep (by decide)
  have h := trimmed_join (Text.splitWhere_ne_nil _ cs) hpieces
  rwa [Text.join_splitWhere] at h

/-- **A joined path goes through the segments of both paths.** -/
theorem normalizePath_eq (root path : List Char) :
    normalizePath root path = pathOfSegments (pathSegments root ++ pathSegments path) := by
  show '/' :: trimmed (root ++ '/' :: path) = _
  rw [trimmed_eq_join, pathSegments_append]
  rfl

theorem pathSegments_normalizePath (root path : List Char) :
    pathSegments (normalizePath root path) = pathSegments root ++ pathSegments path := by
  rw [normalizePath_eq]
  refine pathSegments_pathOfSegments fun s hs => ?_
  rcases List.mem_append.1 hs with hs | hs
  · exact isSegment_of_mem hs
  · exact isSegment_of_mem hs

theorem normalizePath_assoc (a b c : List Char) :
    normalizePath (normalizePath a b) c = normalizePath a (normalizePath b c) := by
  calc normalizePath (normalizePath a b) c
      = pathOfSegments (pathSegments (normalizePath a b) ++ pathSegments c) := normalizePath_eq _ _
    _ = pathOfSegments (pathSegments a ++ pathSegments (normalizePath b c)) := by
        rw [pathSegments_normalizePath, pathSegments_normalizePath, List.append_assoc]
    _ = normalizePath a (normalizePath b c) := (normalizePath_eq _ _).symm

/-! ## Normal paths -/

/-- A path with one slash in front, single slashes inside and none at the end, unless it is the root. -/
structure NormalPath (path : List Char) : Prop where
  rooted : path.head? = some '/'
  single : ¬ "//".toList <:+: path
  ended : path.getLast? = some '/' → path = ['/']

/-- Not both are slashes. -/
def SlashApart (c d : Char) : Prop :=
  ¬ (c = '/' ∧ d = '/')

theorem isChain_slashApart_of_not_mem {s : List Char} (h : '/' ∉ s) : s.IsChain SlashApart := by
  refine List.Pairwise.isChain (List.pairwise_of_forall_mem_list fun c hc d _ => ?_)
  rintro ⟨rfl, -⟩
  exact h hc

/-- No two slashes of a path of segments are neighbours: each segment has a first character. -/
theorem isChain_pathOfSegments {segments : List (List Char)} (h : ∀ s ∈ segments, IsSegment s) :
    (pathOfSegments segments).IsChain SlashApart := by
  induction segments with
  | nil => exact .singleton '/'
  | cons s segments ih =>
    obtain ⟨hne, hslash⟩ := h s List.mem_cons_self
    have hfirst : ('/' :: s).IsChain SlashApart := by
      obtain ⟨c, cs, rfl⟩ := List.exists_cons_of_ne_nil hne
      refine .cons_cons ?_ (isChain_slashApart_of_not_mem hslash)
      rintro ⟨-, rfl⟩
      exact hslash List.mem_cons_self
    cases segments with
    | nil =>
      rw [pathOfSegments, Text.join_singleton]
      exact hfirst
    | cons s' segments =>
      have hsplit : pathOfSegments (s :: s' :: segments) = ('/' :: s) ++ pathOfSegments (s' :: segments) := by
        rw [pathOfSegments, Text.join_cons_cons]
        rfl
      rw [hsplit]
      refine List.isChain_append.2 ⟨hfirst, ih fun t ht => h t (List.mem_cons_of_mem _ ht), fun x hx y _ => ?_⟩
      rintro ⟨rfl, -⟩
      rw [List.getLast?_cons_of_ne_nil hne] at hx
      exact hslash (List.mem_of_getLast? hx)

theorem getLast?_join_ne {segments : List (List Char)} (h : ∀ s ∈ segments, IsSegment s) :
    (Text.join ['/'] segments).getLast? ≠ some '/' := by
  induction segments with
  | nil => simp [Text.join]
  | cons s segments ih =>
    obtain ⟨hne, hslash⟩ := h s List.mem_cons_self
    cases segments with
    | nil =>
      rw [Text.join_singleton]
      exact fun hlast => hslash (List.mem_of_getLast? hlast)
    | cons s' segments =>
      have hrest : Text.join ['/'] (s' :: segments) ≠ [] := by
        rw [ne_eq, join_eq_nil_iff fun t ht => (h t (List.mem_cons_of_mem _ ht)).1]
        exact List.cons_ne_nil _ _
      rw [Text.join_cons_cons, List.getLast?_append_of_ne_nil _ (by simp), List.getLast?_append_of_ne_nil _ hrest]
      exact ih fun t ht => h t (List.mem_cons_of_mem _ ht)

/-- **A path of segments is normal.** -/
theorem normalPath_ofSegments {segments : List (List Char)} (h : ∀ s ∈ segments, IsSegment s) :
    NormalPath (pathOfSegments segments) where
  rooted := rfl
  single := by
    intro hdouble
    obtain ⟨pre, post, hpath⟩ := hdouble
    have hchain := isChain_pathOfSegments h
    rw [← hpath] at hchain
    exact (List.isChain_cons_cons.1 hchain.left_of_append.right_of_append).1 ⟨rfl, rfl⟩
  ended := by
    intro hlast
    by_cases hne : Text.join ['/'] segments = []
    · rw [pathOfSegments, hne]
    · rw [pathOfSegments, List.getLast?_cons_of_ne_nil hne] at hlast
      exact absurd hlast (getLast?_join_ne h)

theorem normalPath_normalizePath (root path : List Char) : NormalPath (normalizePath root path) := by
  rw [normalizePath_eq]
  refine normalPath_ofSegments fun s hs => ?_
  rcases List.mem_append.1 hs with hs | hs
  · exact isSegment_of_mem hs
  · exact isSegment_of_mem hs

/-! ## Endpoints -/

/-- The path of an endpoint is joined from that of its class and that of its mapping annotation. -/
theorem extract_path {limits : ExtractionLimits} {file : String} {text : List Char} {f : ClassFact}
    (h : extract limits file text = .ok (some f)) {e : Endpoint} (he : e ∈ f.endpoints) :
    ∃ root path, e.path.toList = normalizePath root path := by
  obtain ⟨d, line, i, -, hendpoint⟩ := exists_endpointAt_of_mem h he
  obtain ⟨mapping, handler, -, rfl⟩ := endpointAt_eq_some hendpoint
  exact ⟨_, mapping.path, String.toList_ofList⟩

/-- **Endpoint paths are normal.** Two paths are joined by their segments, without the empty ones and with one slash in
    front of each; so every endpoint that is extracted has a normal path, and it does not matter in which order three
    paths are joined. -/
theorem normalizePath_joins_segments :
    (∀ root path, normalizePath root path = '/' :: Text.join ['/'] (pathSegments root ++ pathSegments path)) ∧
    (∀ (limits : ExtractionLimits) (file : String) (text : List Char) (f : ClassFact),
      extract limits file text = .ok (some f) → ∀ e ∈ f.endpoints, NormalPath e.path.toList) ∧
    (∀ a b c, normalizePath (normalizePath a b) c = normalizePath a (normalizePath b c)) := by
  refine ⟨normalizePath_eq, ?_, normalizePath_assoc⟩
  intro limits file text f h e he
  obtain ⟨root, path, hpath⟩ := extract_path h he
  rw [hpath]
  exact normalPath_normalizePath root path

/-- A controller whose paths have slashes to spare. -/
def slashedController : List Char :=
  ("@RestController\n@RequestMapping(\"//api//x/\")\nclass A \x7b\n  @GetMapping(\"/y//\")\n" ++
    "  int f() \x7b \x7d\n  @PostMapping(\"\")\n  int g() \x7b \x7d\n\x7d\n").toList

theorem normalizePath_joins_segments_slashedController :
    ∃ f, extract {} "A.java" slashedController = .ok (some f) ∧ f.endpoints.map (·.path) = ["/api/x/y", "/api/x"] ∧
      ∀ e ∈ f.endpoints, NormalPath e.path.toList := by
  have hpaths : ((extract {} "A.java" slashedController).toOption.join.map fun f => f.endpoints.map (·.path)) =
      some ["/api/x/y", "/api/x"] := by
    decide +kernel
  obtain ⟨f, hf, hpaths⟩ := Option.map_eq_some_iff.1 hpaths
  have hextract : extract {} "A.java" slashedController = .ok (some f) :=
    toOption_eq_some.1 (Option.join_eq_some_iff.1 hf)
  exact ⟨f, hextract, hpaths, normalizePath_joins_segments.2.1 {} "A.java" slashedController f hextract⟩

end SpringAtlas

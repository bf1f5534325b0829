import SpringAtlas.Fact.Extract
import SpringAtlas.Proofs.Outcome
import SpringAtlas.Proofs.Pattern.Capture
import SpringAtlas.Proofs.Source.LineBreaks

/-!
# `Proofs.Fact.Completion` — every source text has a fact, or declares nothing

Extraction has three ways to fail: a line number without a line, a mapping annotation with an unknown method and a type
without a name. None of them can be taken. The mask has no more lines than its text, the patterns of annotation,
signature and declaration capture the groups that are asked for, and a declared name has a first character.

So the fact of a text is a function of the text, and all of it but the endpoints is a function of the mask: `outlineOf`.

## Contents
* `length_lines_mask_le` — lines of the mask are lines of the text
* `mappingMethod_returns`, `handlerFrom_returns`, `endpoints_returns` — the stages
* `Endpoint.route`, `routes` — what the endpoints serve
* `outlineOf`, `extract_of_none`, `extract_of_some` — the fact of a text, in parts
* `Extractable`, `extract_completes` — extraction does not fail
* `ClassFact.outline`, `extract_outline` — what the mask decides of a fact
-/

namespace SpringAtlas

/-! ## Lines -/

theorem count_newline_le_of_kept {ms cs : List Char} (h : List.Forall₂ Source.Kept ms cs) :
    ms.count '\n' ≤ cs.count '\n' := by
  induction h with
  | nil => exact Nat.le_refl _
  | @cons m c ms cs hkept _ ih =>
    rw [List.count_cons, List.count_cons]
    rcases hkept with rfl | rfl
    · exact Nat.add_le_add_right ih _
    · -- a blank is not a line break
      exact Nat.le_trans (by simpa using ih) (Nat.le_add_right _ _)

/-- The mask of a text has no more lines than the text. -/
theorem length_lines_mask_le (text : List Char) :
    (Text.lines (Source.mask text)).length ≤ (Text.lines text).length := by
  rw [Text.length_lines, Text.length_lines]
  exact Nat.succ_le_succ (count_newline_le_of_kept (Source.mask_kept text))

/-! ## Captured groups -/

open Pattern

theorem signaturePattern_binds : Binds signaturePattern 3 fun _ => True :=
  (((reads_any Source.shallowText).binds 3).seq_right _).seq_left rfl

/-- The first group of a mapping annotation is one of five words. -/
theorem mappingPattern_binds :
    Binds mappingPattern 1 fun word => ∃ s ∈ ["Get", "Post", "Put", "Delete", "Patch"], word = s.toList :=
  ((((reads_oneOf _).binds 1).seq_right _).seq_left rfl).seq_left rfl

theorem declarationPattern_binds : Binds Source.declarationPattern 2 (· ≠ []) :=
  ((reads_one_seq _ _).binds 2).seq_right _

/-! ## The stages -/

/-- The five words of mapping annotations name methods. -/
theorem ofName?_mapping {word : List Char}
    (h : ∃ s ∈ ["Get", "Post", "Put", "Delete", "Patch"], word = s.toList) : ∃ m, HttpMethod.ofName? word = some m := by
  obtain ⟨s, hs, rfl⟩ := h
  have hknown : ∀ s ∈ ["Get", "Post", "Put", "Delete", "Patch"], (HttpMethod.ofName? s.toList).isSome := by decide
  exact Option.isSome_iff_exists.1 (hknown s hs)

/-- **The method of a mapping is always known**: the verbs that its patterns can read are all in the table. -/
theorem mappingMethod_returns (masked : List Char) (inside : Bool) : ∃ r, mappingMethod masked inside = .ok r := by
  unfold mappingMethod
  split
  · next m hm =>
    obtain ⟨method, hmethod⟩ := ofName?_mapping (mappingPattern_binds.search? hm)
    rw [hmethod]
    exact ⟨_, rfl⟩
  · split
    · split
      · exact ⟨_, rfl⟩
      · split
        · exact ⟨_, rfl⟩
        · exact ⟨_, rfl⟩
    · exact ⟨_, rfl⟩

/-- A line has a mapping or none, without an error. -/
theorem mappingOn_returns (raw masked : List Char) (inside : Bool) : ∃ r, mappingOn raw masked inside = .ok r := by
  obtain ⟨found, hfound⟩ := mappingMethod_returns masked inside
  rw [mappingOn, hfound]
  cases found with
  | none => exact ⟨_, rfl⟩
  | some found => exact ⟨_, rfl⟩

/-! ## Routes

What is served where, and by which method, is read from the mask as soon as the mapping annotation of a line is known.
The text as it stands gives the path of the annotation and the parameters of the handler. -/

/-- The return type and the name of the first signature at the given places. -/
def signatureFrom? (masked : List (List Char)) (places : List (Nat × Nat)) : Option (List Char × List Char) :=
  places.findSome? fun p => masked[p.1]?.bind fun line =>
    (signaturePattern.searchFrom? line p.2).map fun m => (Text.squeeze (m.group line 1), m.group line 2)

/-- **A handler is found without failure** where the places are lines of both forms of the text, and its type and name
    do not depend on the text as it stands. -/
theorem handlerFrom_returns {raw masked : List (List Char)} (hlen : masked.length ≤ raw.length)
    {places : List (Nat × Nat)} (h : ∀ p ∈ places, p.1 < masked.length) :
    ∃ r, handlerFrom raw masked places = .ok r ∧
      r.map (fun h => (h.returnType, h.name)) = signatureFrom? masked places := by
  induction places with
  | nil => exact ⟨none, rfl, rfl⟩
  | cons p places ih =>
    obtain ⟨i, start⟩ := p
    have hi : i < masked.length := h (i, start) (by simp)
    rw [handlerFrom, signatureFrom?, List.findSome?_cons]
    simp only [List.getElem?_eq_getElem hi, Option.bind_some]
    cases hm : signaturePattern.searchFrom? masked[i] start with
    | none => exact ih fun p hp => h p (List.mem_cons_of_mem _ hp)
    | some m =>
      obtain ⟨s, e, hspan⟩ := signaturePattern_binds.searchIn? hm
      simp only [hspan, List.getElem?_eq_getElem (Nat.lt_of_lt_of_le hi hlen)]
      exact ⟨_, rfl, rfl⟩

/-- The places where a handler is looked for are lines of the text. -/
theorem handlerPlaces_lt {limits : ExtractionLimits} {count i start : Nat} (hi : i < count) :
    ∀ p ∈ handlerPlaces limits count i start, p.1 < count := by
  intro p hp
  rcases List.mem_cons.1 hp with rfl | hp
  · exact hi
  · obtain ⟨j, hj, rfl⟩ := List.mem_map.1 hp
    rw [List.mem_range'_1] at hj
    show j < count
    omega

/-- What an endpoint serves: method and path, and the name and the return type of its handler. -/
structure Route where
  method : HttpMethod
  path : String
  handler : String
  returnType : String
deriving DecidableEq

def Endpoint.route (e : Endpoint) : Route :=
  ⟨e.method, e.path, e.handler, e.returnType⟩

/-- The route that a mapping annotation on line `i` announces. -/
def Mapping.route? (limits : ExtractionLimits) (masked : List (List Char)) (root : List Char) (i : Nat) (m : Mapping) :
    Option Route :=
  if limits.maxPathLength < m.path.length then none
  else (signatureFrom? masked (handlerPlaces limits masked.length i m.stop)).map fun signature =>
    ⟨m.method, String.ofList (normalizePath root m.path), String.ofList signature.2, String.ofList signature.1⟩

/-- The mapping annotation on line `i`, if there is one. -/
def mappingAt? (raw : List (List Char)) (declarationLine i : Nat) (line : List Char) : Option Mapping :=
  raw[i]?.bind fun rawLine => (mappingOn rawLine line (declarationLine < i)).toOption.join

/-- A line of a class has an endpoint or none, and the route that the specification gives it. -/
theorem endpointAt_returns (limits : ExtractionLimits) {raw masked : List (List Char)} (root className : List Char)
    (declarationLine : Nat) {i : Nat} (line : List Char) (hlen : masked.length ≤ raw.length) (hi : i < masked.length) :
    ∃ r, endpointAt limits raw masked root className declarationLine i line = .ok r ∧
      r.map Endpoint.route = (mappingAt? raw declarationLine i line).bind (Mapping.route? limits masked root i) := by
  have hraw := List.getElem?_eq_getElem (Nat.lt_of_lt_of_le hi hlen)
  obtain ⟨found, hfound⟩ := mappingOn_returns raw[i] line (declarationLine < i)
  have hmapping : mappingAt? raw declarationLine i line = found := by
    rw [mappingAt?, hraw, Option.bind_some, hfound]
    rfl
  rw [hmapping]
  simp only [endpointAt, hraw, hfound]
  cases found with
  | none => exact ⟨none, rfl, rfl⟩
  | some m =>
    simp only [Option.bind_some, Mapping.route?, bind, Except.bind]
    split
    · exact ⟨none, rfl, rfl⟩
    · have hplaces : ∀ p ∈ handlerPlaces limits masked.length i m.stop, p.1 < masked.length := handlerPlaces_lt hi
      obtain ⟨h, hh, hsignature⟩ := handlerFrom_returns hlen hplaces
      rw [← hsignature, hh]
      cases h with
      | none => exact ⟨none, rfl, rfl⟩
      | some h => exact ⟨_, rfl, rfl⟩

/-! ## Facts -/

/-- The routes of a controller, in source order. -/
def routes (limits : ExtractionLimits) (text : List Char) (d : Source.TypeDeclaration) : List Route :=
  let masked := Source.mask text
  (Text.lines masked).zipIdx.filterMap fun (line, i) =>
    (mappingAt? (Text.lines text) (Text.newlinesBefore masked d.start) i line).bind
      (Mapping.route? limits (Text.lines masked) (classPath text masked d) i)

theorem endpoints_returns (limits : ExtractionLimits) (text : List Char) (d : Source.TypeDeclaration) :
    ∃ es, endpoints limits text (Source.mask text) d = .ok es ∧ es.map Endpoint.route = routes limits text d := by
  have hlen := length_lines_mask_le text
  have hline : ∀ x ∈ (Text.lines (Source.mask text)).zipIdx, x.2 < (Text.lines (Source.mask text)).length := by
    intro x hx
    have hlt := List.mem_zipIdx hx
    omega
  obtain ⟨found, hfound, hroutes⟩ := mapM_returns_map fun x hx =>
    endpointAt_returns limits (classPath text (Source.mask text) d) d.name
      (Text.newlinesBefore (Source.mask text) d.start) x.1 hlen (hline x hx)
  refine ⟨found.filterMap id, bind_eq_ok.2 ⟨found, hfound, rfl⟩, ?_⟩
  -- lines without an endpoint are left out before or after the routes are taken
  calc (found.filterMap id).map Endpoint.route
      = (found.map (Option.map Endpoint.route)).filterMap id := by
        rw [List.map_filterMap, List.filterMap_map]
        rfl
    _ = routes limits text d := by
        rw [hroutes, List.filterMap_map]
        rfl

/-- The fact of a file without its endpoints. -/
def outlineOf (path : String) (masked : List Char) (d : Source.TypeDeclaration) : ClassFact :=
  let annotations := (Source.annotationNames masked).map String.ofList
  { name := String.ofList d.name
    packageName := (Source.packageName? masked).map String.ofList
    stereotype := stereotypeOf d.kind annotations
    annotations := Text.distinct annotations
    superclass := d.superclass?.map String.ofList
    interfaces := d.interfaces.map String.ofList
    fieldCount := (fieldPattern.findAll masked).length
    methodCount := (methodPattern.findAll masked).length
    filePath := path }

theorem declaration?_name {masked : List Char} {d : Source.TypeDeclaration} (h : Source.declaration? masked = some d) :
    d.name ≠ [] := by
  obtain ⟨m, hm, rfl⟩ := Option.map_eq_some_iff.1 h
  exact declarationPattern_binds.search? hm

theorem extract_of_none (limits : ExtractionLimits) (path : String) {text : List Char}
    (h : Source.declaration? (Source.mask text) = none) : extract limits path text = .ok none := by
  simp only [extract, h]
  rfl

/-- **The fact of a text with a declaration**: its outline, which the mask decides, and its routes. -/
theorem extract_of_some (limits : ExtractionLimits) (path : String) {text : List Char} {d : Source.TypeDeclaration}
    (h : Source.declaration? (Source.mask text) = some d) :
    ∃ es, extract limits path text = .ok (some { outlineOf path (Source.mask text) d with endpoints := es }) ∧
      es.map Endpoint.route =
        if (outlineOf path (Source.mask text) d).stereotype.isController then routes limits text d else [] := by
  have hchecked : ClassFact.checked { outlineOf path (Source.mask text) d with
      annotations := (Source.annotationNames (Source.mask text)).map String.ofList } =
      .ok (outlineOf path (Source.mask text) d) := by
    have hname : (String.ofList d.name).isEmpty = false := by simp [declaration?_name h]
    exact if_neg (by simpa [outlineOf] using hname)
  simp only [extract, h]
  by_cases hcontroller : (outlineOf path (Source.mask text) d).stereotype.isController
  · obtain ⟨es, hes, hroutes⟩ := endpoints_returns limits text d
    refine ⟨es, bind_eq_ok.2 ⟨_, hchecked, ?_⟩, by rw [if_pos hcontroller, hroutes]⟩
    exact (if_pos hcontroller).trans (bind_eq_ok.2 ⟨es, hes, rfl⟩)
  · refine ⟨[], bind_eq_ok.2 ⟨_, hchecked, ?_⟩, by rw [if_neg hcontroller]; rfl⟩
    exact if_neg hcontroller

/-- The places that extraction looks at in a text are there: line numbers of the mask are line numbers of the text, also
    those of the lines behind a mapping annotation, the annotation names a method, and a declaration has a name. -/
structure Extractable (limits : ExtractionLimits) (text : List Char) : Prop where
  newlines : (Source.mask text).count '\n' ≤ text.count '\n'
  lines : ∀ i < (Text.lines (Source.mask text)).length, i < (Text.lines text).length
  window : ∀ i < (Text.lines (Source.mask text)).length, ∀ start,
    ∀ place ∈ handlerPlaces limits (Text.lines (Source.mask text)).length i start,
      place.1 < (Text.lines (Source.mask text)).length ∧ place.1 < (Text.lines text).length
  verbs : ∀ line m, mappingPattern.search? line = some m → ∃ method, HttpMethod.ofName? (m.group line 1) = some method
  named : ∀ d, Source.declaration? (Source.mask text) = some d → d.name ≠ []

/-- **Facts can be extracted from every text.** -/
theorem extractable (limits : ExtractionLimits) (text : List Char) : Extractable limits text where
  newlines := count_newline_le_of_kept (Source.mask_kept text)
  lines := fun _ hi => Nat.lt_of_lt_of_le hi (length_lines_mask_le text)
  window := fun i hi start place hplace => by
    have hmasked := handlerPlaces_lt hi place hplace
    exact ⟨hmasked, Nat.lt_of_lt_of_le hmasked (length_lines_mask_le text)⟩
  verbs := fun _ _ hm => ofName?_mapping (mappingPattern_binds.search? hm)
  named := fun _ => declaration?_name

/-- **Extraction does not fail**, whatever the path, the text and the limits are. It gives a fact, and then one with a
    name, exactly if the text declares a type. -/
theorem extract_completes (limits : ExtractionLimits) (path : String) (text : List Char) :
    Extractable limits text ∧ ∃ r, extract limits path text = .ok r ∧
      (r.isSome ↔ (Source.declaration? (Source.mask text)).isSome) ∧ ∀ f, r = some f → f.name ≠ "" := by
  refine ⟨extractable limits text, ?_⟩
  cases h : Source.declaration? (Source.mask text) with
  | none => exact ⟨none, extract_of_none limits path h, Iff.rfl, fun _ hf => nomatch hf⟩
  | some d =>
    obtain ⟨es, hes, -⟩ := extract_of_some limits path h
    refine ⟨_, hes, Iff.rfl, fun f hf => ?_⟩
    cases hf
    show String.ofList d.name ≠ ""
    rw [Ne, ← String.toList_eq_nil_iff, String.toList_ofList]
    exact (extractable limits text).named d h

/-! ## Outlines -/

/-- The fact without its endpoints. -/
def ClassFact.outline (f : ClassFact) : ClassFact :=
  { f with endpoints := [] }

/-- **Texts with the same mask have facts with the same outline**, and the same routes where the routes of the declared
    controller are the same. -/
theorem extract_outline (limits : ExtractionLimits) (path : String) {text text' : List Char}
    (h : Source.mask text = Source.mask text') :
    ∃ r r', extract limits path text = .ok r ∧ extract limits path text' = .ok r' ∧
      r.map ClassFact.outline = r'.map ClassFact.outline ∧
      ((∀ d, Source.declaration? (Source.mask text) = some d →
          (outlineOf path (Source.mask text) d).stereotype.isController → routes limits text d = routes limits text' d) →
        r.map (fun f => f.endpoints.map Endpoint.route) = r'.map fun f => f.endpoints.map Endpoint.route) := by
  cases hd : Source.declaration? (Source.mask text) with
  | none =>
    have hd' : Source.declaration? (Source.mask text') = none := h ▸ hd
    exact ⟨none, none, extract_of_none limits path hd, extract_of_none limits path hd', rfl, fun _ => rfl⟩
  | some d =>
    have hd' : Source.declaration? (Source.mask text') = some d := h ▸ hd
    obtain ⟨es, hes, hroutes⟩ := extract_of_some limits path hd
    obtain ⟨es', hes', hroutes'⟩ := extract_of_some limits path hd'
    rw [← h] at hes' hroutes'
    refine ⟨_, _, hes, hes', rfl, fun hsame => ?_⟩
    simp only [Option.map_some, hroutes, hroutes']
    -- only a controller has routes
    split
    · next hcontroller => rw [hsame d rfl hcontroller]
    · rfl

end SpringAtlas

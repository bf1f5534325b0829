import SpringAtlas.Analysis.Run
import SpringAtlas.Proofs.Outcome

/-!
# `Proofs.Fact.Extract` — facts and the files they come from

An endpoint of an extracted fact is made of a mapping annotation and the handler behind it, and names the class of that
fact. `extractedFacts` is the list of facts that a run over a corpus works on: one for each source file that declares a
type.
-/

namespace SpringAtlas

/-! ## Endpoints -/

/-- **What an endpoint is made of**: the mapping annotation on its line and the handler that is found from there. -/
theorem endpointAt_eq_some {limits : ExtractionLimits} {raw masked : List (List Char)} {root className : List Char}
    {declarationLine i : Nat} {line : List Char} {e : Endpoint}
    (h : endpointAt limits raw masked root className declarationLine i line = .ok (some e)) :
    ∃ (mapping : Mapping) (handler : Handler),
      handlerFrom raw masked (handlerPlaces limits masked.length i mapping.stop) = .ok (some handler) ∧
      e = { method := mapping.method
            path := String.ofList (normalizePath root mapping.path)
            handler := String.ofList handler.name
            returnType := String.ofList handler.returnType
            parameters := String.ofList (Text.squeeze handler.parameters)
            className := some (String.ofList className) } := by
  -- every way out of the reader but the last gives no endpoint
  unfold endpointAt at h
  split at h
  · cases h
  · obtain ⟨found, -, h⟩ := bind_eq_ok.1 h
    split at h
    · cases h
    · next mapping =>
      split at h
      · cases h
      · obtain ⟨found', hhandler, h⟩ := bind_eq_ok.1 h
        split at h
        · cases h
        · next handler =>
          cases h
          exact ⟨mapping, handler, hhandler, rfl⟩

/-- Checking a fact changes nothing but its annotations, which are listed once each. -/
theorem checked_eq_ok {f g : ClassFact} (h : f.checked = .ok g) :
    g = { f with annotations := Text.distinct f.annotations } := by
  unfold ClassFact.checked at h
  split at h
  · cases h
  · cases h
    rfl

/-- The endpoints of a fact are announced on lines of its file, in the class that the file declares. -/
theorem exists_endpointAt_of_mem {limits : ExtractionLimits} {path : String} {text : List Char} {f : ClassFact}
    (h : extract limits path text = .ok (some f)) {e : Endpoint} (he : e ∈ f.endpoints) :
    ∃ (d : Source.TypeDeclaration) (line : List Char) (i : Nat), f.name = String.ofList d.name ∧
      endpointAt limits (Text.lines text) (Text.lines (Source.mask text)) (classPath text (Source.mask text) d) d.name
        (Text.newlinesBefore (Source.mask text) d.start) i line = .ok (some e) := by
  dsimp only [extract] at h
  split at h
  · cases h
  · next d _ =>
    obtain ⟨fact, hfact, h⟩ := bind_eq_ok.1 h
    obtain rfl := checked_eq_ok hfact
    -- only controllers have endpoints
    split at h
    · obtain ⟨es, hes, h⟩ := bind_eq_ok.1 h
      cases h
      obtain ⟨found, hfound, hes⟩ := bind_eq_ok.1 hes
      cases hes
      obtain ⟨e', he', rfl⟩ := List.mem_filterMap.1 he
      obtain ⟨⟨line, i⟩, -, hx⟩ := exists_of_mem_mapM hfound he'
      exact ⟨d, line, i, rfl, hx⟩
    · cases h
      simp at he

/-- **The endpoints of a fact name its class.** -/
theorem extract_className {limits : ExtractionLimits} {path : String} {text : List Char} {f : ClassFact}
    (h : extract limits path text = .ok (some f)) {e : Endpoint} (he : e ∈ f.endpoints) :
    e.className = some f.name := by
  obtain ⟨d, line, i, hname, hendpoint⟩ := exists_endpointAt_of_mem h he
  obtain ⟨mapping, handler, -, rfl⟩ := endpointAt_eq_some hendpoint
  rw [hname]

/-! ## The facts of a corpus -/

/-- The facts of the source files of a corpus. -/
def extractedFacts (limits : ExtractionLimits) (c : Corpus) : List ClassFact :=
  (c.javaFiles.map (extractFile limits)).filterMap Prod.fst

/-- Every fact of a corpus was extracted from one of its files. -/
theorem exists_extract_of_mem {limits : ExtractionLimits} {c : Corpus} {f : ClassFact}
    (h : f ∈ extractedFacts limits c) : ∃ file ∈ c.javaFiles, extract limits file.path file.chars = .ok (some f) := by
  obtain ⟨r, hr, hf⟩ := List.mem_filterMap.1 h
  obtain ⟨file, hfile, rfl⟩ := List.mem_map.1 hr
  refine ⟨file, hfile, ?_⟩
  unfold extractFile at hf
  split at hf
  · next he => rw [he, ← hf]
  · cases hf

end SpringAtlas

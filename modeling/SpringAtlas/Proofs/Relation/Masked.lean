import SpringAtlas.Proofs.Fact.Completion
import SpringAtlas.Proofs.Fact.Extract
import SpringAtlas.Relation.Build

/-!
# `Proofs.Relation.Masked` — relations depend on masks alone

What stands in comments and inside literals is blanked in the mask. Facts do look there, for the paths of their
endpoints, so two corpora with the same masks need not have the same facts. They have the same relations: these are
read from masks, and of a fact they use only what its mask decides, the *outline*.

The argument runs along the chain from texts to relations. Extraction never fails, so texts with the same mask have
facts with the same outline; building an index and scanning a file commute with taking outlines.

## Contents
* `NameIndex.outline`, `ofFacts_outline`, `resolve_outline` — indexes of outlines
* `scanRelations_outline`, `scanRelations_mask` — one file
* `relations_eq_of_sameMasks`, `relations_masked` — all files
-/

namespace SpringAtlas

/-! ## Indexes -/

namespace NameIndex

/-- The index of the outlines. -/
def outline (index : NameIndex) : NameIndex :=
  { index with entries := index.entries.map ClassFact.outline }

theorem find?_outline (index : NameIndex) (name : String) :
    index.outline.find? name = (index.find? name).map ClassFact.outline := by
  unfold find? outline
  rw [List.find?_map]
  rfl

theorem insert_outline (index : NameIndex) (f : ClassFact) : index.outline.insert f.outline = (index.insert f).outline := by
  have hfound : (index.outline.find? f.outline.name).isSome = (index.find? f.name).isSome := by
    rw [find?_outline, Option.isSome_map]
    rfl
  unfold insert
  rw [hfound]
  split
  · rfl
  · simp [outline]

theorem foldl_insert_outline (facts : List ClassFact) (index : NameIndex) :
    (facts.map ClassFact.outline).foldl insert index.outline = (facts.foldl insert index).outline := by
  induction facts generalizing index with
  | nil => rfl
  | cons f facts ih => rw [List.map_cons, List.foldl_cons, insert_outline, ih, List.foldl_cons]

/-- The index of outlines is the outline of the index. -/
theorem ofFacts_outline (facts : List ClassFact) : ofFacts (facts.map ClassFact.outline) = (ofFacts facts).outline :=
  foldl_insert_outline facts ⟨[], []⟩

theorem resolve_outline (index : NameIndex) (name : String) :
    index.outline.resolve name = (index.resolve name).map ClassFact.outline := by
  unfold resolve
  split
  · rfl
  · exact find?_outline index name

end NameIndex

/-! ## Files -/

theorem Reference.resolve?_outline (index : NameIndex) (source : String) (r : Reference) :
    r.resolve? index.outline source = r.resolve? index source := by
  unfold Reference.resolve?
  rw [NameIndex.resolve_outline]
  cases index.resolve (String.ofList r.type) with
  | none => rfl
  | some f =>
    rw [Option.map_some, Option.filter_some, Option.filter_some]
    show Option.map _ (if f.name != source then _ else none) = Option.map _ (if f.name != source then _ else none)
    split
    · rfl
    · rfl

/-- Scanning a file reads outlines only. -/
theorem scanRelations_outline (index : NameIndex) (lookahead : Int) (text : List Char) :
    scanRelations index.outline lookahead text = scanRelations index lookahead text := by
  have hresolve (source : String) : Reference.resolve? index.outline source = Reference.resolve? index source :=
    funext (Reference.resolve?_outline index source)
  simp only [scanRelations, NameIndex.resolve_outline, hresolve]
  cases Source.declaration? (Source.mask text) with
  | none => rfl
  | some d =>
    cases hd : index.resolve (String.ofList d.name) with
    | none => simp [hd]
    | some f => simp [hd, ClassFact.outline, strongReferences, ClassFact.isEntity, ClassFact.hasAnnotation]

/-- **What a text refers to depends on its mask only.** -/
theorem scanRelations_mask {text text' : List Char} (h : Source.mask text = Source.mask text') (index : NameIndex)
    (lookahead : Int) : scanRelations index lookahead text = scanRelations index lookahead text' := by
  simp only [scanRelations, h]

/-! ## Corpora -/

/-- The source files of two corpora have the same paths and the same masks, in order. -/
def Corpus.SameMasks (c c' : Corpus) : Prop :=
  List.Forall₂ (fun f f' : SourceFile => f.path = f'.path ∧ Source.mask f.chars = Source.mask f'.chars)
    c.javaFiles c'.javaFiles

namespace Corpus.SameMasks

variable {c c' : Corpus}

/-- What path and mask decide of a file is the same for both corpora. -/
theorem filterMap_eq (h : c.SameMasks c') {α : Type} {g : SourceFile → Option α}
    (hg : ∀ f f' : SourceFile, f.path = f'.path → Source.mask f.chars = Source.mask f'.chars → g f = g f') :
    c.javaFiles.filterMap g = c'.javaFiles.filterMap g := by
  have hmap : c.javaFiles.map g = c'.javaFiles.map g := by
    rw [← List.forall₂_eq_eq_eq, List.forall₂_map_left_iff, List.forall₂_map_right_iff]
    exact h.imp fun f f' hf => hg f f' hf.1 hf.2
  calc c.javaFiles.filterMap g
      = (c.javaFiles.map g).filterMap id := by rw [List.filterMap_map, Function.id_comp]
    _ = (c'.javaFiles.map g).filterMap id := by rw [hmap]
    _ = c'.javaFiles.filterMap g := by rw [List.filterMap_map, Function.id_comp]

theorem map_outline (h : c.SameMasks c') (limits : ExtractionLimits) :
    (extractedFacts limits c).map ClassFact.outline = (extractedFacts limits c').map ClassFact.outline := by
  unfold extractedFacts
  rw [List.map_filterMap, List.map_filterMap, List.filterMap_map, List.filterMap_map]
  refine h.filterMap_eq fun f f' hpath hmask => ?_
  obtain ⟨r, r', hr, hr', hout, -⟩ := extract_outline limits f.path hmask
  simp only [Function.comp_apply, extractFile, ← hpath, hr, hr']
  exact hout

/-- For one index, the relations are those of the masks. -/
theorem relations_eq (h : c.SameMasks c') (index : NameIndex) (lookahead : Int) :
    relations index lookahead c = relations index lookahead c' := by
  have hscan : c.javaFiles.filterMap (scanRelations index lookahead ∘ SourceFile.chars) =
      c'.javaFiles.filterMap (scanRelations index lookahead ∘ SourceFile.chars) :=
    h.filterMap_eq fun f f' _ hmask => scanRelations_mask hmask index lookahead
  unfold relations relationsOfTexts
  rw [List.filterMap_map, List.filterMap_map, hscan]

end Corpus.SameMasks

/-- Relations do not look at what outlines leave out. -/
theorem relations_outline (index : NameIndex) (lookahead : Int) (c : Corpus) :
    relations index.outline lookahead c = relations index lookahead c := by
  have hscan : scanRelations index.outline lookahead = scanRelations index lookahead :=
    funext (scanRelations_outline index lookahead)
  unfold relations relationsOfTexts
  rw [hscan]

/-- **Corpora with the same masks have the same relations**, each with its own facts. -/
theorem relations_eq_of_sameMasks {c c' : Corpus} (h : c.SameMasks c') (limits : ExtractionLimits) (lookahead : Int) :
    relations (.ofFacts (extractedFacts limits c)) lookahead c =
      relations (.ofFacts (extractedFacts limits c')) lookahead c' := by
  calc relations (.ofFacts (extractedFacts limits c)) lookahead c
      = relations (.ofFacts ((extractedFacts limits c).map ClassFact.outline)) lookahead c := by
        rw [NameIndex.ofFacts_outline, relations_outline]
    _ = relations (.ofFacts ((extractedFacts limits c').map ClassFact.outline)) lookahead c' := by
        rw [h.map_outline, h.relations_eq]
    _ = relations (.ofFacts (extractedFacts limits c')) lookahead c' := by
        rw [NameIndex.ofFacts_outline, relations_outline]

/-- The file with its text masked, if it is a source file. -/
def SourceFile.masked (f : SourceFile) : SourceFile :=
  if f.isJava then { f with text := String.ofList (Source.mask f.chars) } else f

/-- The corpus with the texts of its source files masked. -/
def Corpus.masked (c : Corpus) : Corpus :=
  { c with files := c.files.map SourceFile.masked }

theorem SourceFile.masked_isJava (f : SourceFile) : f.masked.isJava = f.isJava := by
  unfold SourceFile.masked
  split <;> rfl

theorem Corpus.masked_sameMasks (c : Corpus) : c.masked.SameMasks c := by
  have hfiles : c.masked.javaFiles = c.javaFiles.map SourceFile.masked := by
    unfold Corpus.javaFiles Corpus.masked
    rw [List.filter_map, Function.comp_def]
    simp only [SourceFile.masked_isJava]
  unfold Corpus.SameMasks
  rw [hfiles, List.forall₂_map_left_iff, List.forall₂_same]
  intro f hf
  have hjava : f.isJava := (List.mem_filter.1 hf).2
  rw [SourceFile.masked, if_pos hjava]
  refine ⟨rfl, ?_⟩
  rw [SourceFile.chars, String.toList_ofList, Source.mask_mask]

/-- **Comments and the insides of literals do not influence relations**: the corpus with all its source texts masked has
    the relations of the corpus, though the facts are extracted anew. -/
theorem relations_masked (limits : ExtractionLimits) (lookahead : Int) (c : Corpus) :
    relations (.ofFacts (extractedFacts limits c.masked)) lookahead c.masked =
      relations (.ofFacts (extractedFacts limits c)) lookahead c :=
  relations_eq_of_sameMasks c.masked_sameMasks limits lookahead

end SpringAtlas

import SpringAtlas.Proofs.Link.Comments
import SpringAtlas.Proofs.Module.Counts
import SpringAtlas.Proofs.Pattern.Occurrence
import SpringAtlas.Proofs.Text.Blank
import SpringAtlas.Yaml.Document

/-!
# `Proofs.Module.Capabilities` — links and the technologies that a module is said to use

Links are looked for at calls and annotations, the capabilities of a module at the names of types and annotations. A
declared client or a listener is annotated where it is found, so the module is said to use its technology. A call is found
by the name of the variable that it goes to, in any case, and nothing makes the sources spell the type: the flag is set only
if some source of the module does, or an artifact stands for it.

## Contents
* `HasWord`, `HasAnnotation`, `occursIn_wholeWord`, `occursIn_annotated` — what a marker looks for
* `Spells`, `mapServices_uses_iff` — the flags of a described module
* `LinkSource.Calls`, `scanLinks_cases` — calls, and links that come with an annotation
* `ServiceMap.FlagsAgree`, `mapServices_flagsAgree_iff`
-/

namespace SpringAtlas

/-! ## Markers -/

/-- A word stands in a text with no word character on either side. -/
def HasWord (word : String) (text : List Char) : Prop :=
  ∃ pre post, text = pre ++ (word.toList ++ post) ∧ pre.getLast?.any Text.isWord = false ∧
    post.head?.any Text.isWord = false

/-- An annotation stands in a text with no word character behind its name. -/
def HasAnnotation (name : String) (text : List Char) : Prop :=
  ∃ pre post, text = pre ++ ('@' :: (name.toList ++ post)) ∧ post.head?.any Text.isWord = false

section Markers

open Pattern

variable {text : List Char}

theorem occursIn_wholeWord {word : String} (hfirst : word.toList.head?.any Text.isWord)
    (hlast : word.toList.getLast?.any Text.isWord) : (Marker.wholeWord word).occursIn text ↔ HasWord word text := by
  -- the word opens with a word character, so at its start there is an edge if none stands before
  have hedge : ∀ pre post, (placeIn pre (word.toList ++ post)).atWordEdge = !pre.getLast?.any Text.isWord := by
    intro pre post
    cases hword : word.toList with
    | nil =>
      rw [hword] at hfirst
      cases hfirst
    | cons x xs =>
      rw [hword, List.head?_cons, Option.any_some] at hfirst
      simp [Cursor.atWordEdge, placeIn, hfirst]
  rw [occursIn_iff]
  constructor
  · rintro ⟨pre, rest, d, rfl, c, ⟨c', ⟨hbefore, rfl⟩, hlit⟩, hbehind, rfl⟩
    obtain ⟨post, hrest, rfl⟩ := way_lit_iff.1 hlit
    change rest = _ at hrest
    subst hrest
    rw [hedge] at hbefore
    rw [atWordEdge_after hlast] at hbehind
    exact ⟨pre, post, rfl, by simpa using hbefore, by simpa using hbehind⟩
  · rintro ⟨pre, post, rfl, hbefore, hbehind⟩
    refine ⟨pre, word.toList ++ post, _, rfl, _, ⟨_, ⟨?_, rfl⟩, way_lit_iff.2 ⟨post, rfl, rfl⟩⟩, ?_, rfl⟩
    · rw [hedge, hbefore]
      rfl
    · rw [atWordEdge_after hlast, hbehind]
      rfl

/-- A marker of annotations looks for an at sign and one of the names, with no word character behind it. -/
theorem occursIn_annotated {names : List String} (hne : names ≠ [])
    (hlast : ∀ name ∈ names, name.toList.getLast?.any Text.isWord) :
    (Marker.annotated names).occursIn text ↔ ∃ name ∈ names, HasAnnotation name text := by
  rw [occursIn_iff]
  constructor
  · rintro ⟨pre, rest, d, rfl, c, ⟨c', hat, hname⟩, hbehind, rfl⟩
    obtain ⟨rest', hrest, rfl⟩ := way_lit_iff.1 hat
    obtain ⟨name, hmem, hname⟩ := (way_oneOf_iff hne).1 hname
    obtain ⟨post, hrest', rfl⟩ := way_lit_iff.1 hname
    change rest = _ at hrest
    change rest' = _ at hrest'
    subst hrest hrest'
    rw [atWordEdge_after (hlast name hmem)] at hbehind
    exact ⟨name, hmem, pre, post, rfl, by simpa using hbehind⟩
  · rintro ⟨name, hmem, pre, post, rfl, hbehind⟩
    refine ⟨pre, '@' :: (name.toList ++ post), _, rfl, _,
      ⟨_, way_lit_iff.2 ⟨name.toList ++ post, rfl, rfl⟩,
        (way_oneOf_iff hne).2 ⟨name, hmem, way_lit_iff.2 ⟨post, rfl, rfl⟩⟩⟩, ?_, rfl⟩
    rw [atWordEdge_after (hlast name hmem), hbehind]
    rfl

/-- An annotation that is found with its arguments. -/
theorem hasAnnotation_of_mem_findAll (name : String) {m : Match}
    (h : m ∈ (lit ("@" ++ name) ++ blanks ++ lit "(").findAll text) : HasAnnotation name text := by
  obtain ⟨pre, rest, d, rfl, c, ⟨c', hname, hblanks⟩, hopen⟩ := exists_way_of_mem_findAll h
  obtain ⟨rest', hrest, rfl⟩ := way_lit_iff.1 hname
  obtain ⟨xs, rest'', hrest', hxs, rfl⟩ := way_star_one hblanks
  obtain ⟨post, hrest'', -⟩ := way_lit_iff.1 hopen
  change rest = _ at hrest
  change rest' = _ at hrest'
  change rest'' = _ at hrest''
  subst hrest hrest' hrest''
  refine ⟨pre, xs ++ ("(".toList ++ post), by simp, ?_⟩
  -- a blank or the parenthesis follows
  cases xs with
  | nil =>
    show Text.isWord '(' = false
    decide
  | cons x xs =>
    rw [List.cons_append, List.head?_cons, Option.any_some]
    exact not_isWord_of_isBlank (hxs x List.mem_cons_self)

end Markers

/-! ## Flags -/

deriving instance ReflBEq, LawfulBEq for Marker

/-- The flag that says whether a module uses a technology. -/
def Capabilities.uses (c : Capabilities) : Technology → Bool
  | .restTemplate => c.restTemplate
  | .webClient => c.webClient
  | .feignClient => c.feignClients
  | .kafka => c.kafka
  | .rabbitmq => c.rabbitmq
  | .jms => c.jms
  | .grpc => c.grpc
  | _ => false

/-- The technologies that source files show. -/
def Technology.isScanned (t : Technology) : Bool :=
  [restTemplate, webClient, feignClient, kafka, rabbitmq].contains t

/-- The technologies that a module lists are those whose flags are set. -/
theorem mem_methods_iff {c : Capabilities} {routes : Bool} {t : Technology} (h : t.isScanned = true) :
    t ∈ c.methods routes ↔ c.uses t = true := by
  cases t with
  | restTemplate | webClient | feignClient | kafka | rabbitmq => simp [Capabilities.methods, Capabilities.uses]
  | _ => cases h

theorem mentions_iff {artifacts : List String} {texts : List (List Char)} {m : Marker} :
    (Profile.ofSources artifacts texts).mentions m = true ↔ ∃ text ∈ texts, m.pattern.occursIn text = true := by
  have hall : m ∈ Marker.all := by cases m <;> decide
  simp [Profile.mentions, Profile.ofSources, hall]

/-- The identifier of an artifact that the module depends on contains one of the pieces. -/
def BuildModule.DependsOn (m : BuildModule) (pieces : List String) : Prop :=
  ∃ artifact ∈ m.dependencies, ∃ piece ∈ pieces, Text.contains piece.toList artifact.toList = true

/-- The sources or the artifacts of a module spell a technology. -/
def Spells (m : BuildModule) (texts : List (List Char)) : Technology → Prop
  | .restTemplate => ∃ text ∈ texts, HasWord "RestTemplate" text
  | .webClient => ∃ text ∈ texts, HasWord "WebClient" text
  | .feignClient => m.DependsOn ["openfeign"] ∨
      ∃ text ∈ texts, HasAnnotation "FeignClient" text ∨ HasAnnotation "EnableFeignClients" text
  | .kafka => m.DependsOn ["kafka"] ∨
      ∃ text ∈ texts, HasAnnotation "KafkaListener" text ∨ HasWord "KafkaTemplate" text
  | .rabbitmq => m.DependsOn ["rabbitmq", "amqp"] ∨
      ∃ text ∈ texts, HasAnnotation "RabbitListener" text ∨ HasWord "RabbitTemplate" text
  | _ => False

theorem uses_iff {m : BuildModule} {texts : List (List Char)}
    (h : m.capabilities = (Profile.ofSources m.dependencies texts).capabilities) {t : Technology}
    (ht : t.isScanned = true) : m.capabilities.uses t = true ↔ Spells m texts t := by
  have hdeclares : ∀ pieces, (Profile.ofSources m.dependencies texts).declares pieces = true ↔ m.DependsOn pieces := by
    intro pieces
    simp [Profile.declares, Profile.ofSources, BuildModule.DependsOn]
  rw [h]
  cases t with
  | restTemplate =>
    refine mentions_iff.trans (exists_congr fun text => and_congr_right fun _ => ?_)
    exact occursIn_wholeWord (by decide) (by decide)
  | webClient =>
    refine mentions_iff.trans (exists_congr fun text => and_congr_right fun _ => ?_)
    exact occursIn_wholeWord (by decide) (by decide)
  | feignClient =>
    refine (Bool.or_eq_true _ _).to_iff.trans (or_congr (hdeclares _) ?_)
    refine mentions_iff.trans (exists_congr fun text => and_congr_right fun _ => ?_)
    refine (occursIn_annotated (by decide) (by decide)).trans ?_
    simp
  | kafka =>
    refine (Bool.or_eq_true _ _).to_iff.trans (or_congr (hdeclares _) ?_)
    refine mentions_iff.trans (exists_congr fun text => and_congr_right fun _ => ?_)
    refine Pattern.occursIn_alt.trans (or_congr ?_ (occursIn_wholeWord (by decide) (by decide)))
    refine (occursIn_annotated (by decide) (by decide)).trans ?_
    simp
  | rabbitmq =>
    refine (Bool.or_eq_true _ _).to_iff.trans (or_congr (hdeclares _) ?_)
    refine mentions_iff.trans (exists_congr fun text => and_congr_right fun _ => ?_)
    refine Pattern.occursIn_alt.trans (or_congr ?_ (occursIn_wholeWord (by decide) (by decide)))
    refine (occursIn_annotated (by decide) (by decide)).trans ?_
    simp
  | _ => cases ht

/-! ## Modules -/

/-- The masked sources of a module that are not tests. -/
def moduleTexts (c : Corpus) (modules : List BuildModule) (m : BuildModule) : List (List Char) :=
  ((linkedFiles c).filter fun f => isOwnedBy modules m f.path).map fun f => Source.mask f.chars

theorem maskedSources_eq (c : Corpus) (modules : List BuildModule) (m : BuildModule) :
    (maskedSources (c.files.filter fun f => isOwnedBy modules m f.path)).map Prod.snd = moduleTexts c modules m := by
  unfold maskedSources moduleTexts linkedFiles Corpus.javaFiles
  rw [List.map_map, List.filter_filter, List.filter_filter, List.filter_filter]
  refine congrArg (List.map _) (List.filter_congr fun f _ => ?_)
  rw [Bool.and_comm (f.isJava), Bool.and_comm, Bool.and_assoc]

/-- A description takes the capabilities from the artifacts and the sources. -/
theorem describeModule_capabilities [Yaml.Loader] {m : BuildModule} {files : List SourceFile}
    {descriptor : Option BuildDescriptor} {owned : List ClassFact} {r : BuildModule × List Problem}
    (h : describeModule m files descriptor owned = .ok r) :
    r.1.capabilities = (Profile.ofSources r.1.dependencies ((maskedSources files).map Prod.snd)).capabilities := by
  dsimp only [describeModule] at h
  obtain ⟨settings, -, h⟩ := bind_eq_ok.1 h
  cases h
  rfl

section Map

variable [Yaml.Loader] {maxDepth : Int} {c : Corpus} {facts : List ClassFact} {services : ServiceMap}

theorem mapServices_uses_iff (h : mapServices maxDepth c facts = .ok services) {m : BuildModule}
    (hm : m ∈ services.modules) {t : Technology} (ht : t.isScanned = true) :
    m.capabilities.uses t = true ↔ Spells m (moduleTexts c (detectModules maxDepth c) m) t := by
  obtain ⟨described, hd, rfl⟩ := mapServices_eq_ok.1 h
  obtain ⟨r, hr, rfl⟩ := List.mem_map.1 hm
  obtain ⟨m₀, -, hdescribe⟩ := exists_of_mem_mapM hd hr
  -- describing a module does not move it, so it owns the same files
  have howned : moduleTexts c (detectModules maxDepth c) m₀ = moduleTexts c (detectModules maxDepth c) r.1 := by
    unfold moduleTexts isOwnedBy
    rw [(describeModule_eq_ok hdescribe).2.1]
  refine uses_iff ?_ ht
  rw [describeModule_capabilities hdescribe, maskedSources_eq, howned]

end Map

/-! ## Calls -/

namespace LinkSource

/-- A file calls another service or sends a message, whatever the name of the type is. -/
def Calls (s : LinkSource) : Technology → Prop
  | .restTemplate => restTemplatePattern.findAll s.masked ≠ []
  | .webClient => ∃ call ∈ uriCallPattern.findAll s.masked, webClientReceiver.occursIn (s.statement call) = true
  | .kafka => Broker.kafka.sender.findAll s.masked ≠ []
  | .rabbitmq => Broker.rabbitmq.sender.findAll s.masked ≠ []
  | _ => False

/-- A file declares a client or a listener. -/
def Annotates (s : LinkSource) : Technology → Prop
  | .feignClient => HasAnnotation "FeignClient" s.masked
  | .kafka => HasAnnotation "KafkaListener" s.masked
  | .rabbitmq => HasAnnotation "RabbitListener" s.masked
  | _ => False

variable {s : LinkSource} {l : Link}

theorem callLinks_cases (h : l ∈ s.callLinks) :
    l.technology.isScanned = true ∧ (s.Calls l.technology ∨ s.Annotates l.technology) := by
  rcases List.mem_append.1 h with h | h
  · rcases List.mem_append.1 h with h | h
    · obtain ⟨m, hm, rfl⟩ := List.mem_map.1 h
      exact ⟨rfl, Or.inr (hasAnnotation_of_mem_findAll "FeignClient" hm)⟩
    · obtain ⟨m, hm, rfl⟩ := List.mem_map.1 h
      exact ⟨rfl, Or.inl (List.ne_nil_of_mem hm)⟩
  · obtain ⟨m, hm, hlink⟩ := List.mem_filterMap.1 h
    have houtline := congrArg (Option.map Link.outline) hlink
    rw [webClientLink?_outline, Option.map_some, Option.ite_none_right_eq_some] at houtline
    have htechnology : Technology.webClient = l.technology := congrArg Link.technology (Option.some.inj houtline.2)
    rw [← htechnology]
    exact ⟨rfl, Or.inl ⟨m, hm, houtline.1⟩⟩

theorem brokerLinks_cases {b : Broker} (h : l ∈ brokerLinks b s) :
    l.technology = b.technology ∧ (b.sender.findAll s.masked ≠ [] ∨ ∃ m, m ∈ b.listener.findAll s.masked) := by
  refine ⟨congrArg Link.technology (outline_of_mem_brokerLinks h), ?_⟩
  by_cases hsender : b.sender.findAll s.masked = []
  · refine Or.inr (List.exists_mem_of_ne_nil _ fun hlistener => ?_)
    exact List.ne_nil_of_mem h ((brokerLinks_eq_nil_iff b s).2 ⟨hlistener, hsender⟩)
  · exact Or.inl hsender

theorem exists_mem_brokerLinks {b : Broker} (h : b.sender.findAll s.masked ≠ []) :
    ∃ l ∈ brokerLinks b s, l.technology = b.technology := by
  obtain ⟨l, hl⟩ := List.exists_mem_of_ne_nil _ fun hnil => h ((brokerLinks_eq_nil_iff b s).1 hnil).2
  exact ⟨l, hl, congrArg Link.technology (outline_of_mem_brokerLinks hl)⟩

theorem exists_mem_webClientLinks {call : Match} (h : call ∈ uriCallPattern.findAll s.masked)
    (hclient : webClientReceiver.occursIn (s.statement call) = true) :
    ∃ l ∈ webClientLinks s, l.technology = .webClient := by
  have houtline := webClientLink?_outline s (baseUrl? s) (loadBalancedPattern.occursIn s.masked) call
  rw [if_pos hclient] at houtline
  obtain ⟨l, hl, hcall⟩ := Option.map_eq_some_iff.1 houtline
  exact ⟨l, List.mem_filterMap.2 ⟨call, h, hl⟩, congrArg Link.technology hcall⟩

end LinkSource

/-- Every link of a file is a call or comes with an annotation. -/
theorem scanLinks_cases {service : String} {f : SourceFile} {l : Link} (h : l ∈ scanLinks service f) :
    l.technology.isScanned = true ∧ ((LinkSource.ofFile service f).Calls l.technology ∨
      (LinkSource.ofFile service f).Annotates l.technology) := by
  rw [scanLinks_eq] at h
  rcases List.mem_append.1 h with h | h
  · exact LinkSource.callLinks_cases h
  · rcases List.mem_append.1 h with h | h
    · obtain ⟨htechnology, hcases⟩ := LinkSource.brokerLinks_cases h
      rw [htechnology]
      refine ⟨rfl, hcases.imp id fun ⟨m, hm⟩ => ?_⟩
      exact hasAnnotation_of_mem_findAll "KafkaListener" hm
    · obtain ⟨htechnology, hcases⟩ := LinkSource.brokerLinks_cases h
      rw [htechnology]
      refine ⟨rfl, hcases.imp id fun ⟨m, hm⟩ => ?_⟩
      exact hasAnnotation_of_mem_findAll "RabbitListener" hm

/-- Every call is shown as a link. -/
theorem exists_mem_scanLinks_of_calls {service : String} {f : SourceFile} {t : Technology}
    (h : (LinkSource.ofFile service f).Calls t) : ∃ l ∈ scanLinks service f, l.technology = t := by
  simp only [scanLinks_eq, LinkSource.callLinks, List.mem_append]
  cases t with
  | restTemplate =>
    obtain ⟨m, hm⟩ := List.exists_mem_of_ne_nil _ h
    exact ⟨_, Or.inl (Or.inl (Or.inr (List.mem_map_of_mem hm))), rfl⟩
  | webClient =>
    obtain ⟨call, hcall, hclient⟩ := h
    obtain ⟨l, hl, htechnology⟩ := LinkSource.exists_mem_webClientLinks hcall hclient
    exact ⟨l, Or.inl (Or.inr hl), htechnology⟩
  | kafka =>
    obtain ⟨l, hl, htechnology⟩ := LinkSource.exists_mem_brokerLinks h
    exact ⟨l, Or.inr (Or.inl hl), htechnology⟩
  | rabbitmq =>
    obtain ⟨l, hl, htechnology⟩ := LinkSource.exists_mem_brokerLinks h
    exact ⟨l, Or.inr (Or.inr hl), htechnology⟩
  | _ => exact h.elim

/-- A file that declares a client or a listener spells its technology. -/
theorem spells_of_annotates {m : BuildModule} {texts : List (List Char)} {s : LinkSource} {t : Technology}
    (h : s.Annotates t) (hs : s.masked ∈ texts) : Spells m texts t := by
  cases t with
  | feignClient | kafka | rabbitmq => exact Or.inr ⟨s.masked, hs, Or.inl h⟩
  | _ => exact h.elim

/-! ## Agreement -/

/-- Every link that a source of a module shows has its flag set, and its technology is listed. -/
def ServiceMap.FlagsAgree (s : ServiceMap) (c : Corpus) (detected : List BuildModule) : Prop :=
  ∀ m ∈ s.modules, ∀ f ∈ linkedFiles c, isOwnedBy detected m f.path = true → ∀ l ∈ scanLinks m.name f,
    m.capabilities.uses l.technology = true ∧ l.technology ∈ m.methods

/-- Every technology that a source of a module calls through is spelled in the module. -/
def ServiceMap.SpellsCalls (s : ServiceMap) (c : Corpus) (detected : List BuildModule) : Prop :=
  ∀ m ∈ s.modules, ∀ f ∈ linkedFiles c, isOwnedBy detected m f.path = true → ∀ t,
    (LinkSource.ofFile m.name f).Calls t → Spells m (moduleTexts c detected m) t

section Map

variable [Yaml.Loader] {maxDepth : Int} {c : Corpus} {facts : List ClassFact} {services : ServiceMap}

/-- **Links and capabilities agree where the sources spell the types they call.** In the map of a corpus every link that a
    source of a module shows has the flag of its technology set, and the technology listed, if and only if each module
    spells the technologies that its sources call through: by the type of the client or the template, a listener of the
    broker, or an artifact. Declared clients and listeners need nothing more. -/
theorem mapServices_flagsAgree_iff (h : mapServices maxDepth c facts = .ok services) :
    services.FlagsAgree c (detectModules maxDepth c) ↔ services.SpellsCalls c (detectModules maxDepth c) := by
  constructor
  · intro hagree m hm f hf howned t hcalls
    obtain ⟨l, hl, rfl⟩ := exists_mem_scanLinks_of_calls hcalls
    exact (mapServices_uses_iff h hm (scanLinks_cases hl).1).1 (hagree m hm f hf howned l hl).1
  · intro hspells m hm f hf howned l hl
    obtain ⟨hscanned, hcases⟩ := scanLinks_cases hl
    have htext : (LinkSource.ofFile m.name f).masked ∈ moduleTexts c (detectModules maxDepth c) m :=
      List.mem_map.2 ⟨f, List.mem_filter.2 ⟨hf, howned⟩, rfl⟩
    have hspelled : Spells m (moduleTexts c (detectModules maxDepth c) m) l.technology := by
      rcases hcases with hcalls | hannotates
      · exact hspells m hm f hf howned l.technology hcalls
      · exact spells_of_annotates hannotates htext
    have huses := (mapServices_uses_iff h hm hscanned).2 hspelled
    exact ⟨huses, (mem_methods_iff hscanned).2 huses⟩

end Map

/-- A class that calls a service through a template, behind the declarations of its fields. -/
def callingFile (fields : String) : SourceFile where
  path := "A.java"
  text := "class A \x7b " ++ fields ++ "void f() \x7b restTemplate.put(\"http://b/x\"); \x7d \x7d"

def callingCorpus (fields : String) : Corpus where
  files := [callingFile fields]
  descriptors := []

theorem callingCorpus_sorted (fields : String) : (detectModules 3 (callingCorpus fields)).Pairwise
    fun m n => n.rootPath.length ≤ m.rootPath.length :=
  List.pairwise_singleton _ _

theorem linkedFiles_callingCorpus (fields : String) : linkedFiles (callingCorpus fields) = [callingFile fields] := by
  have hjava : (callingFile fields).isJava = true := by
    show (String.ofList (Path.suffix "A.java".toList) == ".java") = true
    decide
  have htest : (callingFile fields).isTest = false := by
    show Path.isTest "A.java".toList = false
    decide
  simp [linkedFiles, Corpus.javaFiles, callingCorpus, hjava, htest]

/-- In a map with one module and one call, the flag of the call is the one that counts. -/
theorem flagsAgree_calling_iff [Yaml.Loader] {fields : String} {services : ServiceMap} {m : BuildModule}
    (h : mapServices 3 (callingCorpus fields) [] = .ok services) (hmodules : services.modules = [m])
    (hlinks : (scanLinks "root" (callingFile fields)).map Link.technology = [.restTemplate]) :
    services.FlagsAgree (callingCorpus fields) (detectModules 3 (callingCorpus fields)) ↔
      m.capabilities.restTemplate = true ∧ Technology.restTemplate ∈ m.methods := by
  obtain ⟨n, hn, hname, hroot⟩ := exists_detected (mapServices_names_roots h) (hmodules ▸ List.mem_singleton_self m)
  obtain rfl : n = { name := "root" } := List.mem_singleton.1 hn
  have howned : isOwnedBy (detectModules 3 (callingCorpus fields)) m (callingFile fields).path = true := by
    rw [isOwnedBy, ownerOf?_eq_find? (callingCorpus_sorted fields), ← hroot]
    rfl
  obtain ⟨call, hcall, htechnology⟩ := List.map_eq_singleton_iff.1 hlinks
  unfold ServiceMap.FlagsAgree
  rw [hmodules, linkedFiles_callingCorpus]
  simp only [List.mem_singleton, forall_eq, ← hname, hcall, htechnology]
  exact ⟨fun h => h howned, fun h _ => h⟩

theorem mapServices_flagsAgree_declaredTemplate :
    ∃ services, mapServices 3 (callingCorpus "RestTemplate restTemplate; ") [] = .ok services ∧
      services.links.map Link.technology = [.restTemplate] ∧ services.modules.map BuildModule.methods = [[.restTemplate]] ∧
      services.SpellsCalls (callingCorpus "RestTemplate restTemplate; ")
        (detectModules 3 (callingCorpus "RestTemplate restTemplate; ")) := by
  have hmap : (mapServices 3 (callingCorpus "RestTemplate restTemplate; ") []).toOption.map (fun s =>
        (s.links.map Link.technology, s.modules.map fun m => (m.capabilities.restTemplate, m.methods))) =
      some ([.restTemplate], [(true, [.restTemplate])]) := by
    unfold mapServices ServiceMap.ofModules sourceLinks sourceName describeIn ownedFacts isOwnedBy assignModules
    -- sorting does not evaluate, and one module needs none
    simp only [ownerOf?_eq_find? (callingCorpus_sorted _)]
    decide +kernel
  have hlinks : (scanLinks "root" (callingFile "RestTemplate restTemplate; ")).map Link.technology = [.restTemplate] := by
    decide +kernel
  obtain ⟨services, hservices, hparts⟩ := Option.map_eq_some_iff.1 hmap
  rw [toOption_eq_some] at hservices
  obtain ⟨htechnologies, hmodules⟩ := Prod.mk.inj hparts
  obtain ⟨m, hm, hfields⟩ := List.map_eq_singleton_iff.1 hmodules
  obtain ⟨hflag, hmethods⟩ := Prod.mk.inj hfields
  have hagree := (flagsAgree_calling_iff hservices hm hlinks).2 ⟨hflag, hmethods ▸ List.mem_singleton_self _⟩
  refine ⟨services, hservices, htechnologies, ?_, (mapServices_flagsAgree_iff hservices).1 hagree⟩
  rw [hm, List.map_singleton, hmethods]

/-- **A call that no flag shows**: the template is called by the name of its variable, and no source spells its type. -/
theorem mapServices_not_flagsAgree_inheritedTemplate :
    ∃ services, mapServices 3 (callingCorpus "") [] = .ok services ∧
      services.links.map Link.technology = [.restTemplate] ∧ services.modules.map BuildModule.methods = [[]] ∧
      ¬ services.FlagsAgree (callingCorpus "") (detectModules 3 (callingCorpus "")) := by
  have hmap : (mapServices 3 (callingCorpus "") []).toOption.map (fun s =>
        (s.links.map Link.technology, s.modules.map fun m => (m.capabilities.restTemplate, m.methods))) =
      some ([.restTemplate], [(false, [])]) := by
    unfold mapServices ServiceMap.ofModules sourceLinks sourceName describeIn ownedFacts isOwnedBy assignModules
    simp only [ownerOf?_eq_find? (callingCorpus_sorted _)]
    decide +kernel
  have hlinks : (scanLinks "root" (callingFile "")).map Link.technology = [.restTemplate] := by
    decide +kernel
  obtain ⟨services, hservices, hparts⟩ := Option.map_eq_some_iff.1 hmap
  rw [toOption_eq_some] at hservices
  obtain ⟨htechnologies, hmodules⟩ := Prod.mk.inj hparts
  obtain ⟨m, hm, hfields⟩ := List.map_eq_singleton_iff.1 hmodules
  obtain ⟨hflag, hmethods⟩ := Prod.mk.inj hfields
  refine ⟨services, hservices, htechnologies, by rw [hm, List.map_singleton, hmethods], fun hagree => ?_⟩
  have hset := ((flagsAgree_calling_iff hservices hm hlinks).1 hagree).1
  rw [hflag] at hset
  cases hset

end SpringAtlas

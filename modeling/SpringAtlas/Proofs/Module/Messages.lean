import Mathlib.Data.List.Nodup
import SpringAtlas.Proofs.Link.Resolution
import SpringAtlas.Proofs.Module.Map
import SpringAtlas.Yaml.Document

/-!
# `Proofs.Module.Messages` — which senders are linked to a listener

A producer of a channel is linked to the first other service that listens to it. Files are divided among modules by
directory, but services are told apart by name, and directories in different places may have one name. So a producer that
another module listens to is linked to a service if some listener goes by another name than its own module; where the
names of modules are distinct, it always is.

## Contents
* `givesPeer_iff` — when resolving peers links a producer
* `needsPeer_of_isProducer` — every producer that a file shows asks for a peer
* `ShownIn`, `HeardByName` — producers and listeners of a corpus
* `ServiceMap.LinksMessages`, `mapServices_linksMessages_iff`
-/

namespace SpringAtlas

/-! ## Peers -/

/-- A link is listed with a service as its peer, and not without one. -/
def GivesPeer (links : List Link) (l : Link) : Prop :=
  (∃ peer, { l with target := some peer } ∈ links) ∧ { l with target := none } ∉ links

section Peers

variable {links : List Link} {l : Link}

theorem peerOf?_isSome_iff : (peerOf? links l).isSome ↔ ∃ k ∈ links, k.Hears l ∧ k.source ≠ l.source := by
  rw [peerOf?, Option.isSome_map, List.find?_isSome]
  simp only [Bool.and_eq_true, consumes_iff, bne_iff_ne]

/-- A producer for which there is a peer is not listed without one. -/
theorem not_mem_resolvePeers (hneeds : l.needsPeer = true) (hpeer : (peerOf? links l).isSome) :
    { l with target := none } ∉ resolvePeers links := by
  intro h
  obtain ⟨l₀, -, heq⟩ := List.mem_map.1 h
  split at heq
  · -- the peer does not depend on the target that a link had before
    have hsame : peerOf? links l₀ = peerOf? links l := by
      have hpeers := congrArg (peerOf? links) heq
      exact hpeers
    have hnone : peerOf? links l₀ = none := congrArg Link.target heq
    rw [← hsame, hnone] at hpeer
    cases hpeer
  · next hno =>
    rw [heq] at hno
    unfold Link.needsPeer at hneeds hno
    rw [Bool.and_eq_true] at hneeds
    exact hno (Bool.and_eq_true_iff.2 ⟨hneeds.1, rfl⟩)

/-- A producer that asks for a peer is given one if another service listens. -/
theorem givesPeer_iff (hl : l ∈ links) (hneeds : l.needsPeer = true) :
    GivesPeer (resolvePeers links) l ↔ ∃ k ∈ links, k.Hears l ∧ k.source ≠ l.source := by
  have hlisted : { l with target := peerOf? links l } ∈ resolvePeers links :=
    List.mem_map.2 ⟨l, hl, if_pos hneeds⟩
  rw [← peerOf?_isSome_iff]
  constructor
  · rintro ⟨-, hwithout⟩
    cases hpeer : peerOf? links l with
    | none =>
      rw [hpeer] at hlisted
      exact absurd hlisted hwithout
    | some peer => rfl
  · intro hpeer
    refine ⟨?_, not_mem_resolvePeers hneeds hpeer⟩
    obtain ⟨peer, heq⟩ := Option.isSome_iff_exists.1 hpeer
    exact ⟨peer, heq ▸ hlisted⟩

end Peers

/-! ## Producers -/

section Producers

variable {s : LinkSource} {b : Broker} {l : Link}

theorem isProducer_consumer (channel : Option (List Char)) : (messageLink s b "consumer" channel).isProducer = false := by
  rcases channel with _ | _ | ⟨c, cs⟩
  · rfl
  · rfl
  · have hchannel : (messageLink s b "consumer" (some (c :: cs))).channel =
        some (String.ofList (c :: cs) ++ " (" ++ roleName false ++ ")") := rfl
    exact isProducer_of_channel hchannel

/-- A sender of a known channel asks for a peer. -/
theorem needsPeer_producer {channel : Option (List Char)} (h : (messageLink s b "producer" channel).isProducer = true) :
    (messageLink s b "producer" channel).needsPeer = true := by
  rcases channel with _ | _ | ⟨c, cs⟩
  · cases h
  · cases h
  · have hchannel : (messageLink s b "producer" (some (c :: cs))).channel =
        some (String.ofList (c :: cs) ++ " (" ++ roleName true ++ ")") := rfl
    exact needsPeer_iff.2 ⟨h, ⟨_, channelName?_of_channel hchannel, by simp⟩, Or.inl rfl⟩

/-- Every producer of a broker asks for a peer. -/
theorem needsPeer_of_mem_brokerLinks (h : l ∈ brokerLinks b s) (hproducer : l.isProducer = true) :
    l.needsPeer = true := by
  rcases List.mem_append.1 h with h | h
  · obtain ⟨m, -, h⟩ := List.mem_flatMap.1 h
    obtain ⟨channel, -, rfl⟩ := List.mem_map.1 h
    rw [isProducer_consumer] at hproducer
    cases hproducer
  · obtain ⟨m, -, rfl⟩ := List.mem_map.1 h
    exact needsPeer_producer hproducer

theorem not_isProducer_of_channel (h : l.channel = none) : ¬ l.isProducer = true := by
  unfold Link.isProducer
  rw [h]
  exact Bool.false_ne_true

end Producers

/-- Every producer that a file shows asks for a peer: its channel has a name, and no service is known yet. -/
theorem needsPeer_of_isProducer {service : String} {f : SourceFile} {l : Link} (h : l ∈ scanLinks service f)
    (hproducer : l.isProducer = true) : l.needsPeer = true := by
  rcases List.mem_append.1 h with h | h
  · rcases List.mem_append.1 h with h | h
    · -- calls go through no channel
      refine absurd hproducer (not_isProducer_of_channel ?_)
      rcases List.mem_append.1 h with h | h
      · rcases List.mem_append.1 h with h | h
        · obtain ⟨m, -, rfl⟩ := List.mem_map.1 h
          rfl
        · obtain ⟨m, -, rfl⟩ := List.mem_map.1 h
          rfl
      · obtain ⟨m, -, hm⟩ := List.mem_filterMap.1 h
        dsimp only [webClientLink?] at hm
        split at hm
        · cases hm
        · cases hm
          rfl
    · exact needsPeer_of_mem_brokerLinks h hproducer
  · exact needsPeer_of_mem_brokerLinks h hproducer

theorem not_hears_of_mem_gatewayLinks {m : BuildModule} {k l : Link} (h : k ∈ gatewayLinks m) : ¬ k.Hears l := by
  unfold gatewayLinks at h
  split at h
  · obtain ⟨r, -, rfl⟩ := List.mem_map.1 h
    exact fun hhears => Bool.false_ne_true hhears.consumes
  · cases h

/-! ## Modules -/

/-- A file of a module shows a link. -/
def ShownIn (c : Corpus) (modules : List BuildModule) (m : BuildModule) (l : Link) : Prop :=
  ∃ f ∈ linkedFiles c, ownerOf? modules f.path = some m ∧ l ∈ scanLinks m.name f

section Shown

variable {c : Corpus} {modules : List BuildModule} {m : BuildModule} {l : Link}

/-- A link goes out under the name of the module that shows it. -/
theorem ShownIn.source_eq (h : ShownIn c modules m l) : l.source = m.name := by
  obtain ⟨f, -, -, hl⟩ := h
  exact List.mem_singleton.1 (scanLinks_within (List.mem_singleton.2 rfl) hl).source_mem

theorem ShownIn.mem_modules (h : ShownIn c modules m l) : m ∈ modules := by
  obtain ⟨f, -, howner, -⟩ := h
  exact ownerOf?_mem howner

theorem ShownIn.mem_sourceLinks (h : ShownIn c modules m l) : l ∈ sourceLinks c modules := by
  obtain ⟨f, hf, howner, hl⟩ := h
  have hname : sourceName modules f.path = m.name := by
    unfold sourceName
    rw [howner]
  exact List.mem_flatMap.2 ⟨f, hf, hname ▸ hl⟩

/-- A producer that a module shows asks for a peer. -/
theorem ShownIn.needsPeer (h : ShownIn c modules m l) (hproducer : l.isProducer = true) : l.needsPeer = true := by
  obtain ⟨f, -, -, hl⟩ := h
  exact needsPeer_of_isProducer hl hproducer

theorem exists_shownIn {f : SourceFile} {root : String} {links : List Link} (hf : f ∈ linkedFiles c)
    (h : (ownerOf? modules f.path).map (fun m => (m.rootPath, scanLinks m.name f)) = some (root, links))
    (hl : l ∈ links) : ∃ m, m.rootPath = root ∧ ShownIn c modules m l := by
  obtain ⟨m, howner, heq⟩ := Option.map_eq_some_iff.1 h
  obtain ⟨hroot, hlinks⟩ := Prod.mk.inj heq
  exact ⟨m, hroot, f, hf, howner, hlinks ▸ hl⟩

end Shown

/-- Every producer that another module listens to is heard under another name than that of its own module. -/
def HeardByName (c : Corpus) (modules : List BuildModule) : Prop :=
  ∀ m n l k, ShownIn c modules m l → ShownIn c modules n k → m.rootPath ≠ n.rootPath → l.isProducer = true →
    k.Hears l → ∃ k' ∈ sourceLinks c modules, k'.Hears l ∧ k'.source ≠ m.name

/-- Where modules have distinct names, a listener in another module goes by another name. -/
theorem heardByName_of_nodup {c : Corpus} {modules : List BuildModule} (h : (modules.map BuildModule.name).Nodup) :
    HeardByName c modules := by
  intro m n l k hl hk hroots _ hhears
  refine ⟨k, hk.mem_sourceLinks, hhears, fun hname => hroots ?_⟩
  rw [hk.source_eq] at hname
  rw [List.inj_on_of_nodup_map h hk.mem_modules hl.mem_modules hname]

/-- Every producer of a module that a module with another directory listens to is linked to a service. -/
def ServiceMap.LinksMessages (s : ServiceMap) (c : Corpus) (modules : List BuildModule) : Prop :=
  ∀ m n l k, ShownIn c modules m l → ShownIn c modules n k → m.rootPath ≠ n.rootPath → l.isProducer = true →
    k.Hears l → GivesPeer s.links l

section Map

variable [Yaml.Loader] {maxDepth : Int} {c : Corpus} {facts : List ClassFact} {services : ServiceMap}

/-- A producer of a module is linked to a service if a listener in the sources goes by another name. -/
theorem mapServices_givesPeer_iff (h : mapServices maxDepth c facts = .ok services) {m : BuildModule} {l : Link}
    (hl : ShownIn c (detectModules maxDepth c) m l) (hproducer : l.isProducer = true) :
    GivesPeer services.links l ↔ ∃ k ∈ sourceLinks c (detectModules maxDepth c), k.Hears l ∧ k.source ≠ m.name := by
  obtain ⟨described, -, rfl⟩ := mapServices_eq_ok.1 h
  dsimp only [ServiceMap.ofModules]
  rw [givesPeer_iff (List.mem_append_left _ hl.mem_sourceLinks) (hl.needsPeer hproducer), hl.source_eq]
  constructor
  · rintro ⟨k, hk, hhears, hother⟩
    rcases List.mem_append.1 hk with hk | hk
    · exact ⟨k, hk, hhears, hother⟩
    · obtain ⟨g, -, hk⟩ := List.mem_flatMap.1 hk
      exact absurd hhears (not_hears_of_mem_gatewayLinks hk)
  · rintro ⟨k, hk, hhears, hother⟩
    exact ⟨k, List.mem_append_left _ hk, hhears, hother⟩

/-- **Messages between modules are linked where names tell the modules apart.** In the map of a corpus every producer that
    a module with another directory listens to is linked to a service if and only if each such producer has a listener
    under another name than that of its own module. Distinct names of the modules are enough. -/
theorem mapServices_linksMessages_iff (h : mapServices maxDepth c facts = .ok services) :
    (services.LinksMessages c (detectModules maxDepth c) ↔ HeardByName c (detectModules maxDepth c)) ∧
      (((detectModules maxDepth c).map BuildModule.name).Nodup →
        services.LinksMessages c (detectModules maxDepth c)) := by
  have hiff : services.LinksMessages c (detectModules maxDepth c) ↔ HeardByName c (detectModules maxDepth c) := by
    constructor
    · intro hlinks m n l k hl hk hroots hproducer hhears
      exact (mapServices_givesPeer_iff h hl hproducer).1 (hlinks m n l k hl hk hroots hproducer hhears)
    · intro hheard m n l k hl hk hroots hproducer hhears
      exact (mapServices_givesPeer_iff h hl hproducer).2 (hheard m n l k hl hk hroots hproducer hhears)
  exact ⟨hiff, fun hnames => hiff.2 (heardByName_of_nodup hnames)⟩

end Map

/-! ## Two modules and a channel -/

def senderFile (directory : String) : SourceFile where
  path := directory ++ "/P.java"
  text := "class P \x7b void f() \x7b kafkaTemplate.send(\"t\"); \x7d \x7d"

def listenerFile (directory : String) : SourceFile where
  path := directory ++ "/C.java"
  text := "class C \x7b @KafkaListener(\"t\") void on() \x7b\x7d \x7d"

/-- A sender in one directory and a listener in another one. -/
def channelCorpus (sender listener : String) : Corpus where
  files := [senderFile sender, listenerFile listener]
  descriptors := [.ofFile (sender ++ "/pom.xml") "", .ofFile (listener ++ "/pom.xml") ""]

/-- The sender, under the name of its module. -/
def sentMessage (service : String) (target : Option String) : Link where
  source := service
  technology := .kafka
  target := target
  channel := some "t (producer)"
  isAsync := true
  description := "Kafka producer t"
  className := some "P"

/-- The listener, under the name of its module. -/
def heardMessage (service : String) : Link where
  source := service
  technology := .kafka
  channel := some "t (consumer)"
  isAsync := true
  description := "Kafka consumer t"
  className := some "C"

theorem channelCorpus_sorted_order : (detectModules 3 (channelCorpus "order" "stock")).Pairwise
    fun m n => n.rootPath.length ≤ m.rootPath.length := by
  decide +kernel

theorem channelCorpus_sorted_twins : (detectModules 3 (channelCorpus "a/svc" "b/svc")).Pairwise
    fun m n => n.rootPath.length ≤ m.rootPath.length := by
  decide +kernel

theorem mapServices_linksMessages_order :
    ∃ services, mapServices 3 (channelCorpus "order" "stock") [] = .ok services ∧
      services.links = [sentMessage "order" (some "stock"), heardMessage "stock"] ∧
      services.LinksMessages (channelCorpus "order" "stock") (detectModules 3 (channelCorpus "order" "stock")) := by
  have hmap : (mapServices 3 (channelCorpus "order" "stock") []).toOption.map ServiceMap.links =
      some [sentMessage "order" (some "stock"), heardMessage "stock"] := by
    unfold mapServices ServiceMap.ofModules sourceLinks sourceName describeIn ownedFacts isOwnedBy assignModules
    -- sorting does not evaluate, and these modules need none
    simp only [ownerOf?_eq_find? channelCorpus_sorted_order]
    decide +kernel
  obtain ⟨services, hservices, hlinks⟩ := Option.map_eq_some_iff.1 hmap
  rw [toOption_eq_some] at hservices
  have hnames : ((detectModules 3 (channelCorpus "order" "stock")).map BuildModule.name).Nodup := by decide +kernel
  exact ⟨services, hservices, hlinks, (mapServices_linksMessages_iff hservices).2 hnames⟩

/-- **A message is lost between modules of one name**: the listener is in another directory, and the sender has no peer. -/
theorem mapServices_not_linksMessages_twins :
    ∃ services, mapServices 3 (channelCorpus "a/svc" "b/svc") [] = .ok services ∧
      services.links = [sentMessage "svc" none, heardMessage "svc"] ∧
      ¬ services.LinksMessages (channelCorpus "a/svc" "b/svc") (detectModules 3 (channelCorpus "a/svc" "b/svc")) := by
  have hmap : (mapServices 3 (channelCorpus "a/svc" "b/svc") []).toOption.map ServiceMap.links =
      some [sentMessage "svc" none, heardMessage "svc"] := by
    unfold mapServices ServiceMap.ofModules sourceLinks sourceName describeIn ownedFacts isOwnedBy assignModules
    simp only [ownerOf?_eq_find? channelCorpus_sorted_twins]
    decide +kernel
  have hfiles : linkedFiles (channelCorpus "a/svc" "b/svc") = [senderFile "a/svc", listenerFile "b/svc"] := by
    decide +kernel
  have hsender : (ownerOf? (detectModules 3 (channelCorpus "a/svc" "b/svc")) (senderFile "a/svc").path).map
        (fun m => (m.rootPath, scanLinks m.name (senderFile "a/svc"))) =
      some ("a/svc", [sentMessage "svc" none]) := by
    simp only [ownerOf?_eq_find? channelCorpus_sorted_twins]
    decide +kernel
  have hlistener : (ownerOf? (detectModules 3 (channelCorpus "a/svc" "b/svc")) (listenerFile "b/svc").path).map
        (fun m => (m.rootPath, scanLinks m.name (listenerFile "b/svc"))) =
      some ("b/svc", [heardMessage "svc"]) := by
    simp only [ownerOf?_eq_find? channelCorpus_sorted_twins]
    decide +kernel
  obtain ⟨services, hservices, hlinks⟩ := Option.map_eq_some_iff.1 hmap
  rw [toOption_eq_some] at hservices
  refine ⟨services, hservices, hlinks, fun hall => ?_⟩
  obtain ⟨m, hm, hsent⟩ := exists_shownIn (hfiles ▸ List.mem_cons_self) hsender (List.mem_singleton.2 rfl)
  obtain ⟨n, hn, hheard⟩ :=
    exists_shownIn (hfiles ▸ List.mem_cons_of_mem _ List.mem_cons_self) hlistener (List.mem_singleton.2 rfl)
  have hroots : m.rootPath ≠ n.rootPath := by
    rw [hm, hn]
    decide
  have hhears : (heardMessage "svc").Hears (sentMessage "svc" none) := ⟨by decide, rfl, by decide⟩
  refine (hall m n _ _ hsent hheard hroots (by decide) hhears).2 ?_
  rw [hlinks]
  exact List.mem_cons_self

end SpringAtlas

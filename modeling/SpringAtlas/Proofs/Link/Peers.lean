import SpringAtlas.Module.Map

/-!
# `Proofs.Link.Peers` — where links come from and which peers they get

Every link that a file shows goes out under the name the file was scanned with, and a link through a broker names no
peer. Peers are filled in afterwards, and only with the sources of other links. The invariant `Link.Within` says this
about one link; it holds of every scanned link and of every gateway link, and resolving peers keeps it.

## Contents
* `Link.Within` — a link among some services
* `scanLinks_within`, `gatewayLinks_within` — each detector
* `resolvePeers_within` — filling in peers
-/

namespace SpringAtlas

/-- A link goes out from one of the services. If it is a message, its peer is one of them or not known. -/
structure Link.Within (services : List String) (l : Link) : Prop where
  source_mem : l.source ∈ services
  target_mem : l.technology.isMessaging = true → ∀ target, l.target = some target → target ∈ services

namespace Link.Within

variable {services : List String} {l : Link}

/-- A call has to go out from a service; where it goes is not asked. -/
theorem of_call (hs : l.source ∈ services) (ht : l.technology.isMessaging = false) : l.Within services where
  source_mem := hs
  target_mem h := by
    rw [ht] at h
    cases h

/-- A message that has not found its peer has only to go out from a service. -/
theorem of_message (hs : l.source ∈ services) (ht : l.target = none) : l.Within services where
  source_mem := hs
  target_mem _ target h := by
    rw [ht] at h
    cases h

end Link.Within

/-! ## Detectors -/

section Detectors

variable {services : List String} {s : LinkSource} {l : Link}

theorem feignLinks_within (hs : s.service ∈ services) (h : l ∈ feignLinks s) : l.Within services := by
  obtain ⟨m, -, rfl⟩ := List.mem_map.1 h
  exact .of_call hs rfl

theorem restTemplateLinks_within (hs : s.service ∈ services) (h : l ∈ restTemplateLinks s) : l.Within services := by
  obtain ⟨m, -, rfl⟩ := List.mem_map.1 h
  exact .of_call hs rfl

theorem webClientLinks_within (hs : s.service ∈ services) (h : l ∈ webClientLinks s) : l.Within services := by
  obtain ⟨m, -, hm⟩ := List.mem_filterMap.1 h
  -- a statement without the client gives no link
  dsimp only [webClientLink?] at hm
  split at hm
  · cases hm
  · cases hm
    exact .of_call hs rfl

/-- The messages of a file go out from its service. -/
theorem brokerLinks_within {b : Broker} (hs : s.service ∈ services) (h : l ∈ brokerLinks b s) : l.Within services := by
  rcases List.mem_append.1 h with h | h
  · obtain ⟨m, -, hm⟩ := List.mem_flatMap.1 h
    obtain ⟨channel, -, rfl⟩ := List.mem_map.1 hm
    exact .of_message hs rfl
  · obtain ⟨m, -, rfl⟩ := List.mem_map.1 h
    exact .of_message hs rfl

end Detectors

/-- The links of a file go out from the service it was scanned for. -/
theorem scanLinks_within {services : List String} {service : String} {f : SourceFile} {l : Link}
    (hs : service ∈ services) (h : l ∈ scanLinks service f) : l.Within services := by
  have hservice : (LinkSource.ofFile service f).service ∈ services := hs
  rcases List.mem_append.1 h with h | h
  · rcases List.mem_append.1 h with h | h
    · rcases List.mem_append.1 h with h | h
      · rcases List.mem_append.1 h with h | h
        · exact feignLinks_within hservice h
        · exact restTemplateLinks_within hservice h
      · exact webClientLinks_within hservice h
    · exact brokerLinks_within hservice h
  · exact brokerLinks_within hservice h

/-- Routes go out from their gateway. -/
theorem gatewayLinks_within {services : List String} {m : BuildModule} {l : Link} (hs : m.name ∈ services)
    (h : l ∈ gatewayLinks m) : l.Within services := by
  unfold gatewayLinks at h
  split at h
  · obtain ⟨r, -, rfl⟩ := List.mem_map.1 h
    exact .of_call hs rfl
  · cases h

/-! ## Peers -/

theorem peerOf?_eq_some {links : List Link} {producer : Link} {peer : String} (h : peerOf? links producer = some peer) :
    ∃ l ∈ links, l.consumes producer = true ∧ l.source = peer ∧ peer ≠ producer.source := by
  obtain ⟨l, hl, rfl⟩ := Option.map_eq_some_iff.1 h
  have hp := List.find?_some hl
  rw [Bool.and_eq_true, bne_iff_ne] at hp
  exact ⟨l, List.mem_of_find?_eq_some hl, hp.1, rfl, hp.2⟩

/-- **Filling in peers keeps all links among the services.** -/
theorem resolvePeers_within {services : List String} {links : List Link} (hall : ∀ l ∈ links, l.Within services)
    {l : Link} (h : l ∈ resolvePeers links) : l.Within services := by
  obtain ⟨l₀, hl₀, rfl⟩ := List.mem_map.1 h
  split
  · refine ⟨(hall l₀ hl₀).source_mem, fun _ target ht => ?_⟩
    -- a peer is the source of a link, and all sources are services
    obtain ⟨consumer, hc, -, rfl, -⟩ := peerOf?_eq_some ht
    exact (hall consumer hc).source_mem
  · exact hall l₀ hl₀

end SpringAtlas

import Mathlib.Data.List.Forall2
import SpringAtlas.Link.Peers
import SpringAtlas.Link.Scan

/-!
# `Proofs.Link.Resolution` — what resolving peers does to each link

A channel is written with its role behind its name, `orders (producer)`. Whatever the name holds, brackets and roles
included, the last blank and bracket are those of the role, so both are read back (`channelName?_of_channel`,
`isProducer_of_channel`). Resolving peers gives a target to the producers that ask for one and leaves all else alone. Who
hears whom is read off channels and sources, not off targets, so a second pass finds the peers of the first.

## Contents
* `roleName`, `cutAtLast_role` — channels and roles
* `Link.Hears`, `Link.IsPeerOf`, `Link.AsksForPeer` — who is linked to whom
* `Link.Resolved`, `resolvePeers_resolved`, `resolvePeers_resolvePeers`, `resolvePeers_exact`
-/

namespace SpringAtlas

deriving instance ReflBEq, LawfulBEq for Technology

/-! ## Channels -/

/-- The role of a link at a channel. -/
def roleName (producer : Bool) : String :=
  if producer then "producer" else "consumer"

/-- A bracket with a blank before it is looked for from the end, and a role holds no blank. -/
theorem find_bracket {role : List Char} (hrole : ' ' ∉ role) (rest : List Char) :
    Text.find ['(', ' '] (role ++ '(' :: ' ' :: rest) = some role.length := by
  induction role with
  | nil => rfl
  | cons c role ih =>
    rw [List.mem_cons, not_or] at hrole
    have hnot : ['(', ' '].isPrefixOf (c :: role ++ '(' :: ' ' :: rest) = false := by
      cases role with
      | nil => simp [List.isPrefixOf]
      | cons d role =>
        have hd : ' ' ≠ d := fun h => hrole.2 (h ▸ List.mem_cons_self)
        simp [List.isPrefixOf, hd]
    rw [List.cons_append] at hnot ⊢
    rw [Text.find, hnot, ih hrole.2]
    rfl

/-- The role is cut off a channel, whatever its name holds. -/
theorem cutAtLast_role {role : List Char} (hrole : ' ' ∉ role) (name : List Char) :
    Text.cutAtLast " (".toList (name ++ " (".toList ++ role) = some (name, role) := by
  have hreverse : (name ++ " (".toList ++ role).reverse = role.reverse ++ '(' :: ' ' :: name.reverse := by simp
  have hblank : ' ' ∉ role.reverse := by simpa using hrole
  rw [Text.cutAtLast, hreverse]
  show Option.map _ (Text.cutAt ['(', ' '] _) = _
  rw [Text.cutAt, find_bracket hblank]
  simp [List.drop_append]

section Channels

variable {l : Link} {name : List Char} {producer : Bool}

/-- The name of a channel is read back from the text that shows it with a role. -/
theorem channelName?_of_channel (h : l.channel = some (String.ofList name ++ " (" ++ roleName producer ++ ")")) :
    l.channelName? = some (String.ofList name) := by
  have htext : (String.ofList name ++ " (" ++ roleName producer ++ ")").toList =
      name ++ " (".toList ++ (roleName producer ++ ")").toList := by simp
  have hrole : ' ' ∉ (roleName producer ++ ")").toList := by cases producer <;> decide
  unfold Link.channelName?
  rw [h, Option.map_some, htext, cutAtLast_role hrole]

/-- The role is read back from the text that shows a channel with it. -/
theorem isProducer_of_channel (h : l.channel = some (String.ofList name ++ " (" ++ roleName producer ++ ")")) :
    l.isProducer = producer := by
  unfold Link.isProducer
  rw [h, Option.any_some]
  cases producer <;> simp [roleName, Text.endsWith, List.isSuffixOf, List.isPrefixOf]

theorem isConsumer_of_channel (h : l.channel = some (String.ofList name ++ " (" ++ roleName producer ++ ")")) :
    l.isConsumer = !producer := by
  unfold Link.isConsumer
  rw [h, Option.any_some]
  cases producer <;> simp [roleName, Text.endsWith, List.isSuffixOf, List.isPrefixOf]

end Channels

/-! ## Peers -/

namespace Link

/-- A link listens to the channel that another one sends to. -/
structure Hears (consumer producer : Link) : Prop where
  consumes : consumer.isConsumer = true
  technology : consumer.technology = producer.technology
  channel : consumer.channelName? = producer.channelName?

/-- A link of another service listens to the channel. -/
def IsPeerOf (consumer producer : Link) : Prop :=
  consumer.Hears producer ∧ consumer.source ≠ producer.source

/-- A producer of a channel with a name, whose target is not known. -/
structure AsksForPeer (l : Link) : Prop where
  produces : l.isProducer = true
  named : ∃ name, l.channelName? = some name ∧ name ≠ ""
  open_target : l.target = none ∨ l.target = some ""

/-- What resolving peers among some links makes of one of them. -/
inductive Resolved (links : List Link) : Link → Link → Prop where
  /-- all but producers that ask for a peer stay as they are -/
  | kept {l : Link} (hasks : ¬ l.AsksForPeer) : Resolved links l l
  /-- the target is the service of the first peer -/
  | linked {l k : Link} {before after : List Link} (hasks : l.AsksForPeer) (hsplit : links = before ++ k :: after)
      (hpeer : k.IsPeerOf l) (hfirst : ∀ k' ∈ before, ¬ k'.IsPeerOf l) :
      Resolved links l { l with target := some k.source }
  /-- without a peer there is no target -/
  | alone {l : Link} (hasks : l.AsksForPeer) (hnone : ∀ k ∈ links, ¬ k.IsPeerOf l) :
      Resolved links l { l with target := none }

end Link

section Peers

variable {links : List Link} {k l : Link}

/-- The test for a listener is `Hears`. -/
theorem consumes_iff : k.consumes l = true ↔ k.Hears l := by
  unfold Link.consumes
  rw [Bool.and_eq_true, Bool.and_eq_true, beq_iff_eq, beq_iff_eq]
  exact ⟨fun h => ⟨h.1.1, h.1.2, h.2⟩, fun h => ⟨⟨h.consumes, h.technology⟩, h.channel⟩⟩

theorem isPeerOf_iff : (k.consumes l && k.source != l.source) = true ↔ k.IsPeerOf l := by
  rw [Bool.and_eq_true, consumes_iff, bne_iff_ne]
  rfl

/-- The test for a missing peer is `AsksForPeer`. -/
theorem needsPeer_iff : l.needsPeer = true ↔ l.AsksForPeer := by
  have hnamed : (!(l.channelName?.all String.isEmpty)) = true ↔ ∃ name, l.channelName? = some name ∧ name ≠ "" := by
    cases l.channelName? <;> simp
  have hopen : l.target.all String.isEmpty = true ↔ l.target = none ∨ l.target = some "" := by
    cases l.target <;> simp
  unfold Link.needsPeer
  rw [Bool.and_eq_true, Bool.and_eq_true, hnamed, hopen]
  exact ⟨fun h => ⟨h.1.1, h.1.2, h.2⟩, fun h => ⟨⟨h.produces, h.named⟩, h.open_target⟩⟩

/-- The target that a producer is given is the service of its first peer. -/
theorem resolved_of_asks (hasks : l.AsksForPeer) : l.Resolved links { l with target := peerOf? links l } := by
  unfold peerOf?
  cases hfind : links.find? fun k => k.consumes l && k.source != l.source with
  | none =>
    refine .alone hasks fun k hk hpeer => ?_
    exact List.find?_eq_none.1 hfind k hk (isPeerOf_iff.2 hpeer)
  | some k =>
    obtain ⟨hpeer, before, after, hsplit, hfirst⟩ := List.find?_eq_some_iff_append.1 hfind
    refine .linked hasks hsplit (isPeerOf_iff.1 hpeer) fun k' hk' hpeer' => ?_
    have hnot := hfirst k' hk'
    rw [isPeerOf_iff.2 hpeer'] at hnot
    cases hnot

theorem resolvePeers_resolved (links : List Link) : List.Forall₂ (Link.Resolved links) links (resolvePeers links) := by
  refine List.forall₂_map_right_iff.2 (List.forall₂_same.2 fun l _ => ?_)
  by_cases hneeds : l.needsPeer = true
  · rw [if_pos hneeds]
    exact resolved_of_asks (needsPeer_iff.1 hneeds)
  · rw [if_neg hneeds]
    exact .kept (mt needsPeer_iff.2 hneeds)

/-- Peers are found by channels and sources, which resolving leaves alone. -/
theorem peerOf?_resolvePeers (links : List Link) (l : Link) : peerOf? (resolvePeers links) l = peerOf? links l := by
  unfold resolvePeers
  rw [peerOf?, List.find?_map, Option.map_map]
  have hsame : ∀ k : Link,
      (if k.needsPeer then { k with target := peerOf? links k } else k).source = k.source ∧
      (if k.needsPeer then { k with target := peerOf? links k } else k).consumes l = k.consumes l := by
    intro k
    split
    · exact ⟨rfl, rfl⟩
    · exact ⟨rfl, rfl⟩
  have hsource : (Link.source ∘ fun k => if k.needsPeer then { k with target := peerOf? links k } else k) =
      Link.source := funext fun k => (hsame k).1
  have hpeer : ((fun k : Link => k.consumes l && k.source != l.source) ∘
      fun k => if k.needsPeer then { k with target := peerOf? links k } else k) =
      fun k : Link => k.consumes l && k.source != l.source := by
    funext k
    show (Link.consumes _ l && Link.source _ != l.source) = _
    rw [(hsame k).1, (hsame k).2]
  rw [hsource, hpeer]
  rfl

/-- **A second pass changes nothing.** -/
theorem resolvePeers_resolvePeers (links : List Link) : resolvePeers (resolvePeers links) = resolvePeers links := by
  rw [resolvePeers]
  simp only [peerOf?_resolvePeers]
  rw [resolvePeers, List.map_map]
  refine List.map_congr_left fun l _ => ?_
  by_cases hneeds : l.needsPeer = true
  · -- whether or not the link asks again, it is given the target that it has
    have hpeer : peerOf? links { l with target := peerOf? links l } = peerOf? links l := rfl
    simp [hneeds, hpeer]
  · simp [hneeds]

end Peers

/-- **Resolving peers links each producer to its first listener, and does nothing else.** Link by link, all but producers
    of a named channel without a target stay as they are, and those get the service of the first link of another service
    that listens to their channel through their technology, or no target if there is none. A second pass changes nothing. A
    link made for a channel has the name of the channel, whatever characters it has, and the one role it was made in. -/
theorem resolvePeers_exact (links : List Link) :
    List.Forall₂ (Link.Resolved links) links (resolvePeers links) ∧
    resolvePeers (resolvePeers links) = resolvePeers links ∧
    ∀ (s : LinkSource) (b : Broker) (producer : Bool) (c : Char) (cs : List Char),
      (messageLink s b (roleName producer) (some (c :: cs))).channelName? = some (String.ofList (c :: cs)) ∧
      (messageLink s b (roleName producer) (some (c :: cs))).isProducer = producer ∧
      (messageLink s b (roleName producer) (some (c :: cs))).isConsumer = !producer := by
  refine ⟨resolvePeers_resolved links, resolvePeers_resolvePeers links, fun s b producer c cs => ?_⟩
  have hchannel : (messageLink s b (roleName producer) (some (c :: cs))).channel =
      some (String.ofList (c :: cs) ++ " (" ++ roleName producer ++ ")") := rfl
  exact ⟨channelName?_of_channel hchannel, isProducer_of_channel hchannel, isConsumer_of_channel hchannel⟩

end SpringAtlas

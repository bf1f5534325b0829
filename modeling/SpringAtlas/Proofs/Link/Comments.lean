import SpringAtlas.Link.Scan
import SpringAtlas.Proofs.Source.Mask
import SpringAtlas.Proofs.Source.Reading

/-!
# `Proofs.Link.Comments` — comments and links

The scan finds calls and annotations in the masked text, so a commented-out call makes no link. The values of arguments
and the constants that they name are read from the text as it stands, comments included. There a comment can show
through: a constant declared in a comment counts as declared, and a comment in front of a literal or beside a name hides
it.

Blanking comments does not change the mask, so they can do no more: the calls of a file, their methods and the brokers
it talks to stay, and where what the scan asks for reads alike with and without the comments, so do the links.

## Contents
* `SourceFile.uncommented` — the file with its comments blanked
* `Link.outline` — a link without its peer
* `LinkSource.Asks` — the arguments that the scan reads
* `LinkSource.SameReadings`, `feignLinks_eq`, `restTemplateLinks_eq`, `webClientLinks_eq`, `brokerLinks_eq` — the kinds
  of link, each from its arguments
* `callLinks_outline`, `brokerLinks_outline` — what the mask decides of the links
* `scanLinks_uncommented` — the links of a file without its comments
-/

namespace SpringAtlas

open Source (Arguments)

/-- The file with its comments blanked. -/
def SourceFile.uncommented (f : SourceFile) : SourceFile :=
  { f with text := String.ofList (Source.blankComments f.chars) }

/-- The link without its peer: who talks, with what, by which method, and whether it waits for the answer. -/
def Link.outline (l : Link) : Link :=
  { l with target := none, url := none, channel := none, isLoadBalanced := false, description := "" }

namespace LinkSource

/-! ## What is asked for -/

/-- The masked statement around a call. -/
def statement (s : LinkSource) (m : Match) : List Char :=
  Text.slice s.masked (s.statementBounds m.start).1 (s.statementBounds m.start).2

/-- The scan reads the argument of a call that has one of the names, or the first one if it has no name. -/
inductive Asks (s : LinkSource) : Match → List String → Prop
  | client {m : Match} (h : m ∈ feignPattern.findAll s.masked) : Asks s m ["name", "value"]
  | clientUrl {m : Match} (h : m ∈ feignPattern.findAll s.masked) : Asks s m ["url"]
  | template {m : Match} (h : m ∈ restTemplatePattern.findAll s.masked) : Asks s m []
  | uri {m : Match} (h : m ∈ uriCallPattern.findAll s.masked) (hclient : webClientReceiver.occursIn (s.statement m)) :
      Asks s m []
  | base {m : Match} (h : baseUrlPattern.search? s.masked = some m) : Asks s m []
  | listener {m : Match} {b : Broker} (hb : b = .kafka ∨ b = .rabbitmq) (h : m ∈ b.listener.findAll s.masked) :
      Asks s m [b.channels]
  | sender {m : Match} {b : Broker} (hb : b = .kafka ∨ b = .rabbitmq) (h : m ∈ b.sender.findAll s.masked) : Asks s m []

/-- The same file, with its arguments and constants read from another text. -/
def readingFrom (s : LinkSource) (text : List Char) : LinkSource :=
  { s with text, constants := Source.stringConstants text }

/-- All that is asked for reads alike in the other text. -/
def SameReadings (s : LinkSource) (text : List Char) : Prop :=
  ∀ m names, s.Asks m names → Arguments.SameReading names (s.arguments m) ((s.readingFrom text).arguments m)

variable {s : LinkSource} {text : List Char}

/-- An argument that is asked for by name, or else as the first one, has the same values in both texts. -/
theorem SameReadings.namedOrFirst_eq (h : s.SameReadings text) {m : Match} {names : List String} (hm : s.Asks m names) :
    ((s.readingFrom text).arguments m).namedOrFirst names = (s.arguments m).namedOrFirst names :=
  ((h m names hm).namedOrFirst_eq rfl).symm

/-- An argument that is asked for by name has the same values in both texts. -/
theorem SameReadings.named?_eq (h : s.SameReadings text) {m : Match} {names : List String} (hm : s.Asks m names) :
    ((s.readingFrom text).arguments m).named? names = (s.arguments m).named? names :=
  ((h m names hm).named?_eq rfl).symm

/-- The first value of an argument that is asked for is the same in both texts. -/
theorem SameReadings.first?_eq (h : s.SameReadings text) {m : Match} {names : List String} (hm : s.Asks m names) :
    ((s.readingFrom text).arguments m).first? names = (s.arguments m).first? names :=
  ((h m names hm).first?_eq rfl).symm

/-! ## The kinds of link -/

theorem SameReadings.feignLinks_eq (h : s.SameReadings text) : feignLinks (s.readingFrom text) = feignLinks s := by
  refine List.map_congr_left fun m hm => ?_
  simp only [feignLink, h.first?_eq (.client hm), h.named?_eq (.clientUrl hm)]
  rfl

theorem SameReadings.restTemplateLinks_eq (h : s.SameReadings text) :
    restTemplateLinks (s.readingFrom text) = restTemplateLinks s := by
  refine List.map_congr_left fun m hm => ?_
  simp only [restTemplateLink, h.first?_eq (.template hm)]
  rfl

theorem SameReadings.baseUrl?_eq (h : s.SameReadings text) : baseUrl? (s.readingFrom text) = baseUrl? s := by
  show (baseUrlPattern.search? s.masked).bind _ = (baseUrlPattern.search? s.masked).bind _
  cases hm : baseUrlPattern.search? s.masked with
  | none => rw [Option.bind_none, Option.bind_none]
  | some m => rw [Option.bind_some, Option.bind_some, h.first?_eq (.base hm)]

/-- A statement that does not name the client gives no link. -/
theorem webClientLink?_eq_none {m : Match} (h : ¬ webClientReceiver.occursIn (s.statement m)) (base : Option (List Char))
    (balanced : Bool) : webClientLink? s base balanced m = none := by
  have hother : (!webClientReceiver.occursIn (s.statement m)) = true := by simpa using h
  unfold webClientLink?
  exact if_pos hother

theorem SameReadings.webClientLinks_eq (h : s.SameReadings text) :
    webClientLinks (s.readingFrom text) = webClientLinks s := by
  rw [webClientLinks, webClientLinks, h.baseUrl?_eq]
  refine List.filterMap_congr fun m hm => ?_
  -- a call that no client receives makes no link, whatever its argument is
  by_cases hclient : webClientReceiver.occursIn (s.statement m)
  · simp only [webClientLink?, h.first?_eq (.uri hm hclient)]
    rfl
  · rw [webClientLink?_eq_none hclient, webClientLink?_eq_none (s := s.readingFrom text) hclient]

/-- Messages are the same in both texts if all that is asked for reads alike. -/
theorem SameReadings.brokerLinks_eq (h : s.SameReadings text) {b : Broker} (hb : b = .kafka ∨ b = .rabbitmq) :
    brokerLinks b (s.readingFrom text) = brokerLinks b s := by
  have hlisteners : ∀ m ∈ b.listener.findAll s.masked,
      (listenedChannels b ((s.readingFrom text).arguments m)).map (messageLink (s.readingFrom text) b "consumer") =
        (listenedChannels b (s.arguments m)).map (messageLink s b "consumer") := by
    intro m hm
    simp only [listenedChannels, h.namedOrFirst_eq (.listener hb hm)]
    rfl
  have hsenders : ∀ m ∈ b.sender.findAll s.masked,
      messageLink (s.readingFrom text) b "producer" (((s.readingFrom text).arguments m).first? []) =
        messageLink s b "producer" ((s.arguments m).first? []) := by
    intro m hm
    rw [h.first?_eq (.sender hb hm)]
    rfl
  rw [brokerLinks, brokerLinks, List.flatMap_def, List.flatMap_def]
  exact congrArg₂ (· ++ ·) (congrArg List.flatten (List.map_congr_left hlisteners)) (List.map_congr_left hsenders)

/-! ## Outlines

Which calls and annotations a file holds, and the method and the kind of each, is read from the mask: no reading is
needed for that. -/

/-- All links that are not messages. -/
def callLinks (s : LinkSource) : List Link :=
  feignLinks s ++ restTemplateLinks s ++ webClientLinks s

theorem feignLink_outline (s : LinkSource) (m : Match) :
    (feignLink s m).outline =
      { source := s.service, technology := .feignClient, className := some s.className } :=
  rfl

theorem restTemplateLink_outline (s : LinkSource) (balanced : Bool) (m : Match) :
    (restTemplateLink s balanced m).outline =
      { source := s.service
        technology := .restTemplate
        httpMethod := some (String.ofList
          (restTemplateMethod (m.group s.masked 1) (s.arguments m).fragment.masked))
        className := some s.className } :=
  rfl

/-- What the statement around a call of a reactive client says of the link. -/
def clientCall (s : LinkSource) (m : Match) : Link where
  source := s.service
  technology := .webClient
  httpMethod := some (String.ofList (chainMethod (Text.slice s.masked (s.statementBounds m.start).1 m.start)))
  isAsync := reactivePattern.occursIn (s.statement m) && !blockingCallPattern.occursIn (s.statement m)
  className := some s.className

/-- A call of a reactive client gives a link if its statement names the client, whatever its address is. -/
theorem webClientLink?_outline (s : LinkSource) (base : Option (List Char)) (balanced : Bool) (m : Match) :
    (webClientLink? s base balanced m).map Link.outline =
      if webClientReceiver.occursIn (s.statement m) then some (s.clientCall m) else none := by
  split
  · next hclient =>
    have hreceived : ¬ (!webClientReceiver.occursIn (s.statement m)) = true := by simpa using hclient
    show Option.map Link.outline (if (!webClientReceiver.occursIn (s.statement m)) = true then none else _) = _
    rw [if_neg hreceived]
    rfl
  · next hclient => rw [webClientLink?_eq_none hclient, Option.map_none]

theorem callLinks_outline (s : LinkSource) (text : List Char) :
    (s.readingFrom text).callLinks.map Link.outline = s.callLinks.map Link.outline := by
  have hfeign : (feignLinks (s.readingFrom text)).map Link.outline = (feignLinks s).map Link.outline := by
    simp only [feignLinks, List.map_map, Function.comp_def, feignLink_outline]
    rfl
  have htemplate : (restTemplateLinks (s.readingFrom text)).map Link.outline =
      (restTemplateLinks s).map Link.outline := by
    simp only [restTemplateLinks, List.map_map, Function.comp_def, restTemplateLink_outline]
    rfl
  have hclient : (webClientLinks (s.readingFrom text)).map Link.outline = (webClientLinks s).map Link.outline := by
    simp only [webClientLinks, List.map_filterMap, webClientLink?_outline]
    rfl
  simp only [callLinks, List.map_append, hfeign, htemplate, hclient]

theorem callLinks_technology {l : Link} (h : l ∈ s.callLinks) : l.technology.isMessaging = false := by
  rcases List.mem_append.1 h with h | h
  · rcases List.mem_append.1 h with h | h
    · obtain ⟨m, -, rfl⟩ := List.mem_map.1 h
      rfl
    · obtain ⟨m, -, rfl⟩ := List.mem_map.1 h
      rfl
  · obtain ⟨m, -, hm⟩ := List.mem_filterMap.1 h
    have houtline := congrArg (Option.map Link.outline) hm
    rw [webClientLink?_outline, Option.map_some, Option.ite_none_right_eq_some] at houtline
    have htechnology : Technology.webClient = l.technology := congrArg Link.technology (Option.some.inj houtline.2)
    rw [← htechnology]
    rfl

/-- What all messages of a broker have in common. -/
def message (s : LinkSource) (b : Broker) : Link where
  source := s.service
  technology := b.technology
  isAsync := true
  className := some s.className

theorem messageLink_outline (s : LinkSource) (b : Broker) (role : String) (channel : Option (List Char)) :
    (messageLink s b role channel).outline = s.message b :=
  rfl

/-- All messages of a broker in one file have one outline. -/
theorem outline_of_mem_brokerLinks {b : Broker} {l : Link} (h : l ∈ brokerLinks b s) : l.outline = s.message b := by
  rcases List.mem_append.1 h with h | h
  · obtain ⟨m, -, h⟩ := List.mem_flatMap.1 h
    obtain ⟨channel, -, rfl⟩ := List.mem_map.1 h
    exact messageLink_outline s b "consumer" channel
  · obtain ⟨m, -, rfl⟩ := List.mem_map.1 h
    exact messageLink_outline s b "producer" _

theorem listenedChannels_ne_nil (b : Broker) (a : Arguments) : listenedChannels b a ≠ [] := by
  unfold listenedChannels
  split
  · exact List.cons_ne_nil _ _
  · next hne => simpa using hne

/-- A listener makes at least one link, and a sender makes one. -/
theorem brokerLinks_eq_nil_iff (b : Broker) (s : LinkSource) :
    brokerLinks b s = [] ↔ b.listener.findAll s.masked = [] ∧ b.sender.findAll s.masked = [] := by
  have hlisteners : ((b.listener.findAll s.masked).flatMap fun m =>
      (listenedChannels b (s.arguments m)).map (messageLink s b "consumer")) = [] ↔ b.listener.findAll s.masked = [] := by
    rw [List.flatMap_eq_nil_iff, List.eq_nil_iff_forall_not_mem]
    simp only [List.map_eq_nil_iff, listenedChannels_ne_nil, imp_false]
  rw [brokerLinks, List.append_eq_nil_iff, hlisteners, List.map_eq_nil_iff]

theorem mem_brokerLinks_outline {b : Broker} {o : Link} :
    o ∈ (brokerLinks b s).map Link.outline ↔ o = s.message b ∧ brokerLinks b s ≠ [] := by
  constructor
  · intro ho
    obtain ⟨l, hl, rfl⟩ := List.mem_map.1 ho
    exact ⟨outline_of_mem_brokerLinks hl, List.ne_nil_of_mem hl⟩
  · rintro ⟨rfl, hne⟩
    obtain ⟨l, hl⟩ := List.exists_mem_of_ne_nil _ hne
    exact List.mem_map.2 ⟨l, hl, outline_of_mem_brokerLinks hl⟩

/-- The number of channels of a listener depends on its argument, but not what its links have in common. -/
theorem brokerLinks_outline (b : Broker) (s : LinkSource) (text : List Char) (o : Link) :
    o ∈ (brokerLinks b (s.readingFrom text)).map Link.outline ↔ o ∈ (brokerLinks b s).map Link.outline := by
  have hnil : brokerLinks b (s.readingFrom text) = [] ↔ brokerLinks b s = [] := by
    rw [brokerLinks_eq_nil_iff, brokerLinks_eq_nil_iff]
    rfl
  rw [mem_brokerLinks_outline, mem_brokerLinks_outline, ne_eq, ne_eq, hnil]
  rfl

theorem brokerLinks_technology {b : Broker} (hb : b.technology.isMessaging) {l : Link} (h : l ∈ brokerLinks b s) :
    l.technology.isMessaging := by
  have htechnology : l.technology = b.technology := congrArg Link.technology (outline_of_mem_brokerLinks h)
  rw [htechnology, hb]

end LinkSource

/-! ## Files -/

/-- The file without its comments is the same file, read from the text without its comments. -/
theorem LinkSource.ofFile_uncommented (service : String) (f : SourceFile) :
    LinkSource.ofFile service f.uncommented =
      (LinkSource.ofFile service f).readingFrom (Source.blankComments f.chars) := by
  have hchars : f.uncommented.chars = Source.blankComments f.chars := String.toList_ofList
  unfold LinkSource.ofFile LinkSource.readingFrom
  rw [hchars, Source.mask_blankComments]
  rfl

/-- The links of a file: its calls, then the messages of each broker. -/
theorem scanLinks_eq (service : String) (f : SourceFile) :
    scanLinks service f = (LinkSource.ofFile service f).callLinks ++
      (brokerLinks .kafka (LinkSource.ofFile service f) ++ brokerLinks .rabbitmq (LinkSource.ofFile service f)) :=
  List.append_assoc _ _ _

theorem filter_scanLinks (service : String) (f : SourceFile) :
    (scanLinks service f).filter (fun l => !l.technology.isMessaging) = (LinkSource.ofFile service f).callLinks := by
  have hcalls : (LinkSource.ofFile service f).callLinks.filter (fun l => !l.technology.isMessaging) =
      (LinkSource.ofFile service f).callLinks :=
    List.filter_eq_self.2 fun l hl => by rw [LinkSource.callLinks_technology hl]; rfl
  have hmessages {b : Broker} (hb : b.technology.isMessaging) :
      (brokerLinks b (LinkSource.ofFile service f)).filter (fun l => !l.technology.isMessaging) = [] :=
    List.filter_eq_nil_iff.2 fun l hl => by simp [LinkSource.brokerLinks_technology hb hl]
  rw [scanLinks_eq, List.filter_append, List.filter_append, hcalls, hmessages rfl, hmessages rfl, List.append_nil,
    List.append_nil]

/-- **Comments change links through arguments only.** Without its comments a file has the same calls in the same order,
    up to their peers, and messages of the same brokers. Where every argument that the scan asks for reads alike with
    and without the comments, it has the same links. -/
theorem scanLinks_uncommented (service : String) (f : SourceFile) :
    ((scanLinks service f.uncommented).filter fun l => !l.technology.isMessaging).map Link.outline =
      ((scanLinks service f).filter fun l => !l.technology.isMessaging).map Link.outline ∧
    (∀ o, o ∈ (scanLinks service f.uncommented).map Link.outline ↔ o ∈ (scanLinks service f).map Link.outline) ∧
    ((LinkSource.ofFile service f).SameReadings (Source.blankComments f.chars) →
      scanLinks service f.uncommented = scanLinks service f) := by
  refine ⟨?_, fun o => ?_, fun h => ?_⟩
  · rw [filter_scanLinks, filter_scanLinks, LinkSource.ofFile_uncommented, LinkSource.callLinks_outline]
  · simp only [scanLinks_eq, LinkSource.ofFile_uncommented, List.map_append, List.mem_append,
      LinkSource.callLinks_outline, LinkSource.brokerLinks_outline]
  · simp only [scanLinks, LinkSource.ofFile_uncommented, kafkaLinks, rabbitLinks]
    rw [h.feignLinks_eq, h.restTemplateLinks_eq, h.webClientLinks_eq, h.brokerLinks_eq (Or.inl rfl),
      h.brokerLinks_eq (Or.inr rfl)]

/-- A call with a comment behind the address that it is given, and a comment on the line before. -/
def annotatedCall : SourceFile where
  path := "A.java"
  text := "class A \x7b // one\n  void f() \x7b restTemplate.put(\"http://b\" /* all */); \x7d\n\x7d\n"

/-- One call is asked for its address, which reads alike. -/
theorem annotatedCall_sameReadings :
    (LinkSource.ofFile "shop" annotatedCall).SameReadings (Source.blankComments annotatedCall.chars) := by
  have hmask : (LinkSource.ofFile "shop" annotatedCall).masked =
      "class A \x7b       \n  void f() \x7b restTemplate.put(\"        \"          ); \x7d\n\x7d\n".toList := by
    decide +kernel
  have hcalls : restTemplatePattern.findAll (LinkSource.ofFile "shop" annotatedCall).masked =
      [⟨30, 47, [⟨1, 43, 46⟩]⟩] := by
    rw [hmask]
    decide +kernel
  have hbase : baseUrlPattern.search? (LinkSource.ofFile "shop" annotatedCall).masked = none := by
    rw [hmask]
    decide +kernel
  have hothers : ∀ p ∈ [feignPattern, uriCallPattern, Broker.kafka.listener, Broker.rabbitmq.listener,
      Broker.kafka.sender, Broker.rabbitmq.sender],
      p.findAll (LinkSource.ofFile "shop" annotatedCall).masked = [] := by
    rw [hmask]
    decide +kernel
  have hspan : ((LinkSource.ofFile "shop" annotatedCall).arguments ⟨30, 47, [⟨1, 43, 46⟩]⟩).readSpan? [] =
      some (0, 20) := by
    decide +kernel
  rintro m names (h | h | h | ⟨h, -⟩ | h | ⟨rfl | rfl, h⟩ | ⟨rfl | rfl, h⟩)
  case template =>
    rw [hcalls, List.mem_singleton] at h
    subst h
    intro s hs
    obtain rfl : (0, 20) = s := Option.some.inj (hspan.symm.trans hs)
    refine .sum (by decide +kernel) (by decide +kernel) fun s hs => ?_
    -- the address and the comment behind it are one term
    have hterm : Source.Fragment.termSpans (Text.slice ((LinkSource.ofFile "shop" annotatedCall).arguments
        ⟨30, 47, [⟨1, 43, 46⟩]⟩).fragment.masked 0 20) = [(0, 20)] := by
      decide +kernel
    obtain rfl : s = (0, 20) := List.mem_singleton.1 (hterm ▸ hs)
    exact .literal "http://b".toList " /* all */".toList [] (by simp) (by decide +kernel) (by decide +kernel)
  case base =>
    rw [hbase] at h
    cases h
  all_goals
    rw [hothers _ (by simp)] at h
    cases h

theorem scanLinks_annotatedCall :
    (LinkSource.ofFile "shop" annotatedCall).SameReadings (Source.blankComments annotatedCall.chars) ∧
    scanLinks "shop" annotatedCall.uncommented = scanLinks "shop" annotatedCall :=
  ⟨annotatedCall_sameReadings, (scanLinks_uncommented "shop" annotatedCall).2.2 annotatedCall_sameReadings⟩

/-- A call whose address is a constant, with an old declaration of the constant in a comment. -/
def commentedConstant : SourceFile where
  path := "A.java"
  text := "class A \x7b\n  // static final String U = \"http://old\";\n  static final String U = \"http://new\";\n" ++
    "  void f() \x7b restTemplate.put(U); \x7d\n\x7d\n"

/-- **A comment redirects a link**: the call goes to the address in the comment. -/
theorem scanLinks_commentedConstant :
    (scanLinks "shop" commentedConstant).map Link.target = [some "old"] ∧
    (scanLinks "shop" commentedConstant.uncommented).map Link.target = [some "new"] ∧
    scanLinks "shop" commentedConstant.uncommented ≠ scanLinks "shop" commentedConstant := by
  have htargets : (scanLinks "shop" commentedConstant).map Link.target = [some "old"] ∧
      (scanLinks "shop" commentedConstant.uncommented).map Link.target = [some "new"] := by
    decide +kernel
  obtain ⟨hold, hnew⟩ := htargets
  refine ⟨hold, hnew, fun hsame => ?_⟩
  rw [hsame, hold] at hnew
  exact absurd hnew (by decide)

end SpringAtlas

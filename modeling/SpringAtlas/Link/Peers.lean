import SpringAtlas.Link.Basic

/-!
# `Link.Peers` — who listens to a channel

A producer does not name its peer. It is linked to the first other service that consumes the same channel of
the same technology.
-/

namespace SpringAtlas

/-- Whether a link consumes the channel that another one names. -/
def Link.consumes (consumer producer : Link) : Bool :=
  consumer.isConsumer && consumer.technology == producer.technology &&
  consumer.channelName? == producer.channelName?

/-- Whether a link is a producer of a named channel whose peer is not known. -/
def Link.needsPeer (l : Link) : Bool :=
  l.isProducer && !(l.channelName?.all String.isEmpty) && l.target.all String.isEmpty

/-- The first other service, among some links, that consumes the channel of a producer. -/
def peerOf? (links : List Link) (producer : Link) : Option String :=
  (links.find? fun l => l.consumes producer && l.source != producer.source).map Link.source

/-- The links with the peers of producers filled in. -/
def resolvePeers (links : List Link) : List Link :=
  links.map fun l => if l.needsPeer then { l with target := peerOf? links l } else l

end SpringAtlas

import SpringAtlas.Json
import SpringAtlas.Pattern.Search

/-!
# `Link.Basic` — links between services

A `Link` says that a module talks to a peer: to a service by a call, to a channel by messages, or through a
route of a gateway. This module holds links and how the name of a service is read off an address.

## Contents
* `Technology` — what a link is made with
* `Link`, `Link.channelName?`, `Link.isProducer`, `Link.isConsumer`
* `serviceOfUrl?` — the service that an address names
-/

namespace SpringAtlas

/-- What a link is made with. -/
inductive Technology where
  | restTemplate
  | webClient
  | feignClient
  | kafka
  | rabbitmq
  | jms
  | grpc
  | gatewayRoute
  | unknown
deriving Repr, BEq, DecidableEq

namespace Technology

def label : Technology → String
  | restTemplate => "REST_TEMPLATE"
  | webClient => "WEB_CLIENT"
  | feignClient => "FEIGN_CLIENT"
  | kafka => "KAFKA"
  | rabbitmq => "RABBITMQ"
  | jms => "JMS"
  | grpc => "GRPC"
  | gatewayRoute => "GATEWAY_ROUTE"
  | unknown => "UNKNOWN"

def all : List Technology :=
  [restTemplate, webClient, feignClient, kafka, rabbitmq, jms, grpc, gatewayRoute, unknown]

def ofLabel? (s : String) : Option Technology :=
  all.find? fun t => t.label == s

/-- Whether links of this kind go through channels. -/
def isMessaging (t : Technology) : Bool :=
  t == kafka || t == rabbitmq || t == jms

end Technology

/-! ## Links -/

/-- A link from a module to a service, an address or a channel. -/
structure Link where
  source : String
  technology : Technology
  target : Option String := none
  url : Option String := none
  httpMethod : Option String := none
  /-- the channel with its role, `orders (producer)` or `orders (consumer)` -/
  channel : Option String := none
  isLoadBalanced : Bool := false
  isAsync : Bool := false
  description : String := ""
  className : Option String := none
  /-- the path that a gateway routes -/
  endpointPath : Option String := none
deriving Repr, BEq, DecidableEq

namespace Link

/-- The channel without its role. -/
def channelName? (l : Link) : Option String :=
  l.channel.map fun c =>
    match Text.cutAtLast " (".toList c.toList with
    | some (name, _) => String.ofList name
    | none => c

def isProducer (l : Link) : Bool :=
  l.channel.any fun c => Text.endsWith "(producer)".toList c.toList

def isConsumer (l : Link) : Bool :=
  l.channel.any fun c => Text.endsWith "(consumer)".toList c.toList

def toJson (l : Link) : Json :=
  .obj [("source_service", .str l.source), ("target_service", .ofOption l.target),
    ("communication_type", .str l.technology.label), ("target_url", .ofOption l.url),
    ("http_method", .ofOption l.httpMethod), ("channel", .ofOption l.channel),
    ("is_load_balanced", .bool l.isLoadBalanced), ("is_async", .bool l.isAsync),
    ("description", .str l.description), ("class_name", .ofOption l.className),
    ("endpoint_path", .ofOption l.endpointPath)]

end Link

/-! ## Addresses -/

/-- The scheme of addresses that a registry resolves. -/
def loadBalancedScheme : List Char :=
  "lb://".toList

def isLoadBalancedUrl (url : List Char) : Bool :=
  loadBalancedScheme.isPrefixOf url

open Pattern in
def hostPattern : Pattern :=
  textStart ++ one Text.isAsciiLetter ++
  star (one fun c => Text.isWord c || "+.-".toList.contains c) ++ lit "://" ++
  group 1 (plus (except "/:?#"))

open Pattern in
def upToThreeDigits : Pattern :=
  one Text.isDigit ++ atMost 2 (one Text.isDigit)

open Pattern in
/-- A host given by numbers. -/
def numericHostPattern : Pattern :=
  textStart ++ upToThreeDigits ++ times 3 (lit "." ++ upToThreeDigits) ++ lastLineEnd

open Pattern in
/-- The first part of the name of a variable. -/
def variablePattern : Pattern :=
  lit "$\x7b" ++ group 1 (plus (except ".\x7d:"))

def isVariable (cs : List Char) : Bool :=
  Text.contains "$\x7b".toList cs

/-- A text, if it is not empty. -/
def nonEmpty (cs : List Char) : Option (List Char) :=
  if cs.isEmpty then none else some cs

/-- The service that a trimmed address names: behind the registry's scheme, else a host that is neither local
    nor given by numbers, else the first part of a variable's name. -/
def serviceOfTrimmed? (url : List Char) : Option (List Char) :=
  if isLoadBalancedUrl url then
    nonEmpty ((url.drop loadBalancedScheme.length).takeWhile (· != '/'))
  else
    let host := (hostPattern.matchStart? url).map fun m => m.group url 1
    match host.filter fun h => !isVariable h with
    | some h =>
      if h == "localhost".toList || (numericHostPattern.matchStart? h).isSome then none else some h
    | none => (variablePattern.search? url).bind fun m => nonEmpty (Text.trim (m.group url 1))

/-- The service that an address names. -/
def serviceOfUrl? (url : List Char) : Option (List Char) :=
  serviceOfTrimmed? (Text.trim url)

end SpringAtlas

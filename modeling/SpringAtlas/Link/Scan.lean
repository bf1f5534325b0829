import SpringAtlas.Corpus.Basic
import SpringAtlas.Link.Basic
import SpringAtlas.Source.Arguments
import SpringAtlas.Source.Group
import SpringAtlas.Source.Mask

/-!
# `Link.Scan` — links in a source file

Five kinds of link are looked for, each on its own: declared clients, template calls, reactive client calls,
and the listeners and senders of two message brokers. The places of calls and annotations are found in the
masked text, and their arguments are read with the string constants of the file.

## Contents
* `LinkSource` — a file made ready for the scan
* `feignLinks`, `restTemplateLinks`, `webClientLinks`, `kafkaLinks`, `rabbitLinks`
* `scanLinks` — all links of a file
-/

namespace SpringAtlas

/-- A source file made ready for the scan, and the module it belongs to. -/
structure LinkSource where
  service : String
  className : String
  text : List Char
  masked : List Char
  constants : List (List Char × List Char)

namespace LinkSource

def ofFile (service : String) (f : SourceFile) : LinkSource :=
  { service
    className := String.ofList (Path.stem f.path.toList)
    text := f.chars
    masked := Source.mask f.chars
    constants := Source.stringConstants f.chars }

/-- The arguments of the call or annotation that a match ends with, its parenthesis included. -/
def arguments (s : LinkSource) (m : Match) : Source.Arguments :=
  Source.Arguments.atOffset s.text s.masked s.constants (m.stop - 1)
    (Source.groupEnd s.masked (m.stop - 1))

/-- A link from the file. -/
def link (s : LinkSource) (technology : Technology) (description : List Char) : Link :=
  { source := s.service
    technology
    description := String.ofList description
    className := some s.className }

/-- The bounds of the statement around an offset, which ends at a semicolon and starts behind one or behind a
    brace. -/
def statementBounds (s : LinkSource) (offset : Nat) : Nat × Nat :=
  (Text.afterLast (fun c => c == ';' || c == '\x7b' || c == '\x7d') (s.masked.take offset),
   offset + ((s.masked.drop offset).takeWhile (· != ';')).length)

end LinkSource

/-! ## Declared clients -/

open Pattern in
def feignPattern : Pattern :=
  lit "@FeignClient" ++ blanks ++ lit "("

def feignLink (s : LinkSource) (m : Match) : Link :=
  let arguments := s.arguments m
  let name := (arguments.first? ["name", "value"]).bind nonEmpty
  let url := (arguments.named? ["url"]).bind List.head?
  { s.link .feignClient ("Feign client ".toList ++ ((name.or (url.bind nonEmpty)).getD "unnamed".toList))
    with
    target := (name.or (url.bind serviceOfUrl?)).map String.ofList
    url := url.map String.ofList
    isLoadBalanced := url.all isLoadBalancedUrl }

def feignLinks (s : LinkSource) : List Link :=
  (feignPattern.findAll s.masked).map (feignLink s)

/-! ## Template calls -/

open Pattern in
def restTemplatePattern : Pattern :=
  wordEdge ++ star word ++ caseless "resttemplate" ++ blanks ++ lit "." ++ blanks ++
  group 1 (anyOf (["getforobject", "getforentity", "postforobject", "postforentity", "postforlocation",
    "put", "delete", "patchforobject", "exchange"].map caseless)) ++ blanks ++ lit "("

open Pattern in
def httpMethodArgument : Pattern :=
  wordEdge ++ lit "HttpMethod" ++ blanks ++ lit "." ++ blanks ++
  group 1 (plus (one fun c => 'A' ≤ c && c ≤ 'Z')) ++ wordEdge

/-- The HTTP method named in a masked text, or `GET`. -/
def methodArgument (masked : List Char) : List Char :=
  match httpMethodArgument.search? masked with
  | some m => m.group masked 1
  | none => "GET".toList

open Pattern in
def loadBalancedPattern : Pattern :=
  lit "@LoadBalanced" ++ wordEdge

/-- The HTTP method that a template call uses: the one its name holds, or the one passed to an exchange. -/
def restTemplateMethod (call arguments : List Char) : List Char :=
  let name := Text.lower call
  if name == "exchange".toList then methodArgument arguments
  else
    match ["post", "put", "delete", "patch"].find? fun verb => Text.contains verb.toList name with
    | some verb => Text.upper verb.toList
    | none => "GET".toList

def restTemplateLink (s : LinkSource) (balanced : Bool) (m : Match) : Link :=
  let arguments := s.arguments m
  let call := m.group s.masked 1
  let url := arguments.first? []
  let method := restTemplateMethod call arguments.fragment.masked
  { s.link .restTemplate
      ("RestTemplate ".toList ++ method ++ ' ' :: (url.bind nonEmpty).getD call) with
    target := (url.bind serviceOfUrl?).map String.ofList
    url := url.map String.ofList
    httpMethod := some (String.ofList method)
    isLoadBalanced := balanced || url.any isLoadBalancedUrl }

def restTemplateLinks (s : LinkSource) : List Link :=
  (restTemplatePattern.findAll s.masked).map (restTemplateLink s (loadBalancedPattern.occursIn s.masked))

/-! ## Reactive client calls -/

open Pattern in
def uriCallPattern : Pattern :=
  lit "." ++ blanks ++ lit "uri" ++ blanks ++ lit "("

open Pattern in
def webClientReceiver : Pattern :=
  wordEdge ++ star word ++ caseless "webclient" ++ wordEdge

open Pattern in
def verbCallPattern : Pattern :=
  lit "." ++ blanks ++ group 1 (oneOf ["get", "post", "put", "delete", "patch"]) ++ blanks ++ lit "(" ++
  blanks ++ lit ")"

open Pattern in
def baseUrlPattern : Pattern :=
  lit "." ++ blanks ++ lit "baseUrl" ++ blanks ++ lit "("

open Pattern in
def blockingCallPattern : Pattern :=
  lit "." ++ blanks ++ lit "block" ++ opt (oneOf ["First", "Last"]) ++ blanks ++ lit "("

open Pattern in
/-- What shows that the answer is not waited for. -/
def reactivePattern : Pattern :=
  lit "." ++ blanks ++ lit "subscribe" ++ blanks ++ lit "(" <|>
  wordEdge ++ lit "bodyTo" ++ oneOf ["Mono", "Flux"] ++ wordEdge <|>
  wordEdge ++ oneOf ["Mono", "Flux"] ++ blanks ++ lit "<"

/-- The HTTP method of a call chain: the last verb called, else one passed as an argument. -/
def chainMethod (masked : List Char) : List Char :=
  match (verbCallPattern.findAll masked).getLast? with
  | some m => Text.upper (m.group masked 1)
  | none => methodArgument masked

/-- The address that the clients of the file start from. -/
def baseUrl? (s : LinkSource) : Option (List Char) :=
  (baseUrlPattern.search? s.masked).bind fun m => (s.arguments m).first? []

def webClientLink? (s : LinkSource) (base : Option (List Char)) (balanced : Bool) (m : Match) :
    Option Link :=
  let (start, stop) := s.statementBounds m.start
  let statement := Text.slice s.masked start stop
  if !webClientReceiver.occursIn statement then none
  else
    let url := (s.arguments m).first? []
    let method := chainMethod (Text.slice s.masked start m.start)
    some { s.link .webClient (Text.trimEnd ("WebClient ".toList ++ method ++ ' ' :: url.getD [])) with
      target := ((url.bind serviceOfUrl?).or (base.bind serviceOfUrl?)).map String.ofList
      url := url.map String.ofList
      httpMethod := some (String.ofList method)
      isLoadBalanced := url.any isLoadBalancedUrl || base.any isLoadBalancedUrl || balanced
      isAsync := reactivePattern.occursIn statement && !blockingCallPattern.occursIn statement }

def webClientLinks (s : LinkSource) : List Link :=
  (uriCallPattern.findAll s.masked).filterMap
    (webClientLink? s (baseUrl? s) (loadBalancedPattern.occursIn s.masked))

/-! ## Messages -/

/-- A message broker: how its listeners and senders are written. -/
structure Broker where
  technology : Technology
  name : String
  listener : Pattern
  sender : Pattern
  /-- the argument of a listener that names its channels -/
  channels : String

open Pattern in
def Broker.kafka : Broker where
  technology := .kafka
  name := "Kafka"
  listener := lit "@KafkaListener" ++ blanks ++ lit "("
  sender := wordEdge ++ star word ++ caseless "kafkatemplate" ++ blanks ++ lit "." ++ blanks ++
    caseless "send" ++ blanks ++ lit "("
  channels := "topics"

open Pattern in
def Broker.rabbitmq : Broker where
  technology := .rabbitmq
  name := "RabbitMQ"
  listener := lit "@RabbitListener" ++ blanks ++ lit "("
  sender := wordEdge ++ star word ++ caseless "rabbittemplate" ++ blanks ++ lit "." ++ blanks ++
    caseless "convertandsend" ++ blanks ++ lit "("
  channels := "queues"

/-- A link to a channel in a role; an unknown channel is left out. -/
def messageLink (s : LinkSource) (b : Broker) (role : String) (channel : Option (List Char)) : Link :=
  { s.link b.technology (Text.trimEnd ((b.name ++ " " ++ role ++ " ").toList ++ channel.getD [])) with
    channel := (channel.bind nonEmpty).map fun c => String.ofList c ++ " (" ++ role ++ ")"
    isAsync := true }

/-- The channels of a listener; at least one, if only an unknown one. -/
def listenedChannels (b : Broker) (arguments : Source.Arguments) : List (Option (List Char)) :=
  match arguments.namedOrFirst [b.channels] with
  | [] => [none]
  | channels => channels.map some

/-- The links of a broker: listeners first, then senders. -/
def brokerLinks (b : Broker) (s : LinkSource) : List Link :=
  ((b.listener.findAll s.masked).flatMap fun m =>
    (listenedChannels b (s.arguments m)).map (messageLink s b "consumer")) ++
  (b.sender.findAll s.masked).map fun m =>
    messageLink s b "producer" ((s.arguments m).first? [])

def kafkaLinks (s : LinkSource) : List Link :=
  brokerLinks .kafka s

def rabbitLinks (s : LinkSource) : List Link :=
  brokerLinks .rabbitmq s

/-! ## Files -/

/-- The links of a source file that belongs to a module, kind by kind. -/
def scanLinks (service : String) (f : SourceFile) : List Link :=
  let s := LinkSource.ofFile service f
  feignLinks s ++ restTemplateLinks s ++ webClientLinks s ++ kafkaLinks s ++ rabbitLinks s

end SpringAtlas

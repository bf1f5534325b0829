import SpringAtlas.Link.Basic
import SpringAtlas.Settings.Gateway

/-!
# `Module.Basic` — build modules

A module is a directory with a build descriptor. It has a role in the system, settings, and capabilities that
its dependencies and sources show.

## Contents
* `ServiceRole`, `Capabilities`
* `BuildModule`, `BuildModule.owns`
* `ownerOf?` — the module that a file belongs to
-/

namespace SpringAtlas

/-- The role of a module in the system. -/
inductive ServiceRole where
  | apiGateway
  | configServer
  | discoveryServer
  | adminService
  | batchService
  | messagingService
  | businessService
  | scheduledService
  | unknown
deriving Repr, BEq, DecidableEq

def ServiceRole.label : ServiceRole → String
  | apiGateway => "API_GATEWAY"
  | configServer => "CONFIG_SERVER"
  | discoveryServer => "DISCOVERY_SERVER"
  | adminService => "ADMIN_SERVICE"
  | batchService => "BATCH_SERVICE"
  | messagingService => "MESSAGING_SERVICE"
  | businessService => "BUSINESS_SERVICE"
  | scheduledService => "SCHEDULED_SERVICE"
  | unknown => "UNKNOWN"

/-- What a module can do. -/
structure Capabilities where
  discoveryClient : Bool := false
  configClient : Bool := false
  gateway : Bool := false
  feignClients : Bool := false
  restTemplate : Bool := false
  webClient : Bool := false
  kafka : Bool := false
  rabbitmq : Bool := false
  jms : Bool := false
  grpc : Bool := false
  loadBalancer : Bool := false
  circuitBreaker : Bool := false
deriving Repr, BEq, DecidableEq

namespace Capabilities

/-- The message brokers in use. -/
def messaging (c : Capabilities) : List Technology :=
  [(Technology.kafka, c.kafka), (.rabbitmq, c.rabbitmq), (.jms, c.jms)].filterMap fun (t, present) =>
    if present then some t else none

/-- The technologies in use for links; `routes` says whether the module routes requests. -/
def methods (c : Capabilities) (routes : Bool) : List Technology :=
  [(Technology.restTemplate, c.restTemplate), (.webClient, c.webClient), (.feignClient, c.feignClients),
   (.kafka, c.kafka), (.rabbitmq, c.rabbitmq), (.grpc, c.grpc), (.gatewayRoute, routes)].filterMap
    fun (t, present) => if present then some t else none

/-- Whether a module asks others and waits for the answer. -/
def isSync (c : Capabilities) : Bool :=
  c.feignClients || c.restTemplate || c.webClient || c.grpc

/-- Whether a module sends or receives messages. -/
def isAsync (c : Capabilities) : Bool :=
  !c.messaging.isEmpty

/-- The capabilities as named flags. -/
def flags (c : Capabilities) : List (String × Json) :=
  [("has_discovery_client", .bool c.discoveryClient), ("has_config_client", .bool c.configClient),
   ("has_gateway", .bool c.gateway), ("has_feign_clients", .bool c.feignClients),
   ("has_rest_template", .bool c.restTemplate), ("has_web_client", .bool c.webClient),
   ("has_kafka", .bool c.kafka), ("has_rabbitmq", .bool c.rabbitmq), ("has_grpc", .bool c.grpc),
   ("has_load_balancer", .bool c.loadBalancer), ("has_circuit_breaker", .bool c.circuitBreaker),
   ("has_sync_communication", .bool c.isSync), ("has_async_communication", .bool c.isAsync)]

end Capabilities

/-! ## Modules -/

/-- A build module. -/
structure BuildModule where
  name : String
  /-- its directory, empty for the root of the corpus -/
  rootPath : String := ""
  descriptorPath : Option String := none
  role : ServiceRole := .unknown
  applicationName : Option String := none
  serverPort : String := "8080"
  profiles : List String := []
  /-- the package of the entry point -/
  basePackage : Option String := none
  discoveryUrl : Option String := none
  routes : List GatewayRoute := []
  database : Option String := none
  /-- identifiers of the artifacts its descriptor names -/
  dependencies : List String := []
  capabilities : Capabilities := {}
  classCount : Nat := 0
  endpointCount : Nat := 0
deriving Repr, BEq, DecidableEq

namespace BuildModule

def messaging (m : BuildModule) : List Technology :=
  m.capabilities.messaging

def methods (m : BuildModule) : List Technology :=
  m.capabilities.methods (!m.routes.isEmpty)

/-- Whether a path lies in the directory of the module. -/
def owns (m : BuildModule) (path : String) : Bool :=
  m.rootPath.isEmpty || path == m.rootPath || (m.rootPath ++ "/").toList.isPrefixOf path.toList

def toJson (m : BuildModule) : Json :=
  .obj ([("name", .str m.name), ("root_path", .str m.rootPath),
    ("build_descriptor_path", .ofOption m.descriptorPath), ("service_type", .str m.role.label),
    ("application_name", .ofOption m.applicationName), ("server_port", .str m.serverPort),
    ("profiles", .ofStrings m.profiles), ("base_package", .ofOption m.basePackage),
    ("discovery_url", .ofOption m.discoveryUrl), ("gateway_routes", .arr (m.routes.map GatewayRoute.toJson)),
    ("database_type", .ofOption m.database), ("dependencies", .ofStrings m.dependencies),
    ("messaging_types", .ofStrings (m.messaging.map Technology.label)),
    ("communication_methods", .ofStrings (m.methods.map Technology.label))] ++ m.capabilities.flags ++
    [("class_count", .nat m.classCount), ("endpoint_count", .nat m.endpointCount)])

end BuildModule

/-! ## Ownership -/

/-- The modules with the longest directories first, otherwise in their order. -/
def byLength (modules : List BuildModule) : List BuildModule :=
  modules.mergeSort fun a b => decide (b.rootPath.length ≤ a.rootPath.length)

/-- The module that a file belongs to: the one with the longest directory that the path lies in. -/
def ownerOf? (modules : List BuildModule) (path : String) : Option BuildModule :=
  (byLength modules).find? fun m => m.owns path

/-- The name under which a file's links go out; a file without an owner counts for the first module. -/
def sourceName (modules : List BuildModule) (path : String) : String :=
  match ownerOf? modules path with
  | some m => m.name
  | none => (modules.head?.map BuildModule.name).getD "unknown"

end SpringAtlas

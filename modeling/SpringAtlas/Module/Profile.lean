import SpringAtlas.Module.Basic
import SpringAtlas.Rule
import SpringAtlas.Source.Declaration
import SpringAtlas.Corpus.Basic

/-!
# `Module.Profile` — the role and the capabilities of a module

What a module is and can do shows in the artifacts it depends on and in *markers*: annotations and types that its
sources mention.

## Contents
* `Marker`, `Marker.pattern`
* `Profile`, `serviceRoleRules`, `Profile.capabilities`, `databaseOf?`
* `entryPointRules`, `entryPoint?`
-/

namespace SpringAtlas

/-! ## Markers -/

/-- Something that the sources of a module mention. -/
inductive Marker where
  | discovery
  | feign
  | restTemplate
  | webClient
  | kafka
  | rabbitmq
  | jms
  | grpc
  | loadBalancer
  | circuitBreaker
  | scheduled
deriving Repr, BEq, DecidableEq

namespace Marker

def all : List Marker :=
  [discovery, feign, restTemplate, webClient, kafka, rabbitmq, jms, grpc, loadBalancer, circuitBreaker,
   scheduled]

def name : Marker → String
  | discovery => "discovery"
  | feign => "feign"
  | restTemplate => "rest_template"
  | webClient => "web_client"
  | kafka => "kafka"
  | rabbitmq => "rabbitmq"
  | jms => "jms"
  | grpc => "grpc"
  | loadBalancer => "load_balancer"
  | circuitBreaker => "circuit_breaker"
  | scheduled => "scheduled"

def ofName? (s : String) : Option Marker :=
  all.find? fun m => m.name == s

open Pattern in
/-- A whole word. -/
def wholeWord (s : String) : Pattern :=
  wordEdge ++ lit s ++ wordEdge

open Pattern in
/-- One of some annotations. -/
def annotated (names : List String) : Pattern :=
  lit "@" ++ oneOf names ++ wordEdge

open Pattern in
/-- How a marker looks in masked text. -/
def pattern : Marker → Pattern
  | discovery => annotated ["EnableDiscoveryClient", "EnableEurekaClient"]
  | feign => annotated ["FeignClient", "EnableFeignClients"]
  | restTemplate => wholeWord "RestTemplate"
  | webClient => wholeWord "WebClient"
  | kafka => annotated ["KafkaListener"] <|> wholeWord "KafkaTemplate"
  | rabbitmq => annotated ["RabbitListener"] <|> wholeWord "RabbitTemplate"
  | jms => annotated ["JmsListener"] <|> wholeWord "JmsTemplate"
  | grpc => annotated ["GrpcService", "GrpcClient"] <|> wordEdge ++ lit "io.grpc."
  | loadBalancer => annotated ["LoadBalanced"]
  | circuitBreaker => annotated ["CircuitBreaker", "HystrixCommand"]
  | scheduled => annotated ["Scheduled", "EnableScheduling"]

end Marker

/-! ## Profiles -/

/-- The artifacts that a module names and the markers in its sources. -/
structure Profile where
  artifacts : List String := []
  markers : List Marker := []
deriving Repr, BEq

namespace Profile

/-- Whether some artifact's identifier contains one of the pieces. -/
def declares (p : Profile) (pieces : List String) : Bool :=
  p.artifacts.any fun a => pieces.any fun piece => Text.contains piece.toList a.toList

def mentions (p : Profile) (m : Marker) : Bool :=
  p.markers.contains m

/-- The profile of a module from the artifacts it names and its masked sources. -/
def ofSources (artifacts : List String) (masked : List (List Char)) : Profile :=
  { artifacts
    markers := Marker.all.filter fun m => masked.any fun text => m.pattern.occursIn text }

end Profile

def gatewayArtifacts : List String :=
  ["spring-cloud-starter-gateway", "spring-cloud-starter-netflix-zuul"]

/-- The role of a module, most specific first. -/
def serviceRoleRules : RuleTable Profile ServiceRole where
  rules :=
    [⟨"gateway", (·.declares gatewayArtifacts), .apiGateway⟩,
     ⟨"config-server", (·.declares ["spring-cloud-config-server"]), .configServer⟩,
     ⟨"discovery-server", (·.declares ["eureka-server"]), .discoveryServer⟩,
     ⟨"admin-server", (·.declares ["spring-boot-admin-starter-server"]), .adminService⟩,
     ⟨"batch", (·.declares ["spring-boot-starter-batch"]), .batchService⟩,
     ⟨"messaging-only", fun p => p.declares ["kafka", "rabbitmq", "amqp"] &&
        !p.artifacts.contains "spring-boot-starter-web", .messagingService⟩,
     ⟨"web", fun p => p.artifacts.any
        ["spring-boot-starter-web", "spring-boot-starter-webflux"].contains, .businessService⟩,
     ⟨"scheduled", (·.mentions .scheduled), .scheduledService⟩]
  fallback := .unknown

def Profile.capabilities (p : Profile) : Capabilities where
  discoveryClient := p.declares ["eureka-client", "consul-discovery", "zookeeper-discovery"] ||
    p.mentions .discovery
  configClient := p.declares ["spring-cloud-starter-config", "spring-cloud-config-client"]
  gateway := p.declares gatewayArtifacts
  feignClients := p.declares ["openfeign"] || p.mentions .feign
  restTemplate := p.mentions .restTemplate
  webClient := p.mentions .webClient
  kafka := p.declares ["kafka"] || p.mentions .kafka
  rabbitmq := p.declares ["rabbitmq", "amqp"] || p.mentions .rabbitmq
  jms := p.declares ["jms", "activemq", "artemis"] || p.mentions .jms
  grpc := p.declares ["grpc"] || p.mentions .grpc
  loadBalancer := p.declares ["loadbalancer", "ribbon"] || p.mentions .loadBalancer
  circuitBreaker := p.declares ["resilience4j", "hystrix", "circuitbreaker"] ||
    p.mentions .circuitBreaker

/-- How the identifiers of drivers start, and the databases they stand for. -/
def driverDatabases : List (String × String) :=
  [("postgresql", "POSTGRESQL"), ("mysql-connector", "MYSQL"), ("mariadb", "MARIADB"),
   ("ojdbc", "ORACLE"), ("mssql-jdbc", "SQL_SERVER"), ("h2", "H2"), ("hsqldb", "HSQLDB"),
   ("derby", "DERBY"), ("spring-boot-starter-data-mongodb", "MONGODB"),
   ("spring-boot-starter-data-cassandra", "CASSANDRA")]

/-- The database that a driver among some artifacts stands for. -/
def databaseOf? (artifacts : List String) : Option String :=
  (driverDatabases.find? fun d => artifacts.any fun a => a.startsWith d.1).map Prod.snd

/-! ## Entry points -/

open Pattern in
def mainMethodPattern : Pattern :=
  wordEdge ++ lit "public" ++ blanks1 ++ lit "static" ++ blanks1 ++ lit "void" ++ blanks1 ++
  lit "main" ++ blanks ++ lit "("

/-- What makes a masked source the entry point of an application, strongest sign first. -/
def entryPointRules : RuleTable (List Char) Bool where
  rules :=
    [⟨"spring-boot-application", Text.contains "@SpringBootApplication".toList, true⟩,
     ⟨"auto-configuration", fun s => Text.contains "@EnableAutoConfiguration".toList s &&
        Text.contains "main(".toList s, true⟩,
     ⟨"main-method", mainMethodPattern.occursIn, true⟩]
  fallback := false

/-- The entry point among some files with their masked texts. A stronger sign in a later file wins. -/
def entryPoint? (sources : List (SourceFile × List Char)) : Option (SourceFile × List Char) :=
  entryPointRules.rules.findSome? fun r => sources.find? fun s => r.test s.2

end SpringAtlas

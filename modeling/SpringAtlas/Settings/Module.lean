import SpringAtlas.Settings.Gateway

/-!
# `Settings.Module` — what a module is configured to be

From its merged settings a module gets its application name and port, its active profiles, the registry it
joins, the routes it serves as a gateway and the database it talks to.
-/

namespace SpringAtlas.Settings

open Pattern in
/-- A reference to a variable with a default, captured as group 1. -/
def placeholderPattern : Pattern :=
  textStart ++ lit "$\x7b" ++ plus (except "\x7d:") ++ lit ":" ++ group 1 (star (except "\x7d")) ++
  lit "\x7d" ++ lastLineEnd

/-- The default of a reference `${NAME:default}`; any other value stands for itself. -/
def resolveDefault (value : String) : String :=
  let trimmed := Text.trim value.toList
  match placeholderPattern.matchStart? trimmed with
  | some m => String.ofList (m.group trimmed 1)
  | none => value

/-! ## Databases -/

/-- Parts of a connection address or driver name, and the database they stand for. -/
def databaseHints : List (String × String) :=
  [("postgresql", "POSTGRESQL"), ("mysql", "MYSQL"), ("mariadb", "MARIADB"), ("oracle", "ORACLE"),
   ("sqlserver", "SQL_SERVER"), ("h2", "H2"), ("hsqldb", "HSQLDB"), ("derby", "DERBY")]

/-- The database that the first of some keys belongs to. -/
def documentDatabase? (key : String) : Option String :=
  if key.startsWith "spring.data.mongodb." then some "MONGODB"
  else if key.startsWith "spring.data.cassandra." || key.startsWith "spring.cassandra." then
    some "CASSANDRA"
  else none

/-- The database that the settings name, in a connection address first. -/
def database? (s : Store) : Option String :=
  let address := ["spring.datasource.url", "spring.datasource.driver-class-name",
    "spring.r2dbc.url"].filterMap s.get?
  let hint := Text.lower (" ".intercalate address).toList
  match databaseHints.find? fun h => Text.contains h.1.toList hint with
  | some h => some h.2
  | none => s.entries.findSome? fun e => documentDatabase? e.1

/-! ## Module settings -/

structure ModuleSettings where
  applicationName : Option String := none
  serverPort : Option String := none
  profiles : List String := []
  discoveryUrl : Option String := none
  routes : List GatewayRoute := []
  database : Option String := none
deriving Repr, BEq

def ModuleSettings.toJson (s : ModuleSettings) : Json :=
  .obj [("application_name", .ofOption s.applicationName), ("server_port", .ofOption s.serverPort),
    ("profiles", .ofStrings s.profiles), ("discovery_url", .ofOption s.discoveryUrl),
    ("gateway_routes", .arr (s.routes.map GatewayRoute.toJsonWithPath)), ("database_type", .ofOption s.database)]

/-- Active profiles: those the settings name, then those that have files. -/
def activeProfiles (s : Store) : List String :=
  let named := ((Text.splitWhere (· == ',') ((s.get? "spring.profiles.active").getD "").toList).map
    Text.trim).filter fun p => !p.isEmpty
  s.profiles.foldl (fun ps p => if ps.contains p then ps else ps ++ [p]) (named.map String.ofList)

/-- The settings of a module; the index of a route may be too long to be read. -/
def ofStore (s : Store) : Except Yaml.Fault ModuleSettings := do
  return {
    applicationName := (s.get? "spring.application.name").map resolveDefault
    serverPort := (s.get? "server.port").map resolveDefault
    profiles := activeProfiles s
    discoveryUrl := ((s.get? "eureka.client.service-url.defaultZone").or
      (s.get? "spring.cloud.consul.host")).map resolveDefault
    routes := ← gatewayRoutes s
    database := database? s }

end SpringAtlas.Settings

import SpringAtlas.Log.Basic

/-!
# `Log.Setup` — which log lines are shown

Logging is set up from command-line flags, which override what the configuration says. The setup is for the loggers
of the program itself; warnings of others are shown as they are.

## Contents
* `LogSetup`, `LogFlags`, `LogFlags.setup`
* `SetupError` — why there is no setup
* `emit` — the line of a record
-/

namespace SpringAtlas

/-- Where log lines go through: how they are written and from which level on. -/
structure LogSetup where
  mode : LogMode := .human
  level : Int := 20
  colors : Bool := false
deriving Repr, BEq

/-- The flags that change logging. -/
structure LogFlags where
  verbose : Bool := false
  quiet : Bool := false
  ci : Bool := false
deriving Repr, BEq

/-! ## Errors -/

/-- Why logging cannot be set up. -/
inductive SetupError where
  | unknownMode (value : Yaml.Value)
  /-- a configured level that is not a text -/
  | levelNotText (value : Yaml.Value)
  | unknownLevel (name : String)
  /-- a level that is neither a number nor a text -/
  | notALevel (value : Yaml.Value)
deriving Repr

def SetupError.message : SetupError → String
  | unknownMode value => value.spelled ++ " is not a valid LogMode"
  | levelNotText value => "'" ++ value.kindName ++ "' object has no attribute 'upper'"
  | unknownLevel name => "Unknown level: " ++ Text.quoted name
  | notALevel value => "Level not an integer or a valid string: " ++ value.text

/-! ## Setups -/

/-- The mode with a name. -/
def logModeOf (value : Yaml.Value) : Except SetupError LogMode :=
  match value with
  | .str name =>
    match LogMode.ofName? name with
    | some mode => .ok mode
    | none => .error (.unknownMode value)
  | _ => .error (.unknownMode value)

/-- A level by its number or its name. -/
def logLevelOf (value : Yaml.Value) : Except SetupError Int :=
  match value with
  | .int n => .ok n
  | .str name =>
    match levelOf? name with
    | some level => .ok level
    | none => .error (.unknownLevel name)
  | _ => .error (.notALevel value)

/-- The mode that flags ask for, else the configured one. -/
def LogFlags.mode (f : LogFlags) (configured : Yaml.Value) : Except SetupError LogMode :=
  if f.ci then .ok .json
  else if f.verbose then .ok .verbose
  else logModeOf configured

/-- The level that flags ask for, else the configured one; an unknown name means the usual level. -/
def LogFlags.level (f : LogFlags) (configured : Yaml.Value) : Except SetupError Int :=
  if f.quiet then .ok 30
  else if f.verbose then .ok 10
  else match configured with
    | .str name => .ok ((levelOf? (String.ofList (Text.upper name.toList))).getD 20)
    | .binary _ => .ok 20
    | v => .error (.levelNotText v)

/-- The setup from flags and configured names. -/
def LogFlags.setup (f : LogFlags) (mode level : Yaml.Value) (colors : Bool) : Except SetupError LogSetup := do
  return { mode := ← f.mode mode, level := ← f.level level, colors }

/-! ## Lines -/

namespace LogSetup

/-- The name of the program's own logger; others are named below it. -/
def rootLogger : String :=
  "springlens"

def isOwnLogger (name : String) : Bool :=
  name == rootLogger || (rootLogger ++ ".").toList.isPrefixOf name.toList

/-- The level of warnings, from which on everything is shown that nobody has set up. -/
def warningLevel : Int := 30

/-- The least level that is shown; level zero leaves the choice to the surroundings, which show warnings. Levels up to
    zero are never shown. -/
def threshold (s : LogSetup) : Int :=
  if s.level = 0 then warningLevel else max 1 s.level

/-- Whether a record reaches a level; one that is not graded in whole numbers reaches none. -/
def reaches (r : LogRecord) (level : Int) : Bool :=
  r.level.asInt?.any (level ≤ ·)

/-- The line of a record of the program, if it is shown. -/
def emit (s : LogSetup) (stamp : LogStamp) (r : LogRecord) : Option String :=
  if reaches r s.threshold then some (s.mode.write s.colors stamp r) else none

/-- The line of a record of any logger under the setup in force: other loggers give plain messages, and the program
    gives nothing before it is set up. -/
def lineOf (s : Option LogSetup) (stamp : LogStamp) (r : LogRecord) : Option String :=
  if isOwnLogger r.logger then s.bind fun s => s.emit stamp r
  else if reaches r warningLevel then some r.message
  else none

end LogSetup

end SpringAtlas

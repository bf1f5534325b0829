import SpringAtlas.Calendar.Epoch
import SpringAtlas.Config.Basic
import SpringAtlas.Json

/-!
# `Log.Basic` — log lines

A log record has a level, the name of its logger and a message. It is written for people, with a level tag that
may be coloured, or as a line of JSON.

## Contents
* `levelName`, `levelOf?` — levels and their names
* `LogRecord`, `LogMode.write` — records and their three written forms
-/

namespace SpringAtlas

/-! ## Levels -/

/-- The levels by name; of two names of one level the first is written. -/
def levels : List (String × Int) :=
  [("CRITICAL", 50), ("FATAL", 50), ("ERROR", 40), ("WARNING", 30), ("WARN", 30), ("INFO", 20),
   ("DEBUG", 10), ("NOTSET", 0)]

/-- The name of a level, which may be any number; a number between two levels has no name of its own. -/
def levelName (level : Yaml.Value) : String :=
  match levels.find? fun l => (Yaml.Value.int l.2).sameKey level with
  | some l => l.1
  | none => "Level " ++ level.text

def levelOf? (name : String) : Option Int :=
  levels.lookup name

/-- The terminal code that sets a colour. -/
def colorCode (n : Nat) : String :=
  String.ofList [Char.ofNat 27, '['] ++ toString n ++ "m"

/-- The colours of the levels that have one. -/
def levelColors : List (Int × Nat) :=
  [(10, 90), (20, 32), (30, 33), (40, 31), (50, 31)]

/-- The colour of a level; an unnamed one has none. -/
def levelColor (level : Yaml.Value) : Nat :=
  match levelColors.find? fun l => (Yaml.Value.int l.1).sameKey level with
  | some l => l.2
  | none => 0

def levelTag (colors : Bool) (level : Yaml.Value) : String :=
  let tag := "[" ++ levelName level ++ "]"
  if colors then colorCode (levelColor level) ++ tag ++ colorCode 0 else tag

/-! ## Records -/

/-- When a record was made: the time of day, and the full time. -/
structure LogStamp where
  clock : String
  full : String
deriving Repr, BEq

def LogStamp.ofTime (t : Timestamp) : LogStamp :=
  ⟨t.writeClock, t.write "T"⟩

/-- The stamp of a record made so many microseconds after the start of 1970, as far as a mode shows it: the time of
    day of a local clock, or the full time. -/
def LogMode.stamp (mode : LogMode) (micro : Except EpochError Int) : Except EpochError LogStamp :=
  match mode with
  | human => .ok ⟨"", ""⟩
  | verbose => do return .ofTime (← Timestamp.ofUnixMicroLocal (← micro))
  | json => do return .ofTime (← Timestamp.ofUnixMicro (← micro))

structure LogRecord where
  /-- how grave it is, a number -/
  level : Yaml.Value
  logger : String
  message : String
  /-- further data, written in JSON only -/
  extra : List (String × Json) := []
deriving Repr

/-- The fields with one set; a field that is there keeps its place. -/
def setField (fields : List (String × Json)) (field : String × Json) : List (String × Json) :=
  if (fields.lookup field.1).isSome then
    fields.map fun f => if f.1 == field.1 then field else f
  else fields ++ [field]

/-- A record as JSON; further data may replace the standard fields. -/
def LogRecord.toJson (r : LogRecord) (stamp : LogStamp) : Json :=
  .obj (r.extra.foldl setField [("level", .str (levelName r.level)), ("ts", .str stamp.full),
    ("logger", .str r.logger), ("msg", .str r.message)])

/-- A record as a line. -/
def LogMode.write (mode : LogMode) (colors : Bool) (stamp : LogStamp) (r : LogRecord) : String :=
  match mode with
  | human => levelTag colors r.level ++ " " ++ r.message
  | verbose =>
    levelTag colors r.level ++ "[" ++ stamp.clock ++ "] " ++ r.logger ++ ": " ++ r.message
  | json => (r.toJson stamp).compact

end SpringAtlas

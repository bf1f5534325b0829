import SpringAtlas.Calendar
import SpringAtlas.Decimal.Shortest
import SpringAtlas.Text.Quoted

/-!
# `Yaml.Value` — values of YAML documents

Configuration files are YAML. A document is a value: a scalar of one of the types of YAML 1.1, a list or a
mapping. A mapping keeps the order in which its keys first appear, and a repeated key keeps its place and takes
the last value.

## Contents
* `Value` — documents
* `Value.sameKey`, `Value.insert` — when two keys are the same, and setting a key
* `Value.setOrder` — the order of the members of a set
* `Value.text`, `Value.spelled` — a value as text, and as it is spelled inside other values
* `Value.fitsText` — whether the integers of a value are short enough to be written
* `Fault` — why a text gives no value
* `Loader` — a reader of YAML texts
-/

namespace SpringAtlas.Yaml

inductive Value where
  | null
  | bool (b : Bool)
  | int (n : Int)
  | float (x : Double)
  | str (s : String)
  | date (d : Date)
  | time (t : Timestamp)
  /-- bytes, each below 256 -/
  | binary (bytes : List Nat)
  | list (items : List Value)
  | map (entries : List (Value × Value))
  | set (items : List Value)
  /-- an entry of an ordered mapping -/
  | pair (key value : Value)
  /-- a collection that lies inside itself, as it is spelled there -/
  | again (mark : String)
deriving Repr, Inhabited

/-- Why a text gives no value. -/
inductive Fault where
  /-- the text is not YAML, or a tag does not fit its node -/
  | malformed
  /-- digits that are no number in a base -/
  | badInteger (base : Nat) (digits : String)
  | badFloat (digits : String)
  /-- a number without digits -/
  | emptyNumber
  | badDate (cause : CalendarError)
  /-- a text tagged as a time that writes none -/
  | notATime
  /-- a text tagged as a truth value that is none -/
  | notATruthValue (word : String)
  /-- a mapping tagged as a time, which has a text but is none -/
  | timeOfMapping
  /-- an escape that names no character -/
  | badCodePoint (n : Nat)
  /-- a decimal integer with more digits than are read -/
  | longInteger (digits : Nat)
  /-- an integer with more digits than are written -/
  | unwrittenInteger
  /-- a number to base sixty with more parts than a double has room for -/
  | tooManySixties
  /-- a collection that contains itself, or is nested too deep -/
  | endless
deriving Repr, BEq, DecidableEq

namespace Value

/-! ## Keys -/

/-- A value as a number; truth values count as zero and one. -/
def asInt? : Value → Option Int
  | bool b => some (if b then 1 else 0)
  | int n => some n
  | _ => none

/-- Whether two scalars are the same key: numbers are compared by value, across types. -/
def sameKey : Value → Value → Bool
  | null, null => true
  | str a, str b => a == b
  | date a, date b => a == b
  | time a, time b => a.sameInstant b
  | binary a, binary b => a == b
  | float x, float y => x.equals y
  | float x, b => match b.asInt? with
    | some n => x.equalsInt n
    | none => false
  | a, float y => match a.asInt? with
    | some n => y.equalsInt n
    | none => false
  | a, b => match a.asInt?, b.asInt? with
    | some m, some n => m == n
    | _, _ => false

/-- The first part of a value that keeps it from being a key: a collection that can change. -/
def unkeyed? : Value → Option Value
  | pair k v => (unkeyed? k).or (unkeyed? v)
  | v@(list _) | v@(map _) | v@(set _) | v@(again _) => some v
  | _ => none

/-- Whether a value can be a key. -/
def isKey (v : Value) : Bool :=
  v.unkeyed?.isNone

/-- The entries with `key` set to `value`: a key that is there keeps its place and its first spelling. -/
def insert (key value : Value) : List (Value × Value) → List (Value × Value)
  | [] => [(key, value)]
  | (k, v) :: rest => if k.sameKey key then (k, value) :: rest else (k, v) :: insert key value rest

/-- The value of a key that is a text. -/
def lookup (key : String) (entries : List (Value × Value)) : Option Value :=
  (entries.find? fun e => e.1.sameKey (str key)).map Prod.snd

/-- The number of places in a set of so many members: eight, or the first power of two above twice their number. A set
    that grew step by step may have more places; this is an approximation. -/
def placeCount (members : Nat) : Nat :=
  if members < 5 then 8 else Nat.pow 2 ((2 * members).log2 + 1)

/-- The members of a set in the order in which it shows them. A set shows its members by their hashes, which for texts
    differ from run to run; this order is an approximation. Whole numbers stand at the place of their remainder, without
    the moves that two members with one place make; other members stand as they came. -/
def setOrder (items : List Value) : List Value :=
  let place (v : Value) : Int := (v.asInt?.getD 0) % (placeCount items.length : Int)
  if items.all fun v => v.asInt?.isSome then items.mergeSort fun a b => place a ≤ place b
  else items

/-! ## Text -/

/-- An offset as it is spelled inside a time. -/
def spelledOffset (micro : Int) : String :=
  if micro = 0 then "datetime.timezone.utc"
  else "datetime.timezone(" ++ spanText micro ++ ")"

def spelledDate (d : Date) : String :=
  "datetime.date(" ++ toString d.year ++ ", " ++ toString d.month ++ ", " ++ toString d.day ++ ")"

def spelledTime (t : Timestamp) : String :=
  let fields := [t.date.year, t.date.month, t.date.day, t.hour, t.minute] ++
    (if t.micro != 0 then [t.second, t.micro] else if t.second != 0 then [t.second] else [])
  "datetime.datetime(" ++ ", ".intercalate (fields.map toString) ++
    (match t.offset with
      | some o => ", tzinfo=" ++ spelledOffset o
      | none => "") ++ ")"

mutual

/-- A value as it is spelled inside other values and in messages. -/
def spelled : Value → String
  | null => "None"
  | bool b => if b then "True" else "False"
  | int n => toString n
  | float x => x.write
  | str s => Text.quoted s
  | date d => spelledDate d
  | time t => spelledTime t
  | binary bytes => Text.quotedBytes bytes
  | list items => "[" ++ ", ".intercalate (spelledItems items) ++ "]"
  | map entries => "\x7b" ++ ", ".intercalate (spelledEntries entries) ++ "\x7d"
  | set [] => "set()"
  | set items => "\x7b" ++ ", ".intercalate (spelledItems items) ++ "\x7d"
  | pair k v => "(" ++ spelled k ++ ", " ++ spelled v ++ ")"
  | again mark => mark

def spelledItems : List Value → List String
  | [] => []
  | v :: vs => spelled v :: spelledItems vs

def spelledEntries : List (Value × Value) → List String
  | [] => []
  | (k, v) :: rest => (spelled k ++ ": " ++ spelled v) :: spelledEntries rest

end

/-- A value as text. Texts and times are written plainly, everything else as it is spelled. -/
def text : Value → String
  | str s => s
  | date d => d.write
  | time t => t.write " "
  | v => v.spelled

/-! ## Long integers -/

/-- The number of decimal digits up to which integers are read and written. -/
def digitLimit : Nat := 4300

mutual

/-- Whether all integers of a value can be written. -/
def fitsText : Value → Bool
  | int n => n.natAbs < Nat.pow 10 digitLimit
  | list items | set items => fitItems items
  | map entries => fitEntries entries
  | pair k v => fitsText k && fitsText v
  | _ => true

def fitItems : List Value → Bool
  | [] => true
  | v :: vs => fitsText v && fitItems vs

def fitEntries : List (Value × Value) → Bool
  | [] => true
  | (k, v) :: rest => fitsText k && fitsText v && fitEntries rest

end

/-- The text of a value whose integers can be written. -/
def text? (v : Value) : Except Fault String :=
  if v.fitsText then .ok v.text else .error .unwrittenInteger

end Value

/-- What is said about integers that are too long; `count` tells how long. -/
def digitLimitMessage (count : String) : String :=
  "Exceeds the limit (" ++ toString Value.digitLimit ++ " digits) for integer string conversion" ++ count ++
    "; use sys.set_int_max_str_digits() to increase the limit"

def Fault.message : Fault → String
  | malformed => "malformed document"
  | badInteger base digits =>
    "invalid literal for int() with base " ++ toString base ++ ": " ++
      String.ofList ((Text.quoted digits).toList.take 200)
  | badFloat digits => "could not convert string to float: " ++ Text.quoted digits
  | emptyNumber => "string index out of range"
  | badDate cause => cause.message
  | notATime => "'NoneType' object has no attribute 'groupdict'"
  | notATruthValue word => Text.quoted word
  | timeOfMapping => "expected string or bytes-like object, got 'list'"
  | badCodePoint _ => "chr() arg not in range(0x110000)"
  | longInteger n => digitLimitMessage (": value has " ++ toString n ++ " digits")
  | unwrittenInteger => digitLimitMessage ""
  | tooManySixties => "int too large to convert to float"
  | endless => "maximum recursion depth exceeded"

/-! ## Readers -/

/-- A reader of YAML texts. Settings are read by whichever reader there is. -/
class Loader where
  /-- the documents of a text in front of a fault, and the fault if there is one -/
  documents : List Char → List Value × Option Fault

end SpringAtlas.Yaml

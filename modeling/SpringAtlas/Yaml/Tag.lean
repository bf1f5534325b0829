import SpringAtlas.Pattern.Search
import SpringAtlas.Text.Letter

/-!
# `Yaml.Tag` — how values are made

The tag of a node says how its value is made. It is written, or for a plain scalar it is the tag whose spelling the
scalar fits.

## Contents
* `Tag`, `Tag.ofName` — tags and their full names
* `spellings`, `resolveTag` — the tag of a plain scalar
* `Tag.ofScalar`, `Tag.ofCollection` — the tag of a node with or without a written one
-/

namespace SpringAtlas.Yaml

/-! ## Tags -/

/-- How the value of a node is made. -/
inductive Tag where
  | null
  | bool
  | int
  | float
  | binary
  | timestamp
  | omap
  | pairs
  | set
  | str
  | seq
  | map
  /-- the key that merges mappings -/
  | merge
  /-- the key of a mapping's own value -/
  | value
  | unknown
deriving Repr, BEq, DecidableEq

namespace Tag

/-- Tags by the last part of their full name. -/
def names : List (String × Tag) :=
  [("null", null), ("bool", bool), ("int", int), ("float", float), ("binary", binary),
   ("timestamp", timestamp), ("omap", omap), ("pairs", pairs), ("set", set), ("str", str), ("seq", seq),
   ("map", map), ("merge", merge), ("value", value)]

def standardRoot : String := "tag:yaml.org,2002:"

/-- The tag with a full name. -/
def ofName (name : String) : Tag :=
  match names.find? fun e => standardRoot ++ e.1 == name with
  | some e => e.2
  | none => unknown

end Tag

/-! ## Plain scalars -/

section Spelling

open Pattern

def digit : Pattern := one Text.isAsciiDigit
def sign : Pattern := opt (among "-+")
def digitsOrMarks : Pattern := star (one fun c => Text.isAsciiDigit c || c == '_')
def nonZero : Pattern := one fun c => Text.isAsciiDigit c && c != '0'
def exponent : Pattern := opt (among "eE" ++ among "-+" ++ plus digit)

/-- One or more groups of a number to base sixty. -/
def sixties : Pattern := plus (lit ":" ++ opt (one fun c => 48 ≤ c.toNat && c.toNat ≤ 53) ++ digit)

def boolWords : Pattern :=
  oneOf ["yes", "Yes", "YES", "no", "No", "NO", "true", "True", "TRUE", "false", "False", "FALSE", "on", "On",
    "ON", "off", "Off", "OFF"]

def floatSpelling : Pattern :=
  anyOf [sign ++ digit ++ digitsOrMarks ++ lit "." ++ digitsOrMarks ++ exponent,
    lit "." ++ digit ++ digitsOrMarks ++ exponent,
    sign ++ digit ++ digitsOrMarks ++ sixties ++ lit "." ++ digitsOrMarks,
    sign ++ lit "." ++ oneOf ["inf", "Inf", "INF"],
    lit "." ++ oneOf ["nan", "NaN", "NAN"]]

def intSpelling : Pattern :=
  anyOf [sign ++ lit "0b" ++ plus (among "01_"),
    sign ++ lit "0" ++ plus (among "01234567_"),
    sign ++ (lit "0" <|> nonZero ++ digitsOrMarks),
    sign ++ lit "0x" ++ plus (among "0123456789abcdefABCDEF_"),
    sign ++ nonZero ++ digitsOrMarks ++ sixties]

/-- A date, or a date and a time of day, with groups for its fields. -/
def timeSpelling : Pattern :=
  anyOf [times 4 digit ++ lit "-" ++ times 2 digit ++ lit "-" ++ times 2 digit,
    times 4 digit ++ lit "-" ++ digit ++ opt digit ++ lit "-" ++ digit ++ opt digit ++
    (among "Tt" <|> plus (among " \t")) ++ digit ++ opt digit ++ lit ":" ++ times 2 digit ++ lit ":" ++
    times 2 digit ++ opt (lit "." ++ star digit) ++
    opt (star (among " \t") ++
      (lit "Z" <|> among "-+" ++ digit ++ opt digit ++ opt (lit ":" ++ times 2 digit)))]

end Spelling

/-- The tags that plain scalars may have, with the characters such scalars start with. -/
def spellings : List (Tag × (Char → Bool) × Pattern) :=
  let numeric (c : Char) := Text.isAsciiDigit c || c == '-' || c == '+'
  [(.bool, "yYnNtTfFoO".toList.contains, boolWords),
   (.float, fun c => numeric c || c == '.', floatSpelling),
   (.int, numeric, intSpelling),
   (.merge, (· == '<'), .lit "<<"),
   (.null, "~nN".toList.contains, .oneOf ["~", "null", "Null", "NULL"]),
   (.timestamp, Text.isAsciiDigit, timeSpelling),
   (.value, (· == '='), .lit "="),
   (.unknown, "!&*".toList.contains, .oneOf ["!", "&", "*"])]

/-- The tag whose spelling a plain scalar fits; the empty scalar is null. -/
def resolveTag (text : List Char) : Tag :=
  match text with
  | [] => .null
  | c :: _ =>
    match spellings.find? fun (_, starts, p) => starts c && ((p ++ Pattern.lastLineEnd).matchStart? text).isSome with
    | some (tag, _) => tag
    | none => .str

/-! ## Written tags -/

namespace Tag

/-- The tag of a scalar. The written tag `!` asks for the spelling to be looked at. -/
def ofScalar (written : Option String) (text : String) (plain : Bool) : Tag :=
  match written with
  | none => if plain then resolveTag text.toList else .str
  | some name => if name == "!" then resolveTag text.toList else .ofName name

/-- The tag of a collection, which is `usual` unless another one is written. -/
def ofCollection (written : Option String) (usual : Tag) : Tag :=
  match written with
  | none => usual
  | some name => if name == "!" then usual else .ofName name

end Tag

end SpringAtlas.Yaml

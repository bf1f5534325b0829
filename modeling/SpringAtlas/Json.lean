import SpringAtlas.Text.Surrogate

/-!
# `Json` — JSON documents

Reports and machine-readable log lines are JSON. Objects keep the order of their fields, text is written in
ASCII (other characters as UTF-16 escapes), and a decimal carries the digits it is written with.

## Contents
* `Json` — documents
* `Json.quote` — a text as a JSON string
* `Json.compact`, `Json.pretty` — a document on one line, and indented by two spaces a level
-/

namespace SpringAtlas

inductive Json where
  | null
  | bool (b : Bool)
  | int (n : Int)
  /-- a number with a fraction, by its digits, or one of the words `inf`, `-inf` and `nan` -/
  | decimal (digits : String)
  | str (s : String)
  | arr (items : List Json)
  | obj (fields : List (String × Json))
deriving Repr, Inhabited

namespace Json

/-! ## Views -/

def ofOption (s : Option String) : Json :=
  match s with
  | some s => str s
  | none => null

def ofStrings (ss : List String) : Json :=
  arr (ss.map str)

def nat (n : Nat) : Json :=
  int n

/-! ## Strings -/

/-- The four hexadecimal digits of a UTF-16 unit. -/
def hex4 (n : Nat) : String :=
  let digits := Nat.toDigits 16 n
  String.ofList (List.replicate (4 - digits.length) '0' ++ digits)

/-- A character inside a JSON string; beyond the basic plane it takes a surrogate pair. -/
def escape (c : Char) : String :=
  if c == '"' then "\\\""
  else if c == '\\' then "\\\\"
  else if c == '\n' then "\\n"
  else if c == '\r' then "\\r"
  else if c == '\t' then "\\t"
  else if c.toNat == 8 then "\\b"
  else if c.toNat == 12 then "\\f"
  else if 32 ≤ c.toNat && c.toNat < 127 then String.singleton c
  else if Text.codePoint c < 0x10000 then "\\u" ++ hex4 (Text.codePoint c)
  else
    let n := c.toNat - 0x10000
    "\\u" ++ hex4 (0xD800 + n / 0x400) ++ "\\u" ++ hex4 (0xDC00 + n % 0x400)

def quote (s : String) : String :=
  "\"" ++ String.join (s.toList.map escape) ++ "\""

/-! ## Documents -/

/-- A number with a fraction; one that is not finite has a word of its own. -/
def writeDecimal (digits : String) : String :=
  if digits == "inf" then "Infinity"
  else if digits == "-inf" then "-Infinity"
  else if digits == "nan" then "NaN"
  else digits

mutual

/-- The document on one line, with a space after each comma and colon. -/
def compact : Json → String
  | null => "null"
  | bool true => "true"
  | bool false => "false"
  | int n => toString n
  | decimal digits => writeDecimal digits
  | str s => quote s
  | arr items => "[" ++ ", ".intercalate (compactItems items) ++ "]"
  | obj fields => "\x7b" ++ ", ".intercalate (compactFields fields) ++ "\x7d"

def compactItems : List Json → List String
  | [] => []
  | v :: vs => compact v :: compactItems vs

def compactFields : List (String × Json) → List String
  | [] => []
  | (k, v) :: rest => (quote k ++ ": " ++ compact v) :: compactFields rest

end

/-- A line break followed by `depth` levels of indentation. -/
def newline (depth : Nat) : String :=
  String.ofList ('\n' :: List.replicate (2 * depth) ' ')

/-- Written items between brackets, one a line; nothing between the brackets if there are none. -/
def bracketed (opening closing : String) (depth : Nat) (items : List String) : String :=
  if items.isEmpty then opening ++ closing
  else opening ++ newline (depth + 1) ++ ("," ++ newline (depth + 1)).intercalate items ++
    newline depth ++ closing

mutual

/-- The document with every item on a line of its own, at the given level. -/
def prettyAt (depth : Nat) : Json → String
  | arr items => bracketed "[" "]" depth (prettyItems (depth + 1) items)
  | obj fields => bracketed "\x7b" "\x7d" depth (prettyFields (depth + 1) fields)
  | v => compact v

def prettyItems (depth : Nat) : List Json → List String
  | [] => []
  | v :: vs => prettyAt depth v :: prettyItems depth vs

def prettyFields (depth : Nat) : List (String × Json) → List String
  | [] => []
  | (k, v) :: rest => (quote k ++ ": " ++ prettyAt depth v) :: prettyFields depth rest

end

def pretty (v : Json) : String :=
  prettyAt 0 v

end Json

end SpringAtlas

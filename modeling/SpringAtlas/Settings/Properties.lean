import SpringAtlas.Pattern.Search
import SpringAtlas.Text.Lines

/-!
# `Settings.Properties` — properties files

A properties file has one entry a line: a key, a separator (`=`, `:` or blanks) and a value. A backslash in a
key escapes the character behind it, a line that ends in a single backslash goes on in the next one, and lines
that start with `#` or `!` are comments. The first entry of a key counts.

## Contents
* `Entries`, `Entries.setDefault`, `Entries.set` — entries in order, with distinct keys
* `entryOf` — key and value of a logical line
* `parseProperties`
-/

namespace SpringAtlas.Settings

/-- Keys and values, in order. -/
abbrev Entries := List (String × String)

namespace Entries

/-- Adds an entry unless its key is there. -/
def setDefault (es : Entries) (key value : String) : Entries :=
  if (es.lookup key).isSome then es else es ++ [(key, value)]

/-- Sets the value of a key; a key that is there keeps its place. -/
def set (es : Entries) (key value : String) : Entries :=
  if (es.lookup key).isSome then es.map fun e => if e.1 == key then (key, value) else e
  else es ++ [(key, value)]

end Entries

/-! ## Lines -/

open Pattern in
/-- A key, a separator and a value. -/
def entryPattern : Pattern :=
  textStart ++
  group 1 (plus (lit "\\" ++ inLine <|> one fun c => !(c == '=' || c == ':' || Text.isBlank c))) ++
  blanks ++ one (fun c => c == '=' || c == ':' || Text.isBlank c) ++ blanks ++
  group 2 (star inLine) ++ lastLineEnd

/-- The key and the value of a logical line; without a separator all of it is the key. -/
def entryOf (line : List Char) : List Char × List Char :=
  let (key, value) := match entryPattern.matchStart? line with
    | some m => (m.group line 1, Text.trim (m.group line 2))
    | none => (line, [])
  (key.filter (· != '\\'), value)

/-- Whether a line goes on in the next one. -/
def continues (line : List Char) : Bool :=
  Text.endsWith ['\\'] line && !Text.endsWith ['\\', '\\'] line

def isComment (line : List Char) : Bool :=
  line.head? == some '#' || line.head? == some '!'

/-- The logical lines of a file. `pending` is the part of a logical line already read; one that the end of the
    file cuts off is dropped. -/
def logicalLines : List Char → List (List Char) → List (List Char)
  | _, [] => []
  | pending, raw :: rest =>
    let line := if pending.isEmpty then Text.trim raw else Text.trimStart raw
    if pending.isEmpty && (line.isEmpty || isComment line) then logicalLines [] rest
    else if continues line then logicalLines (pending ++ line.dropLast) rest
    else (pending ++ line) :: logicalLines [] rest

/-- The entries of a properties file. -/
def parseProperties (text : List Char) : Entries :=
  (logicalLines [] (Text.splitLines text)).foldl (fun es line =>
    let entry := entryOf line
    es.setDefault (String.ofList entry.1) (String.ofList entry.2)) []

end SpringAtlas.Settings

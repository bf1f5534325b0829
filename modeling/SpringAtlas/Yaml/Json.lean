import SpringAtlas.Json
import SpringAtlas.Yaml.Literal

/-!
# `Yaml.Json` — values as JSON documents

Every JSON document is a value. The other way round, what JSON does not have is written as text, and the keys of a
mapping become texts.
-/

namespace SpringAtlas.Yaml.Value

mutual

def ofJson : Json → Value
  | .null => null
  | .bool b => bool b
  | .int n => int n
  | .decimal digits => ((floatIn digits.toList).toOption.map float).getD null
  | .str s => str s
  | .arr items => list (ofItems items)
  | .obj fields => map (ofFields fields)

def ofItems : List Json → List Value
  | [] => []
  | v :: vs => ofJson v :: ofItems vs

def ofFields : List (String × Json) → List (Value × Value)
  | [] => []
  | (k, v) :: rest => (str k, ofJson v) :: ofFields rest

end

mutual

def toJson : Value → Json
  | null => .null
  | bool b => .bool b
  | int n => .int n
  | list items | set items => .arr (toItems items)
  | pair k v => .arr [toJson k, toJson v]
  | map entries => .obj (toFields entries)
  | v => .str v.text

def toItems : List Value → List Json
  | [] => []
  | v :: vs => toJson v :: toItems vs

def toFields : List (Value × Value) → List (String × Json)
  | [] => []
  | (k, v) :: rest => (k.text, toJson v) :: toFields rest

end

end SpringAtlas.Yaml.Value

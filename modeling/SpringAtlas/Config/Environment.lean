import SpringAtlas.Pattern.Search
import SpringAtlas.Yaml.Value

/-!
# `Config.Environment` — environment variables in configuration values

A text in a configuration may refer to an environment variable as `${NAME}`. Substitution goes through values of
any shape; keys of mappings stay as they are, and a variable that is not set is an error.
-/

namespace SpringAtlas

/-- Why references cannot be replaced. -/
inductive ExpansionError where
  | unset (name : String)
  /-- a collection that contains itself -/
  | endless
deriving Repr, BEq, DecidableEq

/-- The variables that are set. -/
abbrev Environment := List (String × String)

open Pattern in
def variableReference : Pattern :=
  lit "$\x7b" ++ group 1 (plus (except "\x7d")) ++ lit "\x7d"

/-- The name that a reference stands for. -/
def referencedName (text : List Char) (m : Match) : String :=
  String.ofList (m.group text 1)

/-- The names that a text refers to, in order. -/
def referencedNames (text : List Char) : List String :=
  (variableReference.findAll text).map (referencedName text)

namespace Environment

/-- A text with its references replaced; otherwise the first name that is not set. -/
def expandText (env : Environment) (text : List Char) : Except ExpansionError (List Char) :=
  match (referencedNames text).find? fun name => (env.lookup name).isNone with
  | some name => .error (.unset name)
  | none => .ok (variableReference.replaceWith
      (fun m => ((env.lookup (referencedName text m)).getD "").toList) text)

mutual

/-- A value with the references in its texts replaced. Entries of ordered mappings stay as they are. -/
def expand (env : Environment) : Yaml.Value → Except ExpansionError Yaml.Value
  | .str s => do return .str (String.ofList (← env.expandText s.toList))
  | .list items => do return .list (← expandItems env items)
  | .map entries => do return .map (← expandEntries env entries)
  | .again _ => .error .endless
  | v => .ok v

def expandItems (env : Environment) : List Yaml.Value → Except ExpansionError (List Yaml.Value)
  | [] => .ok []
  | v :: vs => do return (← expand env v) :: (← expandItems env vs)

def expandEntries (env : Environment) :
    List (Yaml.Value × Yaml.Value) → Except ExpansionError (List (Yaml.Value × Yaml.Value))
  | [] => .ok []
  | (k, v) :: rest => do return (k, ← expand env v) :: (← expandEntries env rest)

end

end Environment

end SpringAtlas

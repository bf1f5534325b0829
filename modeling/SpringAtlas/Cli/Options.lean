/-!
# `Cli.Options` — options on a command line

Options have a long name, `--output`, and may have a short one, `-o`. The value of an option is the next argument,
or stands behind an equals sign of the long name, or right behind the short name. Short flags may stand together.
Two dashes alone end the options.

## Contents
* `OptionSpec`, `UsageError`, `ParsedOptions`
* `parseOptions`
-/

namespace SpringAtlas.Cli

/-- An option: its names, long one first, and whether it has a value. -/
structure OptionSpec where
  name : String
  short : Option Char := none
  takesValue : Bool := false
deriving Repr, BEq

/-- Why a command line is refused. -/
inductive UsageError where
  | unknownOption (name : String)
  | missingValue (name : String)
  | unexpectedValue (name : String)
  | badPath (path : String)
  | missingCommand
  | unknownCommand (name : String)
  | extraArgument (argument : String)
deriving Repr, BEq, DecidableEq

/-- The options found, by long name, with their values, and the other arguments, each in order. -/
structure ParsedOptions where
  options : List (String × String) := []
  arguments : List String := []
deriving Repr, BEq

namespace ParsedOptions

/-- The last value of an option. -/
def value? (p : ParsedOptions) (name : String) : Option String :=
  p.options.reverse.lookup name

def has (p : ParsedOptions) (name : String) : Bool :=
  (p.value? name).isSome

def addOptions (found : List (String × String)) (p : ParsedOptions) : ParsedOptions :=
  { p with options := found ++ p.options }

def addArgument (argument : String) (p : ParsedOptions) : ParsedOptions :=
  { p with arguments := argument :: p.arguments }

end ParsedOptions

/-- Options read from one argument, and one that waits for its value in the next argument. -/
structure ReadOptions where
  found : List (String × String) := []
  pending : Option String := none
deriving Repr, BEq

/-- Short options that stand together; the first one with a value takes what follows. -/
def readShort (specs : List OptionSpec) : List Char → Except UsageError ReadOptions
  | [] => .ok {}
  | c :: rest =>
    match specs.find? fun s => s.short == some c with
    | none => .error (.unknownOption (String.ofList ['-', c]))
    | some s =>
      if s.takesValue then
        if rest.isEmpty then .ok { pending := some s.name }
        else .ok { found := [(s.name, String.ofList rest)] }
      else do
        let more ← readShort specs rest
        return { more with found := (s.name, "") :: more.found }

/-- The name and the value of a long option with an equals sign. -/
def splitEquals (arg : List Char) : List Char × Option (List Char) :=
  match arg.dropWhile (· != '=') with
  | [] => (arg, none)
  | _ :: value => (arg.takeWhile (· != '='), some value)

/-- The options in one argument. -/
def readOption (specs : List OptionSpec) (arg : List Char) : Except UsageError ReadOptions :=
  let (name, value) := splitEquals arg
  match specs.find? fun s => s.name.toList == name with
  | some s =>
    match s.takesValue, value with
    | true, some v => .ok { found := [(s.name, String.ofList v)] }
    | true, none => .ok { pending := some s.name }
    | false, some _ => .error (.unexpectedValue s.name)
    | false, none => .ok { found := [(s.name, "")] }
  | none =>
    if "--".toList.isPrefixOf arg then .error (.unknownOption (String.ofList name))
    else readShort specs arg.tail

def isOptionLike (arg : String) : Bool :=
  arg.toList.head? == some '-' && 1 < arg.length

/-- The options and arguments of a command line. If options and arguments may not be mixed, the first argument
    ends the options. -/
def parseOptions (specs : List OptionSpec) (mixed : Bool) : List String → Except UsageError ParsedOptions
  | [] => .ok {}
  | arg :: rest =>
    if arg == "--" then .ok { arguments := rest }
    else if isOptionLike arg then
      match readOption specs arg.toList with
      | .error e => .error e
      | .ok ⟨found, none⟩ => do return (← parseOptions specs mixed rest).addOptions found
      | .ok ⟨found, some pending⟩ =>
        match rest with
        | [] => .error (.missingValue pending)
        | v :: rest => do
          return (← parseOptions specs mixed rest).addOptions (found ++ [(pending, v)])
    else if mixed then do return (← parseOptions specs mixed rest).addArgument arg
    else .ok { arguments := arg :: rest }

end SpringAtlas.Cli

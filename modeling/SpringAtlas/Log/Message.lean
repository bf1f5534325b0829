import SpringAtlas.Decimal.Fixed
import SpringAtlas.Log.Place
import SpringAtlas.Yaml.Value

/-!
# `Log.Message` — messages with arguments

The places of a message are filled from its arguments, in order or by name. Every argument must be used, except
where the arguments are named. Without arguments a message stands as it is.

## Contents
* `MessageError` — why a message cannot be written
* `Supply` — the arguments that are left
* `shown` — an argument as a place shows it
* `fillMessage` — a message with its arguments
-/

namespace SpringAtlas

/-- Why a message cannot be written. -/
inductive MessageError where
  | missingArgument
  | unusedArgument
  /-- a place has a name, and the arguments have none -/
  | unnamedArguments
  | missingKey (key : String)
  | badSize
  /-- an argument beyond all sizes -/
  | sizeOutOfRange
  /-- a written size beyond all sizes; the name of the size -/
  | sizeTooBig (name : String)
  | notANumber
  | notACharacter
  | noSuchCharacter
  /-- an infinity as a whole number -/
  | infiniteInteger
  /-- no number as a whole number -/
  | nanInteger
  /-- a whole number beyond all doubles -/
  | tooLargeForFloat
  | incompletePlace
  | incompleteKey
  | unknownKind (kind : Char) (position : Nat)
deriving Repr, BEq, DecidableEq

/-- A character in a message: itself if it is a printable one of ASCII. -/
def shownKind (kind : Char) : Char :=
  if 31 ≤ kind.toNat && kind.toNat < 127 then kind else '?'

def MessageError.message : MessageError → String
  | missingArgument => "not enough arguments for format string"
  | unusedArgument => "not all arguments converted during string formatting"
  | unnamedArguments => "format requires a mapping"
  | missingKey key => Text.quoted key
  | badSize => "* wants int"
  | sizeOutOfRange => "size out of range"
  | sizeTooBig name => name ++ " too big"
  | notANumber => "a number is required"
  | notACharacter => "%c requires int or char"
  | noSuchCharacter => "%c arg not in range(0x110000)"
  | infiniteInteger => "cannot convert float infinity to integer"
  | nanInteger => "cannot convert float NaN to integer"
  | tooLargeForFloat => "int too large to convert to float"
  | incompletePlace => "incomplete format"
  | incompleteKey => "incomplete format key"
  | unknownKind kind position =>
    "unsupported format character '" ++ String.singleton (shownKind kind) ++ "' (0x" ++
      String.ofList (Nat.toDigits 16 kind.toNat) ++ ") at index " ++ toString position

/-! ## Arguments -/

/-- The arguments that are left, and all of them by name if they have names. -/
structure Supply where
  named : Option (List (Yaml.Value × Yaml.Value)) := none
  rest : List Yaml.Value := []

/-- One argument that is a mapping with entries gives its entries as named arguments; as a whole it is the next
    argument, too. -/
def Supply.ofArguments : List Yaml.Value → Supply
  | [.map (e :: es)] => ⟨some (e :: es), [.map (e :: es)]⟩
  | args => ⟨none, args⟩

/-- Work that uses up arguments. -/
abbrev Filling := StateT Supply (Except MessageError)

namespace Filling

/-- The next argument. -/
def take : Filling Yaml.Value := do
  let s ← get
  match s.rest with
  | [] => throw .missingArgument
  | v :: rest => do
    set { s with rest }
    return v

/-- Makes the argument of a name the next one. -/
def select : PlaceKey → Filling Unit
  | .next => return
  | .unclosed => do
    if (← get).named.isNone then throw .unnamedArguments
    throw .incompleteKey
  | .named key => do
    let s ← get
    let some entries := s.named | throw .unnamedArguments
    match Yaml.Value.lookup key entries with
    | none => throw (.missingKey key)
    | some v => set { s with rest := [v] }

/-- A size, if there is one; its magnitude has a number of bits. -/
def size (name : String) (bits : Nat) : PlaceSize → Filling (Option Int)
  | .absent => return none
  | .written n => if n < Nat.pow 2 bits then return some n else throw (.sizeTooBig name)
  | .taken => do
    let some n := (← take).asInt? | throw .badSize
    let limit : Int := Nat.pow 2 bits
    if -limit ≤ n && n < limit then return some n else throw .sizeOutOfRange

end Filling

/-! ## Showing an argument -/

/-- An argument as text with a sign, a mark of its base and the characters that may be filled up with zeros. -/
structure Shown where
  sign : List Char := []
  mark : List Char := []
  body : List Char
  /-- whether the zero flag counts -/
  number : Bool := true

/-- Characters beyond ASCII as escapes. -/
def asciiOnly (cs : List Char) : List Char :=
  cs.flatMap fun c => if c.toNat < 128 then [c] else Text.escaped c

/-- The sign of a number in a place. -/
def signIn (flags : PlaceFlags) (negative : Bool) : List Char :=
  if negative then ['-'] else if flags.signed then ['+'] else if flags.blank then [' '] else []

/-- The whole number that a decimal place shows: a fraction is cut off. -/
def wholeNumber : Yaml.Value → Except MessageError Int
  | .float (.finite negative m e) =>
    let r := Double.magnitude m e
    let n : Int := r.1 / r.2
    .ok (if negative then -n else n)
  | .float (.infinite _) => .error .infiniteInteger
  | .float .nan => .error .nanInteger
  | v => v.asInt?.elim (.error .notANumber) .ok

def doubleOf : Yaml.Value → Except MessageError Double
  | .float x => .ok x
  | v =>
    match v.asInt? with
    | none => .error .notANumber
    | some n =>
      match Double.ofRatio (decide (n < 0)) n.natAbs 1 with
      | .infinite _ => .error .tooLargeForFloat
      | x => .ok x

/-- A whole number in a base, with at least as many digits as the precision asks for. -/
def shownInteger (flags : PlaceFlags) (precision : Option Nat) (base : Nat) (mark : List Char) (n : Int) : Shown :=
  let ds := Nat.toDigits base n.natAbs
  { sign := signIn flags (decide (n < 0))
    mark := if flags.full then mark else []
    body := zeros (precision.getD 0 - ds.length) ++ ds }

/-- A double in a form, with six places unless the precision says otherwise. -/
def shownDouble (flags : PlaceFlags) (precision : Option Nat) (form : FloatForm) (x : Double) : Shown :=
  match form.write flags.full (precision.getD 6) x with
  | '-' :: body => { sign := ['-'], body }
  | body => { sign := signIn flags false, body }

/-- A text cut to the precision. -/
def shownText (precision : Option Nat) (cs : List Char) : Shown :=
  { body := (precision.map cs.take).getD cs, number := false }

def shownChar : Yaml.Value → Except MessageError Shown
  | .str s =>
    match s.toList with
    | [c] => .ok { body := [c], number := false }
    | _ => .error .notACharacter
  | v =>
    match v.asInt? with
    | none => .error .notACharacter
    | some n =>
      if 0 ≤ n && n < 0x110000 then .ok { body := [Text.ofCodePoint n.toNat], number := false }
      else .error .noSuchCharacter

/-- Letters as capitals, those of marks and exponents included. -/
def Shown.capital (s : Shown) : Shown :=
  { s with mark := s.mark.map Char.toUpper, body := s.body.map Char.toUpper }

/-- An argument as a place of a kind shows it; none if there is no such kind. -/
def shown? (flags : PlaceFlags) (precision : Option Nat) (kind : Char) (v : Yaml.Value) :
    Option (Except MessageError Shown) :=
  let whole (base : Nat) (mark : String) : Except MessageError Shown :=
    match v.asInt? with
    | some n => .ok (shownInteger flags precision base mark.toList n)
    | none => .error .notANumber
  let double (form : FloatForm) : Except MessageError Shown :=
    (doubleOf v).map (shownDouble flags precision form)
  match kind with
  | 's' => some (.ok (shownText precision v.text.toList))
  | 'r' => some (.ok (shownText precision v.spelled.toList))
  | 'a' => some (.ok (shownText precision (asciiOnly v.spelled.toList)))
  | 'd' | 'i' | 'u' => some ((wholeNumber v).map (shownInteger flags precision 10 []))
  | 'o' => some (whole 8 "0o")
  | 'x' => some (whole 16 "0x")
  | 'X' => some ((whole 16 "0x").map Shown.capital)
  | 'e' => some (double .scientific)
  | 'E' => some ((double .scientific).map Shown.capital)
  | 'f' => some (double .fixed)
  | 'F' => some ((double .fixed).map Shown.capital)
  | 'g' => some (double .general)
  | 'G' => some ((double .general).map Shown.capital)
  | 'c' => some (shownChar v)
  | _ => none

/-- Fills up to a width: blanks on the right with the left flag, zeros before the digits of a number with the
    zero flag, and blanks on the left otherwise. -/
def Shown.fill (s : Shown) (flags : PlaceFlags) (width : Nat) : List Char :=
  let missing := width - (s.sign.length + s.mark.length + s.body.length)
  if flags.left then s.sign ++ s.mark ++ s.body ++ List.replicate missing ' '
  else if flags.zero && s.number then s.sign ++ s.mark ++ zeros missing ++ s.body
  else List.replicate missing ' ' ++ s.sign ++ s.mark ++ s.body

/-! ## Filling a message -/

/-- A place with its argument. A negative width counts as the left flag. -/
def Place.filled (p : Place) (position : Nat) : Filling (List Char) := do
  Filling.select p.key
  let width := (← Filling.size "width" 63 p.width).getD 0
  let precision := (← Filling.size "precision" 31 p.precision).map Int.toNat
  match p.kind with
  | none => throw .incompletePlace
  | some kind =>
    let v ← Filling.take
    let flags := { p.flags with left := p.flags.left || decide (width < 0) }
    match shown? flags precision kind v with
    | none => throw (.unknownKind kind position)
    | some r => return (← r).fill flags width.natAbs

def Piece.filled : Piece → Filling (List Char)
  | .plain c => return [c]
  | .place p position => p.filled position

/-- A message with its arguments. -/
def fillMessage (message : String) (args : List Yaml.Value) : Except MessageError String :=
  if args.isEmpty then .ok message
  else do
    let (texts, left) ← ((pieces message).mapM Piece.filled).run (.ofArguments args)
    if left.named.isNone && !left.rest.isEmpty then throw .unusedArgument
    return String.ofList texts.flatten

end SpringAtlas

import SpringAtlas.Yaml.Scalar

/-!
# `Yaml.Token` — the tokens of a YAML text

Tokens are the indicators, scalars and properties of a text, together with marks for the start and the end of
indented collections. Whether a piece of text is a key is only known at the colon behind it; until then it is a
*pending key*, and at the colon the marks it needs are put in front of it.

A reader takes tokens one by one, so a text may be read up to a fault. `tokenize` gives the tokens in front of
the fault; a token that is still a pending key when the fault is met is not one of them.

## Contents
* `Token`
* `Scanner` — the state between two tokens
* `Scanner.fetch` — the next token
* `tokenize` — all tokens
-/

namespace SpringAtlas.Yaml

inductive Token where
  /-- a version directive, with its major number -/
  | version (major : Nat)
  | tagHandle (handle expansion : String)
  | otherDirective
  | documentStart
  | documentEnd
  | streamEnd
  | blockSequenceStart
  | blockMappingStart
  | blockEnd
  | flowSequenceStart
  | flowSequenceEnd
  | flowMappingStart
  | flowMappingEnd
  | key
  | value
  | blockEntry
  | flowEntry
  | alias (name : String)
  | anchor (name : String)
  | tag (handle : Option String) (suffix : String)
  | scalar (text : String) (plain : Bool)
deriving Repr, BEq, DecidableEq

/-- A token that may turn out to be a key. -/
structure PendingKey where
  /-- depth of flow collections around it -/
  level : Nat
  /-- number of tokens in front of it -/
  number : Nat
  /-- whether nothing but a key can stand there -/
  required : Bool
  index : Nat
  line : Nat
  column : Nat
deriving Repr

/-- The state between two tokens. -/
structure Scanner where
  cursor : Cursor
  tokens : Array Token := #[]
  flowLevel : Nat := 0
  /-- column of the innermost indented collection, `-1` outside of any -/
  indent : Int := -1
  /-- the columns around it, innermost first -/
  indents : List Int := []
  keyAllowed : Bool := true
  pending : List PendingKey := []

namespace Scanner

def push (s : Scanner) (t : Token) : Scanner :=
  { s with tokens := s.tokens.push t }

def inFlow (s : Scanner) : Bool :=
  s.flowLevel != 0

/-- The scanner with its cursor moved over `n` characters. -/
def advance (s : Scanner) (n : Nat) : Scanner :=
  { s with cursor := s.cursor.steps n }

/-! ## Pending keys -/

/-- A key has to be on one line and within 1024 characters. -/
def isStale (s : Scanner) (k : PendingKey) : Bool :=
  k.line != s.cursor.line || 1024 < s.cursor.index - k.index

/-- Drops keys that can no longer be completed; a required one is a fault. -/
def dropStale (s : Scanner) : Except Fault Scanner :=
  if s.pending.any fun k => s.isStale k && k.required then .error .malformed
  else .ok { s with pending := s.pending.filter fun k => !s.isStale k }

/-- Drops the pending key of the current level; a required one is a fault. -/
def dropKey (s : Scanner) : Except Fault Scanner :=
  if s.pending.any fun k => k.level == s.flowLevel && k.required then .error .malformed
  else .ok { s with pending := s.pending.filter fun k => k.level != s.flowLevel }

/-- Notes that the next token may be a key, if keys are allowed here. -/
def saveKey (s : Scanner) : Except Fault Scanner := do
  if s.keyAllowed then
    let required := !s.inFlow && s.indent == s.cursor.column
    let s ← s.dropKey
    return { s with pending := ⟨s.flowLevel, s.tokens.size, required, s.cursor.index, s.cursor.line,
      s.cursor.column⟩ :: s.pending }
  else return s

/-! ## Indentation -/

/-- Closes the collections indented further than `column`, given the columns around the innermost. -/
def closeIndents (column : Int) : List Int → Int → Array Token → Int × List Int × Array Token
  | [], indent, tokens => (indent, [], tokens)
  | outer :: rest, indent, tokens =>
    if column < indent then closeIndents column rest outer (tokens.push .blockEnd)
    else (indent, outer :: rest, tokens)

/-- Closes the indented collections that end before a token at `column`. -/
def unwind (s : Scanner) (column : Int) : Scanner :=
  if s.inFlow then s
  else
    let (indent, indents, tokens) := closeIndents column s.indents s.indent s.tokens
    { s with indent, indents, tokens }

/-- Opens a collection at `column` if that is further in: the scanner, and whether it did. -/
def openIndent (s : Scanner) (column : Nat) : Scanner × Bool :=
  if s.indent < column then ({ s with indents := s.indent :: s.indents, indent := column }, true)
  else (s, false)

/-! ## Between tokens -/

/-- The place of the next token: spaces, comments and line breaks are skipped, and a line break allows a key
    outside of flow collections. -/
def skipToToken : Nat → Scanner → Scanner
  | 0, s => s
  | fuel + 1, s =>
    let c := (s.cursor.skipWhile (· == ' ')).skipComment
    if isBreak c.peek then
      skipToToken fuel { s with cursor := c.lineBreak.2, keyAllowed := s.keyAllowed || !s.inFlow }
    else { s with cursor := c }

/-! ## Indicators -/

/-- A directive or document mark ends all indented collections. -/
def fetchOutermost (s : Scanner) : Except Fault Scanner := do
  let s ← (s.unwind (-1)).dropKey
  return { s with keyAllowed := false }

def fetchDocumentMark (s : Scanner) (t : Token) : Except Fault Scanner := do
  return (← s.fetchOutermost).advance 3 |>.push t

def fetchFlowStart (s : Scanner) (t : Token) : Except Fault Scanner := do
  let s ← s.saveKey
  return { s with flowLevel := s.flowLevel + 1, keyAllowed := true }.advance 1 |>.push t

def fetchFlowEnd (s : Scanner) (t : Token) : Except Fault Scanner := do
  let s ← s.dropKey
  return { s with flowLevel := s.flowLevel - 1, keyAllowed := false }.advance 1 |>.push t

def fetchFlowEntry (s : Scanner) : Except Fault Scanner := do
  let s ← s.dropKey
  return { s with keyAllowed := true }.advance 1 |>.push .flowEntry

/-- Opens an indented collection for an indicator at the current place, which has to be allowed there. -/
def openFor (s : Scanner) (start : Token) : Except Fault Scanner :=
  if s.inFlow then .ok s
  else if !s.keyAllowed then .error .malformed
  else
    let (s, opened) := s.openIndent s.cursor.column
    .ok (if opened then s.push start else s)

def fetchBlockEntry (s : Scanner) : Except Fault Scanner := do
  let s ← (← s.openFor .blockSequenceStart).dropKey
  return { s with keyAllowed := true }.advance 1 |>.push .blockEntry

def fetchKey (s : Scanner) : Except Fault Scanner := do
  let s ← (← s.openFor .blockMappingStart).dropKey
  return { s with keyAllowed := !s.inFlow }.advance 1 |>.push .key

/-- At a colon the pending key of the level becomes a key, and opens a mapping if it is indented further. -/
def fetchValue (s : Scanner) : Except Fault Scanner := do
  match s.pending.find? fun k => k.level == s.flowLevel with
  | some k =>
    let s := { s with pending := s.pending.filter fun k => k.level != s.flowLevel }
    let (s, opened) := if s.inFlow then (s, false) else s.openIndent k.column
    let marks := if opened then #[Token.blockMappingStart, .key] else #[.key]
    let tokens := s.tokens.extract 0 k.number ++ marks ++ s.tokens.extract k.number s.tokens.size
    return { s with tokens, keyAllowed := false }.advance 1 |>.push .value
  | none =>
    let s ← (← s.openFor .blockMappingStart).dropKey
    return { s with keyAllowed := !s.inFlow }.advance 1 |>.push .value

/-! ## Anchors and tags -/

/-- A character of an anchor name or a tag handle. -/
def isNameChar (c : Char) : Bool :=
  Text.isAsciiLetter c || Text.isAsciiDigit c || c == '-' || c == '_'

/-- The name after an anchor or alias indicator. -/
def anchorName (c : Cursor) : Except Fault (String × Cursor) :=
  let name := c.step.run isNameChar
  let d := c.step.steps name.length
  if name.isEmpty || !(isGap d.peek || "?:,]\x7d%@\x60".toList.contains d.peek) then .error .malformed
  else .ok (String.ofList name, d)

/-- A tag handle: `!`, `!!` or `!name!`. -/
def tagHandle (c : Cursor) : Except Fault (String × Cursor) :=
  if c.peek != '!' then .error .malformed
  else if c.peek 1 == ' ' then .ok ("!", c.step)
  else
    let name := c.step.run isNameChar
    let d := c.step.steps name.length
    if d.peek == '!' then .ok ("!" ++ String.ofList name ++ "!", d.step) else .error .malformed

def isUriChar (c : Char) : Bool :=
  isNameChar c || ";/?:@&=+$,.!~*'()[]%".toList.contains c

/-- The bytes of a run of percent escapes. -/
def percentBytes : Nat → Cursor → List Nat → Except Fault (List Nat × Cursor)
  | 0, c, bytes => .ok (bytes, c)
  | fuel + 1, c, bytes =>
    if c.peek == '%' then
      match hexDigit? (c.peek 1), hexDigit? (c.peek 2) with
      | some a, some b => percentBytes fuel (c.steps 3) (bytes ++ [16 * a + b])
      | _, _ => .error .malformed
    else .ok (bytes, c)

/-- The text that bytes encode. -/
def decodeUtf8? (bytes : List Nat) : Option String :=
  String.fromUTF8? ⟨(bytes.map Nat.toUInt8).toArray⟩

/-- The characters of a tag, with percent escapes decoded. -/
def tagUri : Nat → Cursor → List Char → Except Fault (String × Cursor)
  | 0, _, _ => .error .malformed
  | fuel + 1, c, text => do
    let plain := c.run fun x => isUriChar x && x != '%'
    let text := text ++ plain
    let d := c.steps plain.length
    if d.peek == '%' then
      let (bytes, e) ← percentBytes (d.rest.length + 1) d []
      match decodeUtf8? bytes with
      | some s => tagUri fuel e (text ++ s.toList)
      | none => throw .malformed
    else if d.index == c.index && text.isEmpty then throw .malformed
    else return (String.ofList text, d)

/-- A tag, from its indicator on. -/
def tagToken (c : Cursor) : Except Fault (Token × Cursor) := do
  let finish (handle : Option String) (suffix : String) (d : Cursor) : Except Fault (Token × Cursor) :=
    if isSpaceOrEnd d.peek then .ok (.tag handle suffix, d) else .error .malformed
  let fuel := c.rest.length + 1
  if c.peek 1 == '<' then
    let (suffix, d) ← tagUri fuel (c.steps 2) []
    if d.peek == '>' then finish none suffix d.step else throw .malformed
  else if isGap (c.peek 1) then finish none "!" c.step
  else if (c.step.run fun x => !isSpaceOrEnd x).contains '!' then
    let (handle, d) ← tagHandle c
    let (suffix, e) ← tagUri fuel d []
    finish (some handle) suffix e
  else
    let (suffix, d) ← tagUri fuel c.step []
    finish (some "!") suffix d

/-! ## Directives -/

/-- A number of a version directive. -/
def versionNumber (c : Cursor) : Except Fault (Nat × Cursor) :=
  let ds := c.run Text.isAsciiDigit
  if ds.isEmpty then .error .malformed
  else if Value.digitLimit < ds.length then .error (.longInteger ds.length)
  else .ok (ds.foldl (fun n d => 10 * n + (d.toNat - 48)) 0, c.steps ds.length)

/-- A directive, from its indicator on. -/
def directiveToken (c : Cursor) : Except Fault (Token × Cursor) := do
  let skipSpaces (d : Cursor) := d.skipWhile (· == ' ')
  let name := c.step.run isNameChar
  let d := c.step.steps name.length
  if name.isEmpty || !isSpaceOrEnd d.peek then throw .malformed
  let (token, e) ←
    if name == "YAML".toList then do
      let (major, e) ← versionNumber (skipSpaces d)
      if e.peek != '.' then throw .malformed
      let (_, f) ← versionNumber e.step
      if !isSpaceOrEnd f.peek then throw .malformed
      pure (Token.version major, f)
    else if name == "TAG".toList then do
      let (handle, e) ← tagHandle (skipSpaces d)
      if e.peek != ' ' then throw .malformed
      let (expansion, f) ← tagUri (e.rest.length + 1) (skipSpaces e) []
      if !isSpaceOrEnd f.peek then throw .malformed
      pure (Token.tagHandle handle expansion, f)
    else pure (Token.otherDirective, d.skipWhile fun x => !isBreakOrEnd x)
  return (token, ← ignoredLine e)

/-! ## The next token -/

/-- Whether a plain scalar may start here. -/
def startsPlain (s : Scanner) : Bool :=
  let c := s.cursor.peek
  let next := s.cursor.peek 1
  !(isGap c || "-?:,[]\x7b\x7d#&*!|>'\"%@\x60".toList.contains c) ||
  (!isGap next && (c == '-' || (!s.inFlow && (c == '?' || c == ':'))))

/-- A token whose text has been scanned, and which may be a key. -/
def fetchNode (s : Scanner) (scan : Cursor → Except Fault (Token × Cursor)) : Except Fault Scanner := do
  let s ← s.saveKey
  let (token, cursor) ← scan s.cursor
  return { s with keyAllowed := false, cursor }.push token

def fetchPlain (s : Scanner) : Except Fault Scanner := do
  let s ← s.saveKey
  let (text, cursor, fresh) := plainScalar s.inFlow (s.indent + 1) s.cursor
  return { s with keyAllowed := fresh, cursor }.push (.scalar (String.ofList text) true)

def fetchBlockScalar (s : Scanner) (folded : Bool) : Except Fault Scanner := do
  let s ← s.dropKey
  let (text, cursor) ← blockScalar folded s.indent s.cursor
  return { s with keyAllowed := true, cursor }.push (.scalar (String.ofList text) false)

def fetchDirective (s : Scanner) : Except Fault Scanner := do
  let s ← s.fetchOutermost
  let (token, cursor) ← directiveToken s.cursor
  return { s with cursor }.push token

def scanQuoted (double : Bool) (c : Cursor) : Except Fault (Token × Cursor) := do
  let (text, d) ← quotedScalar double c
  return (.scalar (String.ofList text) false, d)

/-- Adds the next token, and tells whether it is the last one. -/
def fetch (s : Scanner) : Except Fault (Scanner × Bool) := do
  let s := if s.cursor.index == 0 && s.cursor.peek.toNat == 0xFEFF then s.advance 1 else s
  let s ← (skipToToken (s.cursor.rest.length + 1) s).dropStale
  let s := s.unwind s.cursor.column
  let c := s.cursor.peek
  let gapNext := isGap (s.cursor.peek 1)
  let atMark := s.cursor.column == 0 && s.cursor.atDocumentMark
  if c == endMark then
    let s ← s.fetchOutermost
    return ({ s with pending := [] }.push .streamEnd, true)
  let next ←
    if c == '%' && s.cursor.column == 0 then s.fetchDirective
    else if c == '-' && atMark then s.fetchDocumentMark .documentStart
    else if c == '.' && atMark then s.fetchDocumentMark .documentEnd
    else if c == '[' then s.fetchFlowStart .flowSequenceStart
    else if c == '\x7b' then s.fetchFlowStart .flowMappingStart
    else if c == ']' then s.fetchFlowEnd .flowSequenceEnd
    else if c == '\x7d' then s.fetchFlowEnd .flowMappingEnd
    else if c == ',' then s.fetchFlowEntry
    else if c == '-' && gapNext then s.fetchBlockEntry
    else if c == '?' && (s.inFlow || gapNext) then s.fetchKey
    else if c == ':' && (s.inFlow || gapNext) then s.fetchValue
    else if c == '*' then s.fetchNode fun d => do let (n, e) ← anchorName d; return (.alias n, e)
    else if c == '&' then s.fetchNode fun d => do let (n, e) ← anchorName d; return (.anchor n, e)
    else if c == '!' then s.fetchNode tagToken
    else if c == '|' && !s.inFlow then s.fetchBlockScalar false
    else if c == '>' && !s.inFlow then s.fetchBlockScalar true
    else if c.toNat == 39 then s.fetchNode (scanQuoted false)
    else if c == '"' then s.fetchNode (scanQuoted true)
    else if s.startsPlain then s.fetchPlain
    else throw .malformed
  return (next, false)

/-- The number of tokens that a reader has been given when it asks for more. -/
def delivered (s : Scanner) : Nat :=
  s.pending.foldl (fun n k => min n k.number) s.tokens.size

/-- Fetches tokens to the end or to a fault. Each token takes at least one character. -/
def fetchAll : Nat → Scanner → Array Token × Option Fault
  | 0, s => (s.tokens, some .malformed)
  | fuel + 1, s =>
    match s.fetch with
    | .error fault => (s.tokens.extract 0 s.delivered, some fault)
    | .ok (next, true) => (next.tokens, none)
    | .ok (next, false) =>
      match next.dropStale with
      | .error fault => (s.tokens.extract 0 s.delivered, some fault)
      | .ok next => fetchAll fuel next

end Scanner

/-- Characters that may stand in a YAML text. -/
def isPrintable (c : Char) : Bool :=
  let n := c.toNat
  n == 9 || n == 10 || n == 13 || (32 ≤ n && n ≤ 126) || n == 0x85 || (0xA0 ≤ n && n ≤ 0xD7FF) ||
  (0xE000 ≤ n && n ≤ 0xFFFD) || (0x10000 ≤ n && !Text.isStandIn c)

/-- The tokens of a text up to its end, or up to a fault. -/
def tokenize (cs : List Char) : List Token × Option Fault :=
  if cs.all isPrintable then
    let (tokens, fault) := Scanner.fetchAll (cs.length + 2) { cursor := { rest := cs } }
    (tokens.toList, fault)
  else ([], some .malformed)

end SpringAtlas.Yaml

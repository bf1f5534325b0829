import SpringAtlas.Corpus.Basic
import SpringAtlas.Finding.Basic
import SpringAtlas.Source.Group
import SpringAtlas.Source.Mask

/-!
# `Finding.Source` — weaknesses in source text

Each detector looks for one weakness by a pattern. What lives in string literals (secrets, statements, algorithm
names, origins) is looked for in the text as it stands; calls and annotations are looked for in the masked text.

## Contents
* `secretFindings`, `sqlFindings`, `commandFindings`, `weakCryptoFindings`
* `missingAuthFindings`, `corsFindings`
-/

namespace SpringAtlas

/-- A finding at a match, with the matched text as its snippet. -/
def findingAt (f : SourceFile) (m : Match) (severity : Severity) (category : Category)
    (title description recommendation : String) : Finding :=
  { severity, category, title, description, recommendation
    fileName := f.path
    lineNumber := some (Text.lineNumber f.chars m.start)
    snippet := some (String.ofList (snippet (m.whole f.chars))) }

/-! ## Secrets -/

open Pattern in
/-- A quoted value given to a name that sounds like a secret. -/
def secretPattern : Pattern :=
  (anyOf [caseless "password", caseless "passwd", caseless "pwd", caseless "secret",
    caseless "api" ++ opt (among "_-") ++ caseless "key", caseless "apikey", caseless "token",
    caseless "auth"]) ++ blanks ++ among "=:" ++ blanks ++ among "\"'" ++ plus (except "\"'\n") ++
  among "\"'"

/-- What shows that a value is a template or a dummy. -/
def placeholderMarkers : List String :=
  ["$\x7b", "#\x7b", "\x7b\x7b", "@value", "example", "placeholder", "changeme", "change-me", "xxx", "dummy",
   "your-"]

/-- Whether an assignment to a secret is a template or a dummy value. -/
def isPlaceholder (assignment : List Char) : Bool :=
  let small := Text.lower assignment
  placeholderMarkers.any fun marker => Text.contains marker.toList small

def secretFindings (f : SourceFile) : List Finding :=
  ((secretPattern.findAll f.chars).filter fun m => !isPlaceholder (m.whole f.chars)).map fun m =>
    findingAt f m .high .hardcodedSecret "Potential hardcoded secret"
      "Found potential hardcoded credential or secret key" "Use environment variables or a secrets manager"

/-! ## Statements -/

open Pattern in
def sqlWord : Pattern :=
  wordEdge ++ anyOf (["select", "insert", "update", "delete", "from", "where"].map caseless) ++ wordEdge

open Pattern in
/-- A statement in a literal with something added to it, or the other way round. -/
def sqlConcatPattern : Pattern :=
  lit "\"" ++ star (except "\"\n") ++ sqlWord ++ star (except "\"\n") ++ lit "\"" ++ blanks ++ lit "+" ++
    blanks ++ plus word <|>
  plus word ++ blanks ++ lit "+" ++ blanks ++ lit "\"" ++ star (except "\"\n") ++ sqlWord

/-- The calls that send a statement. -/
def sqlExecutionMarkers : List String :=
  ["createQuery", "createNativeQuery", "executeQuery", "executeUpdate"]

def sqlFindings (f : SourceFile) : List Finding :=
  if sqlExecutionMarkers.any fun marker => Text.contains marker.toList f.chars then
    (sqlConcatPattern.findAll f.chars).map fun m =>
      findingAt f m .critical .sqlInjection "Potential SQL injection"
        "String concatenation in SQL query detected" "Use parameterized queries or JPA named parameters"
  else []

/-! ## Commands -/

open Pattern in
def commandPattern : Pattern :=
  lit "Runtime" ++ blanks ++ lit "." ++ blanks ++ lit "getRuntime" ++ blanks ++ lit "(" ++ blanks ++
    lit ")" ++ blanks ++ lit "." ++ blanks ++ lit "exec" ++ wordEdge <|>
  wordEdge ++ lit "new" ++ blanks1 ++ lit "ProcessBuilder" ++ wordEdge

def commandFindings (f : SourceFile) : List Finding :=
  (commandPattern.findAll (Source.mask f.chars)).map fun m =>
    findingAt f m .high .commandInjection "Command execution detected"
      "Direct command execution can lead to command injection if user input is involved"
      "Validate and sanitize all input, avoid shell commands if possible"

/-! ## Algorithms -/

open Pattern in
/-- The name of a weak algorithm in a literal, or a class that uses one. -/
def weakCryptoPattern : Pattern :=
  lit "\"" ++
    group 1 (anyOf [caseless "md2", caseless "md5", caseless "sha" ++ opt (lit "-") ++ lit "1",
      caseless "des", caseless "desede", caseless "rc2", caseless "rc4", caseless "blowfish"]) ++
    opt (lit "/" ++ star (except "\"\n")) ++ lit "\"" <|>
  wordEdge ++
    group 2 (anyOf [caseless "md5passwordencoder", caseless "shapasswordencoder",
      caseless "ldapshapasswordencoder", caseless "nooppasswordencoder",
      caseless "digestutils" ++ blanks ++ lit "." ++ blanks ++ (caseless "md5" <|> caseless "sha1") ++
        star word]) ++ wordEdge

def weakCryptoFindings (f : SourceFile) : List Finding :=
  (weakCryptoPattern.findAll f.chars).map fun m =>
    let algorithm := (m.group? f.chars 1).getD (m.group f.chars 2)
    findingAt f m .medium .weakCrypto ("Weak cryptographic algorithm: " ++ String.ofList algorithm)
      "Usage of deprecated or weak cryptographic algorithm"
      "Use SHA-256 or stronger algorithms, AES for encryption"

/-! ## Authorisation -/

open Pattern in
def controllerPattern : Pattern :=
  lit "@" ++ oneOf ["RestController", "Controller"] ++ wordEdge

open Pattern in
def authorizationPattern : Pattern :=
  lit "@" ++ oneOf ["PreAuthorize", "Secured", "RolesAllowed", "PostAuthorize"] ++ wordEdge

open Pattern in
/-- A mapping that changes something. -/
def mutatingPattern : Pattern :=
  lit "@" ++ group 1 (oneOf ["Delete", "Put", "Patch", "Post"]) ++ lit "Mapping" ++ wordEdge

/-- The paths by which users sign in or up, which have to be open. -/
def openPaths : List String :=
  ["/login", "/register", "/signup", "/signin"]

/-- The first changing endpoint of a controller that asks for no authorisation. In a file that mentions an open
    path, creating endpoints are passed over. -/
def missingAuthFindings (f : SourceFile) : List Finding :=
  let masked := Source.mask f.chars
  if !controllerPattern.occursIn masked || authorizationPattern.occursIn masked then []
  else
    let hasOpenPath := openPaths.any fun p => Text.contains p.toList f.chars
    let suspect := (mutatingPattern.findAll masked).find? fun m =>
      !(m.group masked 1 == "Post".toList && hasOpenPath)
    (suspect.map fun m =>
      { findingAt f m .medium .missingAuth "Controller without security annotations"
          "Controller has modifying endpoints without explicit security annotations"
          "Add @PreAuthorize, @Secured, or @RolesAllowed annotations" with snippet := none }).toList

/-! ## Origins -/

open Pattern in
def anyOriginCall (name : String) : Pattern :=
  lit name ++ blanks ++ lit "(" ++ blanks ++ lit "\"*\""

open Pattern in
/-- Every origin allowed, by an annotation or a call. -/
def corsPattern : Pattern :=
  lit "@CrossOrigin" ++ wordEdge ++ notAhead (blanks ++ lit "(") <|>
  lit "@CrossOrigin" ++ blanks ++ lit "(" ++ Source.shallowText ++ lit "\"*\"" <|>
  anyOriginCall ".allowedOrigins" <|> anyOriginCall ".allowedOriginPatterns" <|>
  anyOriginCall ".addAllowedOrigin"

def corsFindings (f : SourceFile) : List Finding :=
  ((corsPattern.search? f.chars).map fun m =>
    findingAt f m .medium .corsMisconfiguration "Overly permissive CORS configuration"
      "CORS is configured to allow all origins" "Restrict CORS to specific trusted origins").toList

end SpringAtlas

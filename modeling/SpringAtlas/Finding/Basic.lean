import SpringAtlas.Json
import SpringAtlas.Text.Lines

/-!
# `Finding.Basic` — security findings

A finding is a place in a file that may be a weakness, with a severity and a category. The text that was found
is kept as a short snippet.

## Contents
* `Severity`, `Category`
* `snippet` — a text cut to a fixed length
* `Finding`, `topFindings` — findings, and the most severe ones
-/

namespace SpringAtlas

/-- How serious a finding is. -/
inductive Severity where
  | critical
  | high
  | medium
  | low
  | info
deriving Repr, BEq, DecidableEq

namespace Severity

def label : Severity → String
  | critical => "CRITICAL"
  | high => "HIGH"
  | medium => "MEDIUM"
  | low => "LOW"
  | info => "INFO"

def all : List Severity :=
  [critical, high, medium, low, info]

def ofLabel? (s : String) : Option Severity :=
  all.find? fun v => v.label == s

/-- The place of a severity, `0` for the most severe. -/
def rank : Severity → Nat
  | critical => 0
  | high => 1
  | medium => 2
  | low => 3
  | info => 4

end Severity

/-- The kind of weakness. -/
inductive Category where
  | hardcodedSecret
  | sqlInjection
  | commandInjection
  | weakCrypto
  | missingAuth
  | corsMisconfiguration
  | debugEnabled
  | sensitiveDataExposure
deriving Repr, BEq, DecidableEq

def Category.label : Category → String
  | hardcodedSecret => "HARDCODED_SECRET"
  | sqlInjection => "SQL_INJECTION"
  | commandInjection => "COMMAND_INJECTION"
  | weakCrypto => "WEAK_CRYPTO"
  | missingAuth => "MISSING_AUTH"
  | corsMisconfiguration => "CORS_MISCONFIGURATION"
  | debugEnabled => "DEBUG_ENABLED"
  | sensitiveDataExposure => "SENSITIVE_DATA_EXPOSURE"

/-- The number of characters that a snippet keeps. -/
def snippetLimit : Nat := 100

/-- A text trimmed and cut, with dots where something is missing. -/
def snippet (text : List Char) : List Char :=
  let trimmed := Text.trim text
  if snippetLimit < trimmed.length then trimmed.take snippetLimit ++ "...".toList else trimmed

/-- A possible weakness. -/
structure Finding where
  severity : Severity
  category : Category
  title : String
  description : String
  fileName : String
  recommendation : String := ""
  lineNumber : Option Nat := none
  snippet : Option String := none
deriving Repr, BEq, DecidableEq

def Finding.toJson (f : Finding) : Json :=
  .obj [("severity", .str f.severity.label), ("category", .str f.category.label), ("title", .str f.title),
    ("description", .str f.description), ("file_name", .str f.fileName),
    ("line_number", (f.lineNumber.map Json.nat).getD .null), ("snippet", .ofOption f.snippet),
    ("recommendation", .str f.recommendation)]

/-- The most severe findings first, in the order they were found within a severity. A negative limit leaves out
    that many of the last ones. -/
def topFindings (findings : List Finding) (limit : Int) : List Finding :=
  (findings.mergeSort fun a b => decide (a.severity.rank ≤ b.severity.rank)).take
    (Text.clampOffset findings.length limit)

end SpringAtlas

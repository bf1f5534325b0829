import SpringAtlas.Finding.Source
import SpringAtlas.Settings.Store

/-!
# `Finding.Settings` — weaknesses in settings

Settings files are searched for debug mode by a pattern, and for open consoles by the values of two keys.
-/

namespace SpringAtlas

open Pattern in
def debugPattern : Pattern :=
  lineStart ++ blanks ++ caseless "debug" ++ blanks ++ among "=:" ++ blanks ++ opt (among "\"'") ++
  caseless "true" ++ wordEdge

def debugFindings (f : SourceFile) : List Finding :=
  ((debugPattern.search? f.chars).map fun m =>
    findingAt f m .low .debugEnabled "Debug mode enabled" "Debug mode should be disabled in production"
      "Set debug=false for production deployments").toList

/-! ## Consoles -/

/-- The entries of a settings file under their own keys; the first document that has a key counts. -/
def plainEntries [Yaml.Loader] (f : SourceFile) : Except Yaml.Fault Settings.Entries :=
  match Settings.fileEntries f with
  | (_, some fault) => .error fault
  | (found, none) =>
    .ok (found.foldl (fun es more => more.foldl (fun es e => es.setDefault e.1 e.2) es) [])

/-- A finding about a setting, at the first place where a part of its key is written out. -/
def settingFinding (f : SourceFile) (part : String) (severity : Severity)
    (title description recommendation : String) : Finding :=
  { severity, title, description, recommendation
    category := .sensitiveDataExposure
    fileName := f.path
    lineNumber := (Text.find part.toList f.chars).map (Text.lineNumber f.chars) }

def isQuoteMark (c : Char) : Bool :=
  "\"'".toList.contains c

def opensConsole (es : Settings.Entries) : Bool :=
  match es.lookup "spring.h2.console.enabled" with
  | some v => Text.lower (Text.trim v.toList) == "true".toList
  | none => false

def exposesEverything (es : Settings.Entries) : Bool :=
  match es.lookup "management.endpoints.web.exposure.include" with
  | some v => Text.trimWhere isQuoteMark (Text.trim v.toList) == ['*']
  | none => false

def consoleFindings [Yaml.Loader] (f : SourceFile) : Except Yaml.Fault (List Finding) := do
  let es ← plainEntries f
  return (if opensConsole es then
      [settingFinding f "h2.console.enabled" .high "H2 Console enabled"
        "H2 database console is enabled, exposing database access" "Disable H2 console in production"]
    else []) ++
    if exposesEverything es then
      [settingFinding f "exposure.include" .medium "All actuator endpoints exposed"
        "Every management endpoint is exposed over HTTP"
        "Expose only the health and info endpoints publicly"]
    else []

end SpringAtlas

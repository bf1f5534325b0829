import SpringAtlas.Analysis.Run
import SpringAtlas.Report.Cell

/-!
# `Report.Markdown` — the report of a run

The report has one section for each part of the analysis. A section without content says so, and some sections are
left out altogether. The same result always gives the same document.

## Contents
* one function a section, from `overview` to `problemSection`
* `markdown`, `json` — the report in its two formats
* `render` — the report by the name of its template
-/

namespace SpringAtlas.Report

/-- A text that is shown only under a condition. -/
def shown (condition : Bool) (text : String) : String :=
  if condition then text else ""

def nothing : String :=
  "N/A\n"

def counted (n : Nat) : String :=
  toString n

def tallyRows (t : Tally) (mark : String → String) : List (List String) :=
  t.map fun e => [mark e.1, counted e.2]

/-! ## Overview -/

def title (a : Analysis) : String :=
  "# SpringLens Report: " ++ a.corpusName ++ "\n\n" ++
  Table.write ⟨["Run", "Generated", "Status"],
    [[code a.runId, timeText a.timestamp, Analysis.status]]⟩ ++ "\n"

def overview (a : Analysis) (s : Summary) : String :=
  "## Overview\n\n" ++
  Table.write ⟨["Classes", "Endpoints", "Relationships", "Modules", "Communications", "Findings"],
    [[counted a.facts.length, counted a.endpoints.length, counted a.relations.length,
      counted a.modules.length, counted a.links.length, counted a.findings.length]]⟩ ++ "\n" ++
  shown (!s.byStereotype.isEmpty)
    ("### Classes by Stereotype\n\n" ++
      Table.write ⟨["Stereotype", "Count"], tallyRows s.byStereotype.sorted id⟩ ++ "\n") ++
  shown (!s.topPackages.isEmpty)
    ("### Top Packages\n\n" ++
      Table.write ⟨["Package", "Classes"], tallyRows s.topPackages code⟩ ++ "\n")

/-! ## Modules -/

def moduleRow (m : BuildModule) : List String :=
  [cell m.name, m.role.label, cell? m.applicationName, m.serverPort, cell? m.basePackage,
   counted m.classCount, counted m.endpointCount, cell? m.database]

def routeRow (r : GatewayRoute) : List String :=
  [cell r.id, cell? r.uri, cell (", ".intercalate r.predicates)]

/-- How a module communicates; a module that does not is passed over. -/
def moduleDetails (m : BuildModule) : String :=
  let methods := m.methods
  shown (!methods.isEmpty || !m.routes.isEmpty)
    ("### " ++ m.name ++ "\n\n" ++
      shown (!methods.isEmpty)
        ("Communication: " ++ ", ".intercalate (methods.map Technology.label) ++ "\n\n") ++
      shown (!m.routes.isEmpty)
        (Table.write ⟨["Route", "URI", "Predicates"], m.routes.map routeRow⟩ ++ "\n"))

def moduleSection (modules : List BuildModule) : String :=
  "## Modules\n\n" ++
  if modules.isEmpty then nothing ++ "\n"
  else
    Table.write ⟨["Module", "Type", "Application", "Port", "Base Package", "Classes", "Endpoints",
      "Database"], modules.map moduleRow⟩ ++ "\n" ++ String.join (modules.map moduleDetails)

/-! ## Links, endpoints and relations -/

/-- A table, or a note that there is nothing to show. -/
def tableOrNothing (t : Table) : String :=
  if t.rows.isEmpty then nothing else t.write

def yesNo (b : Bool) : String :=
  if b then "yes" else "no"

/-- The first text that is there and not empty. -/
def firstText (ss : List (Option String)) : String :=
  (ss.findSome? fun s => s.filter fun s => !s.isEmpty).getD ""

def linkRow (l : Link) : List String :=
  [cell l.source, l.technology.label, cell? l.target, cell (firstText [l.url, l.channel, l.endpointPath]),
   cell? l.httpMethod, yesNo l.isLoadBalanced, yesNo l.isAsync]

def linkSection (links : List Link) : String :=
  "## Communications\n\n" ++
  tableOrNothing ⟨["Source", "Type", "Target", "URL / Channel", "Method", "Load Balanced", "Async"],
    links.map linkRow⟩ ++ "\n"

def endpointRow (e : Endpoint) : List String :=
  [e.method.label, code e.path, cell? e.className ++ "." ++ e.handler, cell e.returnType,
   cell? e.moduleName]

def endpointSection (endpoints : List Endpoint) : String :=
  "## Endpoints\n\n" ++
  tableOrNothing ⟨["Method", "Path", "Handler", "Returns", "Module"], endpoints.map endpointRow⟩ ++ "\n"

def relationRow (r : Relation) : List String :=
  [r.source, r.kind.label, r.target, cell? r.field]

def relationSection (relations : List Relation) : String :=
  "## Relationships\n\n" ++
  tableOrNothing ⟨["Source", "Type", "Target", "Field"], relations.map relationRow⟩ ++ "\n"

/-! ## Data flow -/

def layerLine (l : LayerInfo) : String :=
  "- **" ++ l.name ++ "**: " ++ ", ".intercalate l.components ++ "\n"

def pathText (p : FlowPath) : String :=
  "### " ++ p.name ++ "\n\n" ++
  String.join (p.steps.zipIdx.map fun (step, i) => counted (i + 1) ++ ". " ++ step ++ "\n") ++ "\n"

def flowSection (d : DataFlow) : String :=
  "## Data Flow\n\n" ++
  if d.layers.isEmpty then nothing ++ "\n"
  else String.join (d.layers.map layerLine) ++ "\n" ++ String.join (d.paths.map pathText)

/-! ## Findings -/

def findingRow (f : Finding) : List String :=
  [f.severity.label, f.category.label, cell f.title, code f.fileName,
   cell? (f.lineNumber.map counted)]

def findingSection (findings : List Finding) (s : Summary) : String :=
  "## Security Findings\n\n" ++
  (if findings.isEmpty then "No findings.\n"
  else
    String.join (s.bySeverity.map fun e => "- " ++ e.1 ++ ": " ++ counted e.2 ++ "\n") ++ "\n" ++
    Table.write ⟨["Severity", "Category", "Title", "File", "Line"], s.topFindings.map findingRow⟩) ++ "\n"

/-! ## Metrics -/

def metricRows (m : CodeMetrics) : List (List String) :=
  [["Files", counted m.totalFiles], ["Total lines", counted m.totalLines],
   ["Code lines", counted m.codeLines], ["Comment lines", counted m.commentLines],
   ["Blank lines", counted m.blankLines], ["Packages", counted m.totalPackages],
   ["Max package depth", counted m.maxPackageDepth], ["Avg fields per class", m.avgFields.write],
   ["Avg methods per class", m.avgMethods.write]]

/-- The marks around a block of code. -/
def fence : String :=
  String.ofList (List.replicate 3 (Char.ofNat 96))

def metricSection (m : CodeMetrics) : String :=
  "## Metrics\n\n" ++ Table.write ⟨["Metric", "Value"], metricRows m⟩ ++ "\n" ++
  shown (!m.packageStructure.isEmpty)
    (fence ++ "\n" ++ m.packageStructure ++ fence ++ "\n\n")

/-! ## Dependencies and problems -/

def dependencyRow (d : Dependency) : List String :=
  [code d.coordinates, d.scope, cell? d.sourceFile]

def dependencySection (dependencies : List Dependency) : String :=
  shown (!dependencies.isEmpty)
    ("## Dependencies\n\n" ++
      Table.write ⟨["Dependency", "Scope", "Declared In"], dependencies.map dependencyRow⟩ ++ "\n")

def problemLine (p : Problem) : String :=
  "- [" ++ p.component ++ "] " ++ p.message ++
  (match p.filePath.filter fun f => !f.isEmpty with
    | some f => " (" ++ code f ++ ")"
    | none => "") ++ "\n"

def problemSection (problems : List Problem) : String :=
  shown (!problems.isEmpty) ("## Analysis Errors\n\n" ++ String.join (problems.map problemLine))

/-! ## Reports -/

def markdown (a : Analysis) : String :=
  let s := a.summary
  title a ++ overview a s ++ moduleSection a.modules ++ linkSection a.links ++
  endpointSection a.endpoints ++ relationSection a.relations ++ flowSection a.dataFlow ++
  findingSection a.findings s ++ metricSection a.metrics ++ dependencySection a.dependencies ++
  problemSection a.problems

def json (a : Analysis) : String :=
  a.toJson.pretty ++ "\n"

/-- The only template there is. -/
def defaultTemplate : String :=
  "report.md.j2"

/-- There is no template with the name. -/
structure TemplateNotFound where
  name : String
deriving Repr, BEq

def TemplateNotFound.message (e : TemplateNotFound) : String :=
  "Template not found: " ++ e.name

/-- The report by the name of its template. -/
def render (template : String) (a : Analysis) : Except TemplateNotFound String :=
  if template == defaultTemplate then .ok (markdown a) else .error ⟨template⟩

/-- The report in a format. -/
def write (format : ReportFormat) (a : Analysis) : String :=
  match format with
  | .markdown => markdown a
  | .json => json a

end SpringAtlas.Report

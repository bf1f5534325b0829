import SpringAtlas.Proofs.Report.Table
import SpringAtlas.Proofs.Text.Lines
import SpringAtlas.Report.Markdown

/-!
# `Proofs.Report.Blocks` — a report as prose and tables

A report is written as one text. `blocks` takes it apart into prose and tables, section by section, and `markdown_eq` says
that nothing is lost; so what is said of the tables among the blocks is said of the report.

## Contents
* `Block`, `writeAll`, `tableBlocks` — the parts of a document
* `titleBlocks`, …, `dependencyBlocks`, `blocks`, `markdown_eq` — the sections of a report
* `Keeps` — blocks whose tables keep their columns
-/

namespace SpringAtlas.Report

/-! ## Blocks -/

/-- A part of a report. -/
inductive Block where
  | prose (text : String)
  | table (t : Table)

def Block.write : Block → String
  | prose text => text
  | table t => t.write

/-- The parts of a document, one after the other. -/
def writeAll (blocks : List Block) : String :=
  String.join (blocks.map Block.write)

@[simp] theorem writeAll_nil : writeAll [] = "" := rfl

@[simp] theorem writeAll_cons (b : Block) (bs : List Block) : writeAll (b :: bs) = b.write ++ writeAll bs := by
  simp [writeAll, String.join_cons]

/-- Blocks that are put one behind another are written one behind another. -/
@[simp] theorem writeAll_append (bs bs' : List Block) : writeAll (bs ++ bs') = writeAll bs ++ writeAll bs' := by
  simp [writeAll, String.join_append]

theorem writeAll_flatMap {α : Type} (xs : List α) (f : α → List Block) :
    writeAll (xs.flatMap f) = String.join (xs.map fun x => writeAll (f x)) := by
  rw [writeAll, List.map_flatMap, Text.join_flatMap]
  rfl

/-- Some parts that are there only under a condition. -/
def blocksIf (condition : Bool) (blocks : List Block) : List Block :=
  if condition then blocks else []

/-- Blocks under a condition are written if it holds. -/
theorem writeAll_blocksIf (condition : Bool) (bs : List Block) :
    writeAll (blocksIf condition bs) = shown condition (writeAll bs) := by
  cases condition <;> rfl

/-- A section with one table, or with a note that there is nothing to show. -/
def tableBlocks (opening : String) (t : Table) : List Block :=
  [.prose opening, if t.rows.isEmpty then .prose nothing else .table t, .prose "\n"]

/-- A section that is one table is written without the table if that has no rows. -/
theorem writeAll_tableBlocks (opening : String) (t : Table) :
    writeAll (tableBlocks opening t) = opening ++ tableOrNothing t ++ "\n" := by
  unfold tableBlocks tableOrNothing
  split <;> simp [Block.write, String.append_assoc]

/-! ## Sections -/

def titleBlocks (a : Analysis) : List Block :=
  [.prose ("# SpringLens Report: " ++ a.corpusName ++ "\n\n"),
   .table ⟨["Run", "Generated", "Status"], [[code a.runId, timeText a.timestamp, Analysis.status]]⟩, .prose "\n"]

def overviewBlocks (a : Analysis) (s : Summary) : List Block :=
  [.prose "## Overview\n\n",
   .table ⟨["Classes", "Endpoints", "Relationships", "Modules", "Communications", "Findings"],
    [[counted a.facts.length, counted a.endpoints.length, counted a.relations.length,
      counted a.modules.length, counted a.links.length, counted a.findings.length]]⟩, .prose "\n"] ++
  blocksIf (!s.byStereotype.isEmpty)
    [.prose "### Classes by Stereotype\n\n", .table ⟨["Stereotype", "Count"], tallyRows s.byStereotype.sorted id⟩,
     .prose "\n"] ++
  blocksIf (!s.topPackages.isEmpty)
    [.prose "### Top Packages\n\n", .table ⟨["Package", "Classes"], tallyRows s.topPackages code⟩, .prose "\n"]

def routeBlocks (m : BuildModule) : List Block :=
  blocksIf (!m.methods.isEmpty || !m.routes.isEmpty)
    ([.prose ("### " ++ m.name ++ "\n\n" ++ shown (!m.methods.isEmpty)
        ("Communication: " ++ ", ".intercalate (m.methods.map Technology.label) ++ "\n\n"))] ++
      blocksIf (!m.routes.isEmpty)
        [.table ⟨["Route", "URI", "Predicates"], m.routes.map routeRow⟩, .prose "\n"])

def moduleBlocks (modules : List BuildModule) : List Block :=
  .prose "## Modules\n\n" ::
    if modules.isEmpty then [.prose (nothing ++ "\n")]
    else
      [.table ⟨["Module", "Type", "Application", "Port", "Base Package", "Classes", "Endpoints", "Database"],
        modules.map moduleRow⟩, .prose "\n"] ++ modules.flatMap routeBlocks

def linkBlocks (links : List Link) : List Block :=
  tableBlocks "## Communications\n\n"
    ⟨["Source", "Type", "Target", "URL / Channel", "Method", "Load Balanced", "Async"], links.map linkRow⟩

def endpointBlocks (endpoints : List Endpoint) : List Block :=
  tableBlocks "## Endpoints\n\n" ⟨["Method", "Path", "Handler", "Returns", "Module"], endpoints.map endpointRow⟩

def relationBlocks (relations : List Relation) : List Block :=
  tableBlocks "## Relationships\n\n" ⟨["Source", "Type", "Target", "Field"], relations.map relationRow⟩

def findingBlocks (findings : List Finding) (s : Summary) : List Block :=
  [.prose "## Security Findings\n\n"] ++
  (if findings.isEmpty then [.prose "No findings.\n"]
  else
    [.prose (String.join (s.bySeverity.map fun e => "- " ++ e.1 ++ ": " ++ counted e.2 ++ "\n") ++ "\n"),
     .table ⟨["Severity", "Category", "Title", "File", "Line"], s.topFindings.map findingRow⟩]) ++ [.prose "\n"]

def metricBlocks (m : CodeMetrics) : List Block :=
  [.prose "## Metrics\n\n", .table ⟨["Metric", "Value"], metricRows m⟩,
   .prose ("\n" ++ shown (!m.packageStructure.isEmpty) (fence ++ "\n" ++ m.packageStructure ++ fence ++ "\n\n"))]

def dependencyBlocks (dependencies : List Dependency) : List Block :=
  blocksIf (!dependencies.isEmpty)
    [.prose "## Dependencies\n\n",
     .table ⟨["Dependency", "Scope", "Declared In"], dependencies.map dependencyRow⟩, .prose "\n"]

/-- The parts of a report. -/
def blocks (a : Analysis) : List Block :=
  titleBlocks a ++ overviewBlocks a a.summary ++ moduleBlocks a.modules ++ linkBlocks a.links ++
  endpointBlocks a.endpoints ++ relationBlocks a.relations ++ [.prose (flowSection a.dataFlow)] ++
  findingBlocks a.findings a.summary ++ metricBlocks a.metrics ++ dependencyBlocks a.dependencies ++
  [.prose (problemSection a.problems)]

/-- The blocks of the overview write the overview. -/
theorem writeAll_overviewBlocks (a : Analysis) (s : Summary) : writeAll (overviewBlocks a s) = overview a s := by
  unfold overviewBlocks overview
  simp only [writeAll_append, writeAll_blocksIf, writeAll_cons, writeAll_nil, Block.write, String.append_empty,
    String.append_assoc]

/-- The details of a module are its table of routes, if it has routes. -/
theorem writeAll_routeBlocks (m : BuildModule) : writeAll (routeBlocks m) = moduleDetails m := by
  unfold routeBlocks moduleDetails
  simp only [writeAll_append, writeAll_blocksIf, writeAll_cons, writeAll_nil, Block.write, String.append_empty,
    String.append_assoc]

/-- The section of modules is a table of all modules with the details of each behind it, or a note that there are
    none. -/
theorem writeAll_moduleBlocks (modules : List BuildModule) : writeAll (moduleBlocks modules) = moduleSection modules := by
  unfold moduleBlocks moduleSection
  split
  · simp only [writeAll_cons, writeAll_nil, Block.write, String.append_empty]
  · simp only [writeAll_append, writeAll_cons, writeAll_nil, writeAll_flatMap, writeAll_routeBlocks, Block.write,
      String.append_empty, String.append_assoc]

/-- The section of findings has a table if there are findings, else a note. -/
theorem writeAll_findingBlocks (findings : List Finding) (s : Summary) :
    writeAll (findingBlocks findings s) = findingSection findings s := by
  unfold findingBlocks findingSection
  split
  · simp only [writeAll_append, writeAll_cons, writeAll_nil, Block.write, String.append_empty]
  · simp only [writeAll_append, writeAll_cons, writeAll_nil, Block.write, String.append_empty, String.append_assoc]

theorem writeAll_titleBlocks (a : Analysis) : writeAll (titleBlocks a) = title a := by
  unfold titleBlocks title
  simp only [writeAll_cons, writeAll_nil, Block.write, String.append_empty, String.append_assoc]

theorem writeAll_metricBlocks (m : CodeMetrics) : writeAll (metricBlocks m) = metricSection m := by
  unfold metricBlocks metricSection
  simp only [writeAll_cons, writeAll_nil, Block.write, String.append_empty, String.append_assoc]

theorem writeAll_dependencyBlocks (dependencies : List Dependency) :
    writeAll (dependencyBlocks dependencies) = dependencySection dependencies := by
  unfold dependencyBlocks dependencySection
  simp only [writeAll_blocksIf, writeAll_cons, writeAll_nil, Block.write, String.append_empty, String.append_assoc]

/-- **A report is its parts**, one after the other. -/
theorem markdown_eq (a : Analysis) : markdown a = writeAll (blocks a) := by
  have hlinks : writeAll (linkBlocks a.links) = linkSection a.links := writeAll_tableBlocks _ _
  have hendpoints : writeAll (endpointBlocks a.endpoints) = endpointSection a.endpoints := writeAll_tableBlocks _ _
  have hrelations : writeAll (relationBlocks a.relations) = relationSection a.relations := writeAll_tableBlocks _ _
  have hprose : ∀ text, writeAll [.prose text] = text := by simp [Block.write]
  unfold markdown blocks
  simp only [writeAll_append, writeAll_titleBlocks, writeAll_overviewBlocks, writeAll_moduleBlocks, hlinks, hendpoints,
    hrelations, hprose, writeAll_findingBlocks, writeAll_metricBlocks, writeAll_dependencyBlocks]

/-! ## Blocks that keep their columns -/

/-- Every table among the parts keeps its columns. -/
def Keeps (bs : List Block) : Prop :=
  ∀ t, Block.table t ∈ bs → t.KeepsColumns

/-- Without blocks there are no columns to keep. -/
@[simp] theorem keeps_nil : Keeps [] := by
  intro t ht
  cases ht

/-- Prose has no columns. -/
@[simp] theorem keeps_prose {text : String} {bs : List Block} : Keeps (.prose text :: bs) ↔ Keeps bs := by
  simp [Keeps]

/-- The columns of blocks are the columns of their tables. -/
@[simp] theorem keeps_table {t : Table} {bs : List Block} : Keeps (.table t :: bs) ↔ t.KeepsColumns ∧ Keeps bs := by
  simp [Keeps, or_imp, forall_and]

/-- Blocks one behind another keep their columns if both parts do. -/
@[simp] theorem keeps_append {bs bs' : List Block} : Keeps (bs ++ bs') ↔ Keeps bs ∧ Keeps bs' := by
  simp [Keeps, or_imp, forall_and]

/-- A list of sections keeps its columns if each section does. -/
theorem keeps_flatMap {α : Type} {xs : List α} {f : α → List Block} : Keeps (xs.flatMap f) ↔ ∀ x ∈ xs, Keeps (f x) := by
  simp only [Keeps, List.mem_flatMap]
  exact ⟨fun h x hx t ht => h t ⟨x, hx, ht⟩, fun h t ⟨x, hx, ht⟩ => h x hx t ht⟩

/-- Blocks under a condition have columns to keep only if it holds. -/
theorem keeps_blocksIf {condition : Bool} {bs : List Block} :
    Keeps (blocksIf condition bs) ↔ (condition = true → Keeps bs) := by
  cases condition <;> simp [blocksIf]

/-- A table without rows has nothing to break. -/
theorem keeps_tableBlocks {opening : String} {t : Table} : Keeps (tableBlocks opening t) ↔ t.KeepsColumns := by
  unfold tableBlocks
  split
  · next hrows =>
    rw [List.isEmpty_iff] at hrows
    refine iff_of_true (by simp) fun row hrow => ?_
    rw [hrows] at hrow
    cases hrow
  · simp

end SpringAtlas.Report

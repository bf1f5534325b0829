import SpringAtlas.Proofs.Analysis.Integrity
import SpringAtlas.Proofs.Analysis.Summary
import SpringAtlas.Proofs.Report.Blocks
import SpringAtlas.Proofs.Report.Values
import SpringAtlas.Yaml.Document

/-!
# `Proofs.Report.Columns` — tables of a report keep their columns

Most columns of a report hold counts, labels or names, which cannot break a row. The rest is text that the sources, the
settings or the caller choose: some of it goes through the filter of cells, which fails on bars that are escaped already,
and some is shown as it is. So a report keeps its columns exactly where these texts fit, `CellsFit`.

## Contents
* `keeps_titleBlocks`, …, `keeps_dependencyBlocks` — one section each
* `TextsRead`, `CellsFit`, `keeps_blocks_iff` — reports
* `textsRead_result`, `analyze_keepsColumns_iff` — the reports of runs
-/

namespace SpringAtlas.Report

/-! ## Labels -/

/-- Counts and labels are plain. -/
theorem plain_counted (n : Nat) : Plain (counted n) :=
  (inert_counted n).plain

theorem plain_roleLabel (r : ServiceRole) : Plain r.label := by
  cases r <;> decide

theorem plain_technologyLabel (t : Technology) : Plain t.label := by
  cases t <;> decide

theorem plain_methodLabel (m : HttpMethod) : Plain m.label := by
  cases m <;> decide

theorem plain_kindLabel (k : RelationKind) : Plain k.label := by
  cases k <;> decide

theorem plain_severityLabel (s : Severity) : Plain s.label := by
  cases s <;> decide

theorem plain_categoryLabel (c : Category) : Plain c.label := by
  cases c <;> decide

theorem plain_stereotypeLabel (s : Stereotype) : Plain s.label := by
  cases s <;> decide

theorem plain_yesNo (b : Bool) : Plain (yesNo b) := by
  cases b <;> decide

/-! ## Tallies -/

/-- A tally counts only values that it was given. -/
theorem fst_mem_of_mem_ofList {values : List String} {e : String × Nat} (h : e ∈ Tally.ofList values) : e.1 ∈ values :=
  ((Tally.counted_ofList values).mem_keys_iff e.1).1 (List.mem_map_of_mem h)

/-- A tally keeps its columns if its values are plain. -/
theorem keepsColumns_tallyRows {header : List String} (hheader : header ≠ [] ∧ ∀ h ∈ header, Plain h)
    (hlength : header.length = 2) {t : Tally} {mark : String → String} (h : ∀ e ∈ t, Plain (mark e.1)) :
    Table.KeepsColumns ⟨header, tallyRows t mark⟩ := by
  rw [tallyRows, Table.keepsColumns_map_iff hheader (by intro e; exact hlength.symm)]
  intro e he
  simp only [List.forall_mem_cons, List.not_mem_nil, false_implies, implies_true, and_true]
  exact ⟨h e he, plain_counted e.2⟩

/-! ## Sections -/

/-- In the title only the name of the run can break a row. -/
theorem keeps_titleBlocks {a : Analysis} : Keeps (titleBlocks a) ↔ Plain a.runId := by
  have htable : Table.KeepsColumns ⟨["Run", "Generated", "Status"],
      [[code a.runId, timeText a.timestamp, Analysis.status]]⟩ ↔ Plain a.runId := by
    rw [Table.keepsColumns_iff (by decide) (by simp)]
    simp only [List.forall_mem_cons, List.not_mem_nil, false_implies, implies_true, and_true, plain_code_iff]
    exact and_iff_left ⟨(inert_timeText a.timestamp).plain, by decide⟩
  rw [titleBlocks, keeps_prose, keeps_table, htable]
  simp

/-- The overview shows counts, stereotypes and packages, which fit. -/
theorem keeps_overviewBlocks {a : Analysis} (h : ∀ f ∈ a.facts, f.NamesInert) : Keeps (overviewBlocks a a.summary) := by
  have hstereotypes : ∀ e ∈ a.summary.byStereotype.sorted, Plain (id e.1) := by
    intro e he
    obtain ⟨f, -, hf⟩ := List.mem_map.1 (fst_mem_of_mem_ofList (List.mem_mergeSort.1 he))
    rw [id, ← hf]
    exact plain_stereotypeLabel f.stereotype
  have hpackages : ∀ e ∈ a.summary.topPackages, Plain (code e.1) := by
    intro e he
    obtain ⟨f, hf, hlabel⟩ := List.mem_map.1 (fst_mem_of_mem_ofList (List.mem_mergeSort.1 (List.mem_of_mem_take he)))
    rw [plain_code_iff, ← hlabel]
    unfold ClassFact.packageLabel
    split
    · next p hp =>
      split
      · decide
      · exact ((h f hf).packageName p hp).plain
    · decide
  unfold overviewBlocks
  simp only [keeps_append, keeps_prose, keeps_table, keeps_nil, keeps_blocksIf, and_true]
  refine ⟨⟨?_, fun _ => ?_⟩, fun _ => ?_⟩
  · rw [Table.keepsColumns_iff (by decide) (by simp)]
    simp only [List.forall_mem_cons, List.not_mem_nil, false_implies, implies_true, and_true, plain_counted]
  · exact keepsColumns_tallyRows (by decide) rfl hstereotypes
  · exact keepsColumns_tallyRows (by decide) rfl hpackages

/-- Metrics are numbers. -/
theorem keeps_metricBlocks (m : CodeMetrics) : Keeps (metricBlocks m) := by
  have hrows : ∀ row ∈ metricRows m, ∀ c ∈ row, Plain c := by
    simp only [metricRows, List.forall_mem_cons, List.not_mem_nil, false_implies, implies_true, and_true, plain_counted,
      (inert_write m.avgFields).plain, (inert_write m.avgMethods).plain]
    decide
  unfold metricBlocks
  rw [keeps_prose, keeps_table, keeps_prose]
  refine ⟨?_, keeps_nil⟩
  rw [Table.keepsColumns_iff (by decide) (by simp [metricRows])]
  exact hrows

/-- Relations show names that were read. -/
theorem keeps_relationBlocks {relations : List Relation}
    (h : ∀ r ∈ relations, Inert r.source.toList ∧ Inert r.target.toList ∧ ∀ f, r.field = some f → Inert f.toList) :
    Keeps (relationBlocks relations) := by
  rw [relationBlocks, keeps_tableBlocks, Table.keepsColumns_map_iff (by decide) (by intro r; rfl)]
  intro r hr
  obtain ⟨hsource, htarget, hfield⟩ := h r hr
  simp only [relationRow, List.forall_mem_cons, List.not_mem_nil, false_implies, implies_true, and_true, plain_cell?_iff]
  exact ⟨hsource.plain, plain_kindLabel r.kind, htarget.plain, fun f hf => escapes_of_not_mem (hfield f hf).bar⟩

/-- The texts of a route fit into its row. -/
structure RouteFits (r : GatewayRoute) : Prop where
  id : Escapes r.id
  uri : ∀ u, r.uri = some u → Escapes u
  predicates : Escapes (", ".intercalate r.predicates)

instance (r : GatewayRoute) : Decidable (RouteFits r) :=
  decidable_of_iff (Escapes r.id ∧ (∀ u, r.uri = some u → Escapes u) ∧ Escapes (", ".intercalate r.predicates))
    ⟨fun h => ⟨h.1, h.2.1, h.2.2⟩, fun h => ⟨h.id, h.uri, h.predicates⟩⟩

/-- The texts of a module fit into its row, and those of its routes. -/
structure ModuleFits (m : BuildModule) : Prop where
  name : Escapes m.name
  applicationName : ∀ n, m.applicationName = some n → Escapes n
  serverPort : Plain m.serverPort
  routes : ∀ r ∈ m.routes, RouteFits r

instance (m : BuildModule) : Decidable (ModuleFits m) :=
  decidable_of_iff (Escapes m.name ∧ (∀ n, m.applicationName = some n → Escapes n) ∧ Plain m.serverPort ∧
      ∀ r ∈ m.routes, RouteFits r)
    ⟨fun h => ⟨h.1, h.2.1, h.2.2.1, h.2.2.2⟩, fun h => ⟨h.name, h.applicationName, h.serverPort, h.routes⟩⟩

theorem keeps_routeBlocks {m : BuildModule} : Keeps (routeBlocks m) ↔ ∀ r ∈ m.routes, RouteFits r := by
  have htable : Table.KeepsColumns ⟨["Route", "URI", "Predicates"], m.routes.map routeRow⟩ ↔
      ∀ r ∈ m.routes, RouteFits r := by
    rw [Table.keepsColumns_map_iff (by decide) (by intro r; rfl)]
    refine forall₂_congr fun r _ => ?_
    simp only [routeRow, List.forall_mem_cons, List.not_mem_nil, false_implies, implies_true, and_true, plain_cell_iff,
      plain_cell?_iff]
    exact ⟨fun h => ⟨h.1, h.2.1, h.2.2⟩, fun h => ⟨h.id, h.uri, h.predicates⟩⟩
  simp only [routeBlocks, keeps_blocksIf, keeps_append, keeps_prose, keeps_table, keeps_nil, and_true, true_and, htable]
  -- the table is there if there are routes
  cases hroutes : m.routes with
  | nil => simp
  | cons r rs => simp

theorem keeps_moduleBlocks {modules : List BuildModule} (h : ∀ m ∈ modules, m.DetailsBarless) :
    Keeps (moduleBlocks modules) ↔ ∀ m ∈ modules, ModuleFits m := by
  have htable : Table.KeepsColumns ⟨["Module", "Type", "Application", "Port", "Base Package", "Classes", "Endpoints",
      "Database"], modules.map moduleRow⟩ ↔
      ∀ m ∈ modules, Escapes m.name ∧ (∀ n, m.applicationName = some n → Escapes n) ∧ Plain m.serverPort := by
    rw [Table.keepsColumns_map_iff (by decide) (by intro m; rfl)]
    refine forall₂_congr fun m hm => ?_
    have hpackage : ∀ p, m.basePackage = some p → Escapes p :=
      fun p hp => escapes_of_not_mem ((h m hm).basePackage p hp)
    have hdatabase : ∀ d, m.database = some d → Escapes d :=
      fun d hd => escapes_of_not_mem ((h m hm).database d hd)
    simp only [moduleRow, List.forall_mem_cons, List.not_mem_nil, false_implies, implies_true, and_true, plain_cell_iff,
      plain_cell?_iff, plain_counted, plain_roleLabel, true_and]
    exact ⟨fun h => ⟨h.1, h.2.1, h.2.2.1⟩, fun h => ⟨h.1, h.2.1, h.2.2, hpackage, hdatabase⟩⟩
  unfold moduleBlocks
  split
  · next hnone =>
    rw [List.isEmpty_iff] at hnone
    simp [hnone]
  · simp only [keeps_prose, keeps_append, keeps_table, keeps_nil, and_true, htable, keeps_flatMap, keeps_routeBlocks]
    constructor
    · intro hkeeps m hm
      obtain ⟨hname, happlication, hport⟩ := hkeeps.1 m hm
      exact ⟨hname, happlication, hport, hkeeps.2 m hm⟩
    · intro hfits
      exact ⟨fun m hm => ⟨(hfits m hm).name, (hfits m hm).applicationName, (hfits m hm).serverPort⟩,
        fun m hm => (hfits m hm).routes⟩

/-- The texts of a link fit into its row, but for the name of its source. -/
structure LinkFits (l : Link) : Prop where
  target : ∀ t, l.target = some t → Escapes t
  address : Escapes (firstText [l.url, l.channel, l.endpointPath])

instance (l : Link) : Decidable (LinkFits l) :=
  decidable_of_iff ((∀ t, l.target = some t → Escapes t) ∧ Escapes (firstText [l.url, l.channel, l.endpointPath]))
    ⟨fun h => ⟨h.1, h.2⟩, fun h => ⟨h.target, h.address⟩⟩

/-- In the table of links only addresses and the names of services can break a row. -/
theorem keeps_linkBlocks {links : List Link} (h : ∀ l ∈ links, l.MethodBarless) :
    Keeps (linkBlocks links) ↔ ∀ l ∈ links, Escapes l.source ∧ LinkFits l := by
  rw [linkBlocks, keeps_tableBlocks, Table.keepsColumns_map_iff (by decide) (by intro l; rfl)]
  refine forall₂_congr fun l hl => ?_
  have hmethod : ∀ method, l.httpMethod = some method → Escapes method :=
    fun method hmethod => escapes_of_not_mem (h l hl method hmethod)
  simp only [linkRow, List.forall_mem_cons, List.not_mem_nil, false_implies, implies_true, and_true, plain_cell_iff,
    plain_cell?_iff, plain_technologyLabel, plain_yesNo, true_and]
  exact and_congr_right fun _ => ⟨fun h => ⟨h.1, h.2.1⟩, fun h => ⟨h.target, h.address, hmethod⟩⟩

/-- The texts of an endpoint fit into its row, but for the name of its module. -/
structure EndpointFits (e : Endpoint) : Prop where
  path : Plain e.path
  returnType : Escapes e.returnType

instance (e : Endpoint) : Decidable (EndpointFits e) :=
  decidable_of_iff (Plain e.path ∧ Escapes e.returnType) ⟨fun h => ⟨h.1, h.2⟩, fun h => ⟨h.path, h.returnType⟩⟩

/-- A dot parts a cell. -/
theorem plain_append_dot {s t : String} (hs : Plain s) (ht : Plain t) : Plain (s ++ "." ++ t) := by
  have hchars : (s ++ "." ++ t).toList = s.toList ++ '.' :: t.toList := by simp
  refine ⟨?_, ?_⟩
  · rw [hchars]
    simp [hs.1, ht.1]
  · have hopen := hs.2
    have hopen' := ht.2
    unfold openBars at hopen hopen' ⊢
    rw [hchars, bars_append_cons (by decide) (by decide), hopen, hopen']

/-- In the table of endpoints only paths, return types and the names of modules can break a row. -/
theorem keeps_endpointBlocks {endpoints : List Endpoint}
    (h : ∀ e ∈ endpoints, (∀ name, e.className = some name → Inert name.toList) ∧ Inert e.handler.toList) :
    Keeps (endpointBlocks endpoints) ↔
      ∀ e ∈ endpoints, EndpointFits e ∧ ∀ m, e.moduleName = some m → Escapes m := by
  rw [endpointBlocks, keeps_tableBlocks, Table.keepsColumns_map_iff (by decide) (by intro e; rfl)]
  refine forall₂_congr fun e he => ?_
  obtain ⟨hclass, hhandler⟩ := h e he
  have hshown : Plain (cell? e.className ++ "." ++ e.handler) :=
    plain_append_dot (plain_cell?_iff.2 fun name hname => escapes_of_not_mem (hclass name hname).bar) hhandler.plain
  simp only [endpointRow, List.forall_mem_cons, List.not_mem_nil, false_implies, implies_true, and_true, plain_cell_iff,
    plain_cell?_iff, plain_code_iff, plain_methodLabel, hshown, true_and]
  exact ⟨fun h => ⟨⟨h.1, h.2.1⟩, h.2.2⟩, fun h => ⟨h.1.path, h.1.returnType, h.2⟩⟩

theorem mem_findings_of_mem_topFindings {a : Analysis} {x : Finding} (h : x ∈ a.summary.topFindings) : x ∈ a.findings :=
  List.mem_mergeSort.1 (List.mem_of_mem_take h)

theorem keeps_findingBlocks {a : Analysis} (h : ∀ x ∈ a.findings, '|' ∉ x.title.toList) :
    Keeps (findingBlocks a.findings a.summary) ↔ ∀ x ∈ a.summary.topFindings, Plain x.fileName := by
  have htable : Table.KeepsColumns ⟨["Severity", "Category", "Title", "File", "Line"],
      a.summary.topFindings.map findingRow⟩ ↔ ∀ x ∈ a.summary.topFindings, Plain x.fileName := by
    rw [Table.keepsColumns_map_iff (by decide) (by intro x; rfl)]
    refine forall₂_congr fun x hx => ?_
    have hline : ∀ n, x.lineNumber.map counted = some n → Escapes n := by
      intro n hn
      obtain ⟨k, -, rfl⟩ := Option.map_eq_some_iff.1 hn
      exact escapes_of_not_mem (inert_counted k).bar
    simp only [findingRow, List.forall_mem_cons, List.not_mem_nil, false_implies, implies_true, and_true, plain_cell_iff,
      plain_cell?_iff, plain_code_iff, plain_severityLabel, plain_categoryLabel,
      escapes_of_not_mem (h x (mem_findings_of_mem_topFindings hx)), true_and]
    exact and_iff_left hline
  simp only [findingBlocks, keeps_append, keeps_prose, keeps_nil, true_and, and_true]
  split
  · next hnone =>
    rw [List.isEmpty_iff] at hnone
    refine iff_of_true (by simp) fun x hx => ?_
    have hmem := mem_findings_of_mem_topFindings hx
    rw [hnone] at hmem
    cases hmem
  · rw [keeps_prose, keeps_table, htable]
    simp

/-- The texts of a dependency fit into its row. -/
structure DependencyFits (d : Dependency) : Prop where
  coordinates : Plain d.coordinates
  scope : Plain d.scope
  sourceFile : ∀ p, d.sourceFile = some p → Escapes p

theorem keeps_dependencyBlocks {dependencies : List Dependency} :
    Keeps (dependencyBlocks dependencies) ↔ ∀ d ∈ dependencies, DependencyFits d := by
  have htable : Table.KeepsColumns ⟨["Dependency", "Scope", "Declared In"], dependencies.map dependencyRow⟩ ↔
      ∀ d ∈ dependencies, DependencyFits d := by
    rw [Table.keepsColumns_map_iff (by decide) (by intro d; rfl)]
    refine forall₂_congr fun d _ => ?_
    simp only [dependencyRow, List.forall_mem_cons, List.not_mem_nil, false_implies, implies_true, and_true,
      plain_cell?_iff, plain_code_iff]
    exact ⟨fun h => ⟨h.1, h.2.1, h.2.2⟩, fun h => ⟨h.coordinates, h.scope, h.sourceFile⟩⟩
  simp only [dependencyBlocks, keeps_blocksIf, keeps_prose, keeps_table, keeps_nil, and_true, htable]
  cases dependencies <;> simp

/-! ## Reports -/

/-- What is known of the texts of a result without a look at the corpus: names that were read hold neither bars nor line
    breaks, methods, databases and titles hold no bars, and links and endpoints name modules of the result. -/
structure TextsRead (a : Analysis) : Prop where
  facts : ∀ f ∈ a.facts, f.NamesInert
  modules : ∀ m ∈ a.modules, m.DetailsBarless
  links : ∀ l ∈ a.links, l.MethodBarless ∧ l.source ∈ a.moduleNames
  endpoints : ∀ e ∈ a.endpoints, (∀ name, e.className = some name → Inert name.toList) ∧ Inert e.handler.toList
  endpointModule : ∀ e ∈ a.endpoints, ∀ m, e.moduleName = some m → m ∈ a.moduleNames
  relations : ∀ r ∈ a.relations,
    Inert r.source.toList ∧ Inert r.target.toList ∧ ∀ f, r.field = some f → Inert f.toList
  findings : ∀ x ∈ a.findings, '|' ∉ x.title.toList

/-- The other texts of a result, which may hold anything, fit into their cells. -/
structure CellsFit (a : Analysis) : Prop where
  run : Plain a.runId
  modules : ∀ m ∈ a.modules, ModuleFits m
  links : ∀ l ∈ a.links, LinkFits l
  endpoints : ∀ e ∈ a.endpoints, EndpointFits e
  findings : ∀ x ∈ a.summary.topFindings, Plain x.fileName
  dependencies : ∀ d ∈ a.dependencies, DependencyFits d

/-- A report whose names were read keeps its columns if its other texts fit. -/
theorem keeps_blocks_iff {a : Analysis} (h : TextsRead a) : Keeps (blocks a) ↔ CellsFit a := by
  have hlinks := keeps_linkBlocks fun l hl => (h.links l hl).1
  simp only [blocks, keeps_append, keeps_prose, keeps_nil, and_true, keeps_titleBlocks, keeps_overviewBlocks h.facts,
    keeps_moduleBlocks h.modules, hlinks, keeps_endpointBlocks h.endpoints, keeps_relationBlocks h.relations,
    keeps_findingBlocks h.findings, keeps_metricBlocks, keeps_dependencyBlocks]
  constructor
  · rintro ⟨⟨⟨⟨⟨hrun, hmodules⟩, hlinks⟩, hendpoints⟩, hfindings⟩, hdependencies⟩
    exact ⟨hrun, hmodules, fun l hl => (hlinks l hl).2, fun e he => (hendpoints e he).1, hfindings, hdependencies⟩
  · intro hfit
    have hescapes : ∀ name ∈ a.moduleNames, Escapes name := by
      intro name hname
      obtain ⟨m, hm, rfl⟩ := List.mem_map.1 hname
      exact (hfit.modules m hm).name
    -- so the columns that name modules ask for nothing more
    have hsource : ∀ l ∈ a.links, Escapes l.source := fun l hl => hescapes _ (h.links l hl).2
    have hmodule : ∀ e ∈ a.endpoints, ∀ m, e.moduleName = some m → Escapes m :=
      fun e he m hm => hescapes m (h.endpointModule e he m hm)
    exact ⟨⟨⟨⟨⟨hfit.run, hfit.modules⟩, fun l hl => ⟨hsource l hl, hfit.links l hl⟩⟩,
      fun e he => ⟨hfit.endpoints e he, hmodule e he⟩⟩, hfit.findings⟩, hfit.dependencies⟩

/-! ## Runs -/

section Runs

variable [Yaml.Loader] {config : AnalyzerConfig} {corpus : Corpus} {runId : String} {timestamp : Timestamp}

/-- Placing a fact in a module leaves its names as they were read. -/
theorem stages_namesInert (s : Stages config corpus) {f : ClassFact} (hf : f ∈ s.services.facts) : f.NamesInert := by
  obtain ⟨described, -, hs⟩ := mapServices_eq_ok.1 s.services_eq
  rw [hs] at hf
  obtain ⟨g, hg, rfl⟩ := mem_assignModules hf
  obtain ⟨file, -, hfile⟩ := exists_extract_of_mem hg
  have hread := extract_namesInert hfile
  refine ⟨hread.name, hread.packageName, fun e he => ?_⟩
  obtain ⟨e', he', rfl⟩ := List.mem_map.1 he
  exact hread.handler e' he'

/-- **The names in the result of a run were read**, whatever the corpus holds. -/
theorem textsRead_result (s : Stages config corpus) : TextsRead (s.result runId timestamp) := by
  have hnames : ∀ f ∈ s.services.facts, f.NamesInert := fun f hf => stages_namesInert s hf
  have hends : ∀ name ∈ s.services.facts.map ClassFact.name, Inert name.toList := by
    intro name hname
    obtain ⟨f, hf, rfl⟩ := List.mem_map.1 hname
    exact (hnames f hf).name
  obtain ⟨-, hfacts⟩ := mapServices_facts s.services_eq
  refine
    { facts := hnames
      modules := fun m hm => mapServices_detailsBarless s.services_eq hm
      links := fun l hl => ⟨mapServices_httpMethod s.services_eq hl, (mapServices_links s.services_eq hl).source_mem⟩
      endpoints := fun e he => ?endpoint
      endpointModule := fun e he m hm => ?endpointModule
      relations := fun r hr => ⟨hends _ (s.relation_ends hr).1, hends _ (s.relation_ends hr).2, relations_field hr⟩
      findings := fun x hx => scanCorpus_title hx }
  case endpoint =>
    obtain ⟨f, hf, he⟩ := List.mem_flatMap.1 he
    refine ⟨fun name hname => ?_, (hnames f hf).handler e he⟩
    rw [s.endpoint_class hf he, Option.some.injEq] at hname
    exact hname ▸ (hnames f hf).name
  case endpointModule =>
    obtain ⟨f, hf, he⟩ := List.mem_flatMap.1 he
    rw [(hfacts f hf).2 e he] at hm
    exact (hfacts f hf).1 m hm

/-- **The tables of a report keep their columns exactly where the texts in them fit.** The report of a run that gives a
    result is made of prose and tables. Each row of each table is a single line with the open bars of its header if and
    only if the texts that are shown as they are (the run, ports, paths of endpoints, files of findings, coordinates and
    scopes) are plain, and those that go through `cell` (names of modules and applications, routes, targets and addresses
    of links, return types, files of dependencies) have no bar that is escaped already. -/
theorem analyze_keepsColumns_iff {a : Analysis} (h : analyze config corpus runId timestamp = .ok a) :
    render defaultTemplate a = .ok (writeAll (blocks a)) ∧ (Keeps (blocks a) ↔ CellsFit a) := by
  obtain ⟨s, rfl⟩ := analyze_eq_ok.1 h
  exact ⟨congrArg Except.ok (markdown_eq _), keeps_blocks_iff (textsRead_result s)⟩

end Runs

/-- A controller with one endpoint. -/
def controllerWith (path body : String) : Corpus where
  files := [⟨"A.java", "@RestController\nclass A \x7b\n  @GetMapping(\"" ++ path ++ "\")\n  String f() \x7b " ++ body ++
    " \x7d\n\x7d\n"⟩]
  descriptors := []

theorem controllerWith_sorted (path body : String) : (detectModules 3 (controllerWith path body)).Pairwise
    fun m n => n.rootPath.length ≤ m.rootPath.length :=
  List.pairwise_singleton _ _

/-- A controller that sends to a channel with a bar in its name. -/
def barredChannel : Corpus :=
  controllerWith "/a" "kafkaTemplate.send(\"a|b\");"

theorem analyze_keepsColumns_barredChannel : ∃ a, analyze {} barredChannel "run" { date := ⟨2024, 1, 1⟩ } = .ok a ∧
    a.links.map linkRow = [["root", "KAFKA", "-", "a\\|b (producer)", "-", "no", "yes"]] ∧ Keeps (blocks a) := by
  have hall : (mapServices 3 barredChannel (extractedFacts ⟨200, 4⟩ barredChannel)).toOption.map (fun services =>
        (services.links.map linkRow, decide (∀ m ∈ services.modules, ModuleFits m),
          decide (∀ l ∈ services.links, LinkFits l),
          decide (∀ e ∈ services.facts.flatMap ClassFact.endpoints, EndpointFits e))) =
        some ([["root", "KAFKA", "-", "a\\|b (producer)", "-", "no", "yes"]], true, true, true) ∧
      (codeMetrics barredChannel (extractedFacts ⟨200, 4⟩ barredChannel)).toOption.isSome ∧
      (dataFlow 10 (assignModules (detectModules 3 barredChannel)
        (extractedFacts ⟨200, 4⟩ barredChannel))).toOption.isSome := by
    unfold barredChannel mapServices ServiceMap.ofModules sourceLinks sourceName describeIn ownedFacts isOwnedBy
      assignModules
    -- sorting does not evaluate, and one module needs none
    simp only [ownerOf?_eq_find? (controllerWith_sorted _ _)]
    decide +kernel
  obtain ⟨s, hview⟩ := exists_stages {} hall.1 hall.2.1 hall.2.2
  simp only [Prod.mk.injEq, decide_eq_true_eq] at hview
  obtain ⟨hrows, hmodules, hlinks, hendpoints⟩ := hview
  have h : analyze {} barredChannel "run" { date := ⟨2024, 1, 1⟩ } = .ok (s.result _ _) := analyze_eq_ok.2 ⟨s, rfl⟩
  have hrun : Plain "run" := by decide
  have hfiles : ∀ x ∈ (s.result "run" { date := ⟨2024, 1, 1⟩ }).summary.topFindings, Plain x.fileName := by
    intro x hx
    obtain ⟨f, hf, hname⟩ := scanCorpus_fileName (mem_findings_of_mem_topFindings hx)
    obtain rfl := List.mem_singleton.1 hf
    have hplain : Plain "A.java" := by decide
    exact hname ▸ hplain
  have hdependencies : ∀ d ∈ s.services.dependencies, DependencyFits d := by
    intro d hd
    obtain ⟨f, hf, -⟩ := mapServices_dependencies s.services_eq hd
    cases hf
  exact ⟨_, h, hrows, (analyze_keepsColumns_iff h).2.2
    ⟨hrun, hmodules, hlinks, hendpoints, hfiles, hdependencies⟩⟩

/-- A controller with a bar in the pattern of a path variable. -/
def barredPath : Corpus :=
  controllerWith "/\x7bk:a|b\x7d" "return null;"

/-- **A row with a bar too many**: paths are shown as they are. -/
theorem analyze_not_keepsColumns_barredPath : ∃ a, analyze {} barredPath "run" { date := ⟨2024, 1, 1⟩ } = .ok a ∧
    a.endpoints.map endpointRow = [["GET", "`/\x7bk:a|b\x7d`", "A.f", "String", "root"]] ∧ ¬ Keeps (blocks a) := by
  have hall : (mapServices 3 barredPath (extractedFacts ⟨200, 4⟩ barredPath)).toOption.map (fun services =>
        ((services.facts.flatMap ClassFact.endpoints).map endpointRow,
          decide (∀ e ∈ services.facts.flatMap ClassFact.endpoints, EndpointFits e))) =
        some ([["GET", "`/\x7bk:a|b\x7d`", "A.f", "String", "root"]], false) ∧
      (codeMetrics barredPath (extractedFacts ⟨200, 4⟩ barredPath)).toOption.isSome ∧
      (dataFlow 10 (assignModules (detectModules 3 barredPath) (extractedFacts ⟨200, 4⟩ barredPath))).toOption.isSome := by
    unfold barredPath mapServices ServiceMap.ofModules sourceLinks sourceName describeIn ownedFacts isOwnedBy
      assignModules
    simp only [ownerOf?_eq_find? (controllerWith_sorted _ _)]
    decide +kernel
  obtain ⟨s, hview⟩ := exists_stages {} hall.1 hall.2.1 hall.2.2
  simp only [Prod.mk.injEq, decide_eq_false_iff_not] at hview
  refine ⟨_, analyze_eq_ok.2 ⟨s, rfl⟩, hview.1, fun hkeeps => ?_⟩
  exact hview.2 ((keeps_blocks_iff (textsRead_result s)).1 hkeeps).endpoints

end SpringAtlas.Report

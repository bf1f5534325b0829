import SpringAtlas.Proofs.Fact.Extract
import SpringAtlas.Proofs.Finding.Scan
import SpringAtlas.Proofs.Module.Map
import SpringAtlas.Proofs.Pattern.Occurrence
import SpringAtlas.Proofs.Relation.Soundness
import SpringAtlas.Proofs.Report.Table
import SpringAtlas.Proofs.Settings.RouteKey
import SpringAtlas.Report.Markdown

/-!
# `Proofs.Report.Values` — what a report can show without an escape

Numbers, times and labels hold neither bars nor line breaks, and neither do the names that are read from sources: a group
of a pattern holds only what its classes of characters let through. Titles of findings, databases and HTTP methods have no
bars.

## Contents
* `inert_counted`, `inert_timeText`, `inert_write` — numbers and times
* `StandsIn.inert_group`, `extract_namesInert` — the names in a fact
* `relations_field` — fields and parameters of relations
* `mapServices_httpMethod`, `mapServices_detailsBarless` — links and modules
* `scanCorpus_title` — titles of findings
-/

namespace SpringAtlas

open Report (Inert)

/-! ## Numbers and times -/

/-- Decimal digits are no bars and break no line. -/
theorem inert_toDigits (n : Nat) : Inert (Nat.toDigits 10 n) :=
  .of_forall Text.isAsciiDigit (fun _ => Settings.isAsciiDigit_of_mem_toDigits) rfl rfl

/-- A count is shown in digits. -/
theorem inert_counted (n : Nat) : Inert (Report.counted n).toList := by
  rw [Report.counted, Nat.toString_eq_repr, Nat.toList_repr]
  exact inert_toDigits n

theorem inert_zeros (n : Nat) : Inert (zeros n) := by
  refine .of_forall (· == '0') (fun c hc => ?_) rfl rfl
  rw [List.eq_of_mem_replicate hc]
  rfl

/-- A number that is filled up with zeros is shown in digits. -/
theorem inert_padded (width n : Nat) : Inert (padded width n).toList := by
  rw [padded, String.toList_ofList]
  exact (inert_zeros _).append (inert_toDigits n)

/-- A time is shown in numbers with fixed marks in between. -/
theorem inert_timeText (t : Timestamp) : Inert (Report.timeText t).toList := by
  have hyear : Inert (toString t.date.year).toList := inert_counted t.date.year
  simp only [Report.timeText, Timestamp.writeClock, String.toList_append]
  refine .append (.append (.append (.append (.append (.append (.append hyear ?_) ?_) ?_) ?_) ?_) ?_) ?_
  · decide
  · exact inert_padded _ _
  · decide
  · exact inert_padded _ _
  · decide
  · refine .append (.append (.append (.append (inert_padded _ _) ?_) (inert_padded _ _)) ?_) (inert_padded _ _)
    · decide
    · decide
  · decide

/-- Putting a decimal point among digits, with the zeros that it takes, brings in no bar and no line break. -/
theorem inert_positional {digits : List Char} (h : Inert digits) (point : Int) : Inert (positional digits point) := by
  unfold positional
  split
  · show Inert (['0', '.'] ++ (zeros _ ++ digits))
    exact .append (by decide) (.append (inert_zeros _) h)
  · split
    · exact .append (.append h (inert_zeros _)) (by decide)
    · show Inert (digits.take _ ++ (['.'] ++ digits.drop _))
      exact .append (h.of_subset (List.take_subset _ _)) (.append (by decide) (h.of_subset (List.drop_subset _ _)))

theorem inert_writeExponent (width : Nat) (e : Int) : Inert (writeExponent width e) := by
  have hsign : Inert ['e', if e < 0 then '-' else '+'] := by
    split <;> decide
  exact hsign.append (.append (inert_zeros _) (inert_toDigits _))

/-- A decimal is written with digits, a point and an exponent, in either style. -/
theorem inert_decimal (style : DoubleStyle) (d : Decimal) : Inert (d.write style) := by
  have hdigits : Inert d.digits := inert_toDigits _
  dsimp only [Decimal.write]
  split
  · exact inert_positional hdigits _
  · refine .append ?_ (inert_writeExponent _ _)
    split
    · decide
    · next hds => exact hds ▸ hdigits
    · next c cs _ hds =>
      rw [hds] at hdigits
      have hfirst : Inert [c] := hdigits.of_subset (by simp)
      have hrest : Inert cs := hdigits.of_subset (List.subset_cons_self c cs)
      show Inert ([c] ++ (['.'] ++ cs))
      exact hfirst.append (.append (by decide) hrest)

/-- A double is shown with a sign and digits, or as one of the words for what is not finite. -/
theorem inert_write (x : Double) : Inert x.write.toList := by
  unfold Double.write
  split
  · decide
  · decide
  · decide
  · next s m e =>
    have hdigits : Inert (if m = 0 then "0.0".toList else (shortest m e).write .standard) := by
      split
      · decide
      · exact inert_decimal _ _
    rw [String.toList_ofList]
    split
    · show Inert (['-'] ++ _)
      exact .append (by decide) hdigits
    · exact hdigits

/-! ## Groups -/

/-- A group holds neither bars nor line breaks if none of the classes in it lets one through. -/
theorem Pattern.StandsIn.inert_group {p : Pattern} {text : List Char} {m : Match} (h : p.StandsIn text m) {i : Nat}
    (hp : (p.groupAvoids i '|' && p.groupAvoids i '\n') = true) : Inert (m.group text i) :=
  have hp := Bool.and_eq_true_iff.1 hp
  ⟨h.not_mem_group hp.1, h.not_mem_group hp.2⟩

/-! ## Facts -/

/-- The name of a declared type was read by a class of name characters. -/
theorem declaration?_inert {masked : List Char} {d : Source.TypeDeclaration}
    (h : Source.declaration? masked = some d) : Inert d.name := by
  obtain ⟨m, hm, rfl⟩ := Option.map_eq_some_iff.1 h
  exact (Pattern.standsIn_of_search? hm).inert_group (by decide +kernel)

/-- The name of a package was read by a class of name characters. -/
theorem packageName?_inert {masked name : List Char} (h : Source.packageName? masked = some name) : Inert name := by
  obtain ⟨m, hm, rfl⟩ := Option.map_eq_some_iff.1 h
  exact (Pattern.standsIn_of_search? hm).inert_group (by decide +kernel)

/-- The name of a handler comes from the first place at which a method is found. -/
theorem handlerFrom_inert {raw masked : List (List Char)} {places : List (Nat × Nat)} {h : Handler}
    (hfound : handlerFrom raw masked places = .ok (some h)) : Inert h.name := by
  induction places with
  | nil => cases hfound
  | cons place places ih =>
    obtain ⟨i, start⟩ := place
    rw [handlerFrom] at hfound
    split at hfound
    · cases hfound
    · split at hfound
      · exact ih hfound
      · next m hm =>
        split at hfound
        · cases hfound
          exact (Pattern.standsIn_of_searchFrom? hm).inert_group (by decide +kernel)
        · cases hfound

/-- The names of a fact that a report shows as they are. -/
structure ClassFact.NamesInert (f : ClassFact) : Prop where
  name : Inert f.name.toList
  packageName : ∀ p, f.packageName = some p → Inert p.toList
  handler : ∀ e ∈ f.endpoints, Inert e.handler.toList

/-- **Names in facts are inert**, however the text looks that they were read from. -/
theorem extract_namesInert {limits : ExtractionLimits} {path : String} {text : List Char} {f : ClassFact}
    (h : extract limits path text = .ok (some f)) : f.NamesInert := by
  have hhandler : ∀ e ∈ f.endpoints, Inert e.handler.toList := by
    intro e he
    obtain ⟨d, line, i, -, hendpoint⟩ := exists_endpointAt_of_mem h he
    obtain ⟨mapping, handler, hfound, rfl⟩ := endpointAt_eq_some hendpoint
    rw [String.toList_ofList]
    exact handlerFrom_inert hfound
  dsimp only [extract] at h
  split at h
  · cases h
  · next d hd =>
    have hname : Inert (String.ofList d.name).toList := by
      rw [String.toList_ofList]
      exact declaration?_inert hd
    have hpackage : ∀ p, (Source.packageName? (Source.mask text)).map String.ofList = some p → Inert p.toList := by
      intro p hp
      obtain ⟨name, hfound, rfl⟩ := Option.map_eq_some_iff.1 hp
      rw [String.toList_ofList]
      exact packageName?_inert hfound
    obtain ⟨fact, hfact, h⟩ := bind_eq_ok.1 h
    obtain rfl := checked_eq_ok hfact
    split at h
    · obtain ⟨es, -, h⟩ := bind_eq_ok.1 h
      cases h
      exact ⟨hname, hpackage, hhandler⟩
    · cases h
      exact ⟨hname, hpackage, hhandler⟩

/-! ## Relations -/

/-- The field or parameter that a reference names has a name without bars. -/
def Reference.FieldInert (r : Reference) : Prop :=
  ∀ field, r.field = some field → Inert field

/-- References of a pattern name what its second group holds. -/
theorem fieldsOf_field {p : Pattern} (hp : (p.groupAvoids 2 '|' && p.groupAvoids 2 '\n') = true) {kind : RelationKind}
    {masked : List Char} {r : Reference} (h : r ∈ fieldsOf p kind masked) : r.FieldInert := by
  obtain ⟨m, hm, rfl⟩ := List.mem_map.1 h
  rintro field ⟨⟩
  exact (Pattern.standsIn_of_mem_findAll hm).inert_group hp

/-- References to supertypes name no field. -/
theorem supertypeReferences_field {d : Source.TypeDeclaration} {r : Reference} (h : r ∈ supertypeReferences d) :
    r.FieldInert := by
  rcases List.mem_append.1 h with h | h
  · obtain ⟨t, -, rfl⟩ := Option.map_eq_some_iff.1 (Option.mem_toList.1 h)
    rintro field ⟨⟩
  · obtain ⟨t, -, rfl⟩ := List.mem_map.1 h
    rintro field ⟨⟩

/-- The name of a parameter was read by a class of word characters. -/
theorem parameters_inert {cs : List Char} {p : List Char × List Char} (h : p ∈ Source.parameters cs) : Inert p.2 := by
  obtain ⟨piece, -, hp⟩ := List.mem_filterMap.1 h
  obtain ⟨m, hm, rfl⟩ := Option.map_eq_some_iff.1 hp
  exact (Pattern.standsIn_of_matchStart? hm).inert_group (by decide +kernel)

/-- References of a constructor name its parameters. -/
theorem constructorReferences_field {masked className : List Char} {m : Match} {r : Reference}
    (h : r ∈ constructorReferences masked className m) : r.FieldInert := by
  unfold constructorReferences at h
  split at h
  · obtain ⟨p, hp, rfl⟩ := List.mem_map.1 h
    rintro field ⟨⟩
    exact parameters_inert hp
  · cases h

/-- References of an annotated line name the field that is declared on it or below it. -/
theorem associationsFrom_field {lookahead : Int} {count i : Nat} {lines : List (List Char)} {r : Reference}
    (h : r ∈ associationsFrom lookahead count i lines) : r.FieldInert := by
  induction lines generalizing i with
  | nil => cases h
  | cons line rest ih =>
    rcases List.mem_append.1 h with h | h
    · obtain ⟨m, -, h⟩ := List.mem_filterMap.1 h
      obtain ⟨l, -, hl⟩ := List.exists_of_findSome?_eq_some h
      obtain ⟨f, hf, rfl⟩ := Option.map_eq_some_iff.1 hl
      rintro field ⟨⟩
      exact (Pattern.standsIn_of_matchStart? hf).inert_group (by decide +kernel)
    · exact ih h

/-- The references of a class one kind after another: supertypes, injected fields and parameters, associations. -/
theorem strongReferences_field {lookahead : Int} {masked : List Char} {d : Source.TypeDeclaration} {owner : ClassFact}
    {r : Reference} (h : r ∈ strongReferences lookahead masked d owner) : r.FieldInert := by
  rcases List.mem_append.1 h with h | h
  · rcases List.mem_append.1 h with h | h
    · exact supertypeReferences_field h
    · rcases List.mem_append.1 h with h | h
      · rcases List.mem_append.1 h with h | h
        · exact fieldsOf_field (by decide +kernel) h
        · obtain ⟨m, -, h⟩ := List.mem_flatMap.1 h
          exact constructorReferences_field h
      · exact fieldsOf_field (by decide +kernel) h
  · split at h
    · exact associationsFrom_field h
    · cases h

/-- Resolving a reference keeps the field that it names. -/
theorem resolve?_field {index : NameIndex} {source : String} {r : Reference} {q : Relation} (hr : r.FieldInert)
    (h : r.resolve? index source = some q) : ∀ field, q.field = some field → Inert field.toList := by
  obtain ⟨f, -, rfl⟩ := Option.map_eq_some_iff.1 h
  intro field hfield
  obtain ⟨name, hname, rfl⟩ := Option.map_eq_some_iff.1 hfield
  rw [String.toList_ofList]
  exact hr name hname

/-- The field of a relation is a name. -/
theorem relations_field {index : NameIndex} {lookahead : Int} {corpus : Corpus} {q : Relation}
    (h : q ∈ relations index lookahead corpus) : ∀ field, q.field = some field → Inert field.toList := by
  rcases mem_foldl id addFile mem_addFile h with h | ⟨file, hfile, h⟩
  · cases h
  · obtain ⟨text, -, hscan⟩ := List.mem_filterMap.1 hfile
    obtain ⟨d, -, hscan⟩ := Option.bind_eq_some_iff.1 hscan
    obtain ⟨owner, -, hscan⟩ := Option.bind_eq_some_iff.1 hscan
    obtain rfl := Option.some.inj hscan
    rcases h with h | h
    · obtain ⟨r, hr, hq⟩ := List.mem_filterMap.1 h
      exact resolve?_field (strongReferences_field hr) hq
    · obtain ⟨r, hr, hq⟩ := List.mem_filterMap.1 h
      exact resolve?_field (fieldsOf_field (by decide +kernel) hr) hq

/-! ## Links -/

/-- The HTTP method that is given as an argument is a word, or the default. -/
theorem bar_not_mem_methodArgument (masked : List Char) : '|' ∉ methodArgument masked := by
  unfold methodArgument
  split
  · next m hm => exact (Pattern.standsIn_of_search? hm).not_mem_group (by decide +kernel)
  · decide

/-- The HTTP method of a call through a template is an argument, a verb in the name of the call, or the default. -/
theorem bar_not_mem_restTemplateMethod (call arguments : List Char) : '|' ∉ restTemplateMethod call arguments := by
  dsimp only [restTemplateMethod]
  split
  · exact bar_not_mem_methodArgument arguments
  · split
    · next verb hverb =>
      have hverbs : ∀ v ∈ ["post", "put", "delete", "patch"], '|' ∉ Text.upper v.toList := by decide +kernel
      exact hverbs verb (List.mem_of_find?_eq_some hverb)
    · decide

open Pattern in
/-- The first group of the pattern of verbs holds one of the verbs. -/
theorem verbCallPattern_binds : Binds verbCallPattern 1
    fun word => ∃ s ∈ ["get", "post", "put", "delete", "patch"], word = s.toList :=
  ((((((reads_oneOf _).binds 1).seq_right _).seq_left rfl).seq_left rfl).seq_left rfl).seq_left rfl

/-- The HTTP method of a chain of calls is one of the verbs, or an argument. -/
theorem bar_not_mem_chainMethod (masked : List Char) : '|' ∉ chainMethod masked := by
  unfold chainMethod
  split
  · next m hm =>
    have hverbs : ∀ v ∈ ["get", "post", "put", "delete", "patch"], '|' ∉ Text.upper v.toList := by decide +kernel
    obtain ⟨verb, hverb, hword⟩ :=
      verbCallPattern_binds.standsIn (Pattern.standsIn_of_mem_findAll (List.mem_of_getLast? hm))
    rw [hword]
    exact hverbs verb hverb
  · exact bar_not_mem_methodArgument masked

/-- A link has an HTTP method without bars, or none. -/
def Link.MethodBarless (l : Link) : Prop :=
  ∀ method, l.httpMethod = some method → '|' ∉ method.toList

/-- A link without an HTTP method shows none. -/
theorem methodBarless_of_none {l : Link} (h : l.httpMethod = none) : l.MethodBarless := by
  intro method hmethod
  rw [h] at hmethod
  cases hmethod

theorem methodBarless_of_some {l : Link} {cs : List Char} (h : l.httpMethod = some (String.ofList cs)) (hcs : '|' ∉ cs) :
    l.MethodBarless := by
  intro method hmethod
  rw [h, Option.some.injEq] at hmethod
  rw [← hmethod, String.toList_ofList]
  exact hcs

/-- Links of a broker have no HTTP method. -/
theorem brokerLinks_httpMethod {b : Broker} {s : LinkSource} {l : Link} (h : l ∈ brokerLinks b s) : l.MethodBarless := by
  rcases List.mem_append.1 h with h | h
  · obtain ⟨m, -, h⟩ := List.mem_flatMap.1 h
    obtain ⟨channel, -, rfl⟩ := List.mem_map.1 h
    exact methodBarless_of_none rfl
  · obtain ⟨m, -, rfl⟩ := List.mem_map.1 h
    exact methodBarless_of_none rfl

/-- The links of a file by the pass that finds them: clients, templates, chains of calls, and the two brokers. -/
theorem scanLinks_httpMethod {service : String} {f : SourceFile} {l : Link} (h : l ∈ scanLinks service f) :
    l.MethodBarless := by
  rcases List.mem_append.1 h with h | h
  · rcases List.mem_append.1 h with h | h
    · rcases List.mem_append.1 h with h | h
      · rcases List.mem_append.1 h with h | h
        · obtain ⟨m, -, rfl⟩ := List.mem_map.1 h
          exact methodBarless_of_none rfl
        · obtain ⟨m, -, rfl⟩ := List.mem_map.1 h
          exact methodBarless_of_some rfl (bar_not_mem_restTemplateMethod _ _)
      · obtain ⟨m, -, hm⟩ := List.mem_filterMap.1 h
        dsimp only [webClientLink?] at hm
        split at hm
        · cases hm
        · cases hm
          exact methodBarless_of_some rfl (bar_not_mem_chainMethod _)
    · exact brokerLinks_httpMethod h
  · exact brokerLinks_httpMethod h

/-- Routes of a gateway have no HTTP method. -/
theorem gatewayLinks_httpMethod {m : BuildModule} {l : Link} (h : l ∈ gatewayLinks m) : l.MethodBarless := by
  unfold gatewayLinks at h
  split at h
  · obtain ⟨r, -, rfl⟩ := List.mem_map.1 h
    exact methodBarless_of_none rfl
  · cases h

/-! ## Modules -/

/-- A database that is known by its driver has one of the names of the table of drivers. -/
theorem bar_not_mem_databaseOf {artifacts : List String} {database : String} (h : databaseOf? artifacts = some database) :
    '|' ∉ database.toList := by
  have hall : ∀ d ∈ driverDatabases, '|' ∉ d.2.toList := by decide
  obtain ⟨d, hd, rfl⟩ := Option.map_eq_some_iff.1 h
  exact hall d (List.mem_of_find?_eq_some hd)

/-- A database that is known by the settings has one of the names of the table of hints, or that of a document store. -/
theorem bar_not_mem_database {s : Settings.Store} {database : String} (h : Settings.database? s = some database) :
    '|' ∉ database.toList := by
  dsimp only [Settings.database?] at h
  split at h
  · next hint hfound =>
    have hall : ∀ d ∈ Settings.databaseHints, '|' ∉ d.2.toList := by decide
    cases h
    exact hall hint (List.mem_of_find?_eq_some hfound)
  · obtain ⟨e, -, hdocument⟩ := List.exists_of_findSome?_eq_some h
    unfold Settings.documentDatabase? at hdocument
    split at hdocument
    · cases hdocument
      decide
    · split at hdocument
      · cases hdocument
        decide
      · cases hdocument

/-- A module that has been described has a base package and a database without bars, or none. -/
structure BuildModule.DetailsBarless (m : BuildModule) : Prop where
  basePackage : ∀ p, m.basePackage = some p → '|' ∉ p.toList
  database : ∀ d, m.database = some d → '|' ∉ d.toList

/-! ## Maps -/

section Map

variable [Yaml.Loader] {maxDepth : Int} {c : Corpus} {facts : List ClassFact} {services : ServiceMap}

/-- The links of a map are those of its files and gateways; finding the peers of messages changes no method. -/
theorem mapServices_httpMethod (h : mapServices maxDepth c facts = .ok services) {l : Link} (hl : l ∈ services.links) :
    l.MethodBarless := by
  obtain ⟨described, -, rfl⟩ := mapServices_eq_ok.1 h
  obtain ⟨l₀, hl₀, rfl⟩ := List.mem_map.1 hl
  have hbarless : l₀.MethodBarless := by
    rcases List.mem_append.1 hl₀ with hl₀ | hl₀
    · obtain ⟨f, -, hl₀⟩ := List.mem_flatMap.1 hl₀
      exact scanLinks_httpMethod hl₀
    · obtain ⟨m, -, hl₀⟩ := List.mem_flatMap.1 hl₀
      exact gatewayLinks_httpMethod hl₀
  split
  · exact hbarless
  · exact hbarless

/-- The base package of a described module is a name of its sources, its database one of some fixed names. -/
theorem describeModule_detailsBarless {m : BuildModule} {files : List SourceFile}
    {descriptor : Option BuildDescriptor} {owned : List ClassFact} {r : BuildModule × List Problem}
    (h : describeModule m files descriptor owned = .ok r) :
    r.1.DetailsBarless := by
  dsimp only [describeModule] at h
  obtain ⟨settings, hsettings, h⟩ := bind_eq_ok.1 h
  obtain ⟨routes, -, hsettings⟩ := bind_eq_ok.1 hsettings
  cases hsettings
  cases h
  constructor
  · intro p hp
    obtain ⟨source, -, hp⟩ := Option.bind_eq_some_iff.1 hp
    obtain ⟨name, hname, rfl⟩ := Option.map_eq_some_iff.1 hp
    rw [String.toList_ofList]
    exact (packageName?_inert hname).bar
  · intro d hd
    rcases Option.or_eq_some_iff.1 hd with hd | ⟨-, hd⟩
    · exact bar_not_mem_database hd
    · exact bar_not_mem_databaseOf hd

/-- Every module of a map has been described. -/
theorem mapServices_detailsBarless (h : mapServices maxDepth c facts = .ok services) {m : BuildModule}
    (hm : m ∈ services.modules) : m.DetailsBarless := by
  obtain ⟨described, hd, rfl⟩ := mapServices_eq_ok.1 h
  obtain ⟨r, hr, rfl⟩ := List.mem_map.1 hm
  obtain ⟨m₀, -, hdescribe⟩ := exists_of_mem_mapM hd hr
  exact describeModule_detailsBarless hdescribe

end Map

/-! ## Findings -/

/-- The algorithm in the title of a finding was read by a class of characters without bars. -/
theorem bar_not_mem_algorithm {text : List Char} {m : Match} (h : m ∈ weakCryptoPattern.findAll text) :
    '|' ∉ (m.group? text 1).getD (m.group text 2) := by
  have hstands := Pattern.standsIn_of_mem_findAll h
  have hfirst : '|' ∉ m.group text 1 := hstands.not_mem_group (by decide +kernel)
  have hsecond : '|' ∉ m.group text 2 := hstands.not_mem_group (by decide +kernel)
  rw [Match.group] at hfirst
  cases hgroup : m.group? text 1 with
  | none => exact hsecond
  | some word =>
    rw [hgroup] at hfirst
    exact hfirst

theorem secretFindings_title {f : SourceFile} {x : Finding} (h : x ∈ secretFindings f) : '|' ∉ x.title.toList := by
  obtain ⟨m, -, rfl⟩ := List.mem_map.1 h
  show '|' ∉ "Potential hardcoded secret".toList
  decide

/-- Only one detector puts a text of the source into its titles, the name of an algorithm. -/
theorem scanSource_title {f : SourceFile} {x : Finding} (h : x ∈ scanSource f) : '|' ∉ x.title.toList := by
  simp only [scanSource, List.mem_append] at h
  -- one case for each detector, in the order of the scan
  rcases h with ((((h | h) | h) | h) | h) | h
  · exact secretFindings_title h
  · unfold sqlFindings at h
    split at h
    · obtain ⟨m, -, rfl⟩ := List.mem_map.1 h
      show '|' ∉ "Potential SQL injection".toList
      decide
    · cases h
  · obtain ⟨m, -, rfl⟩ := List.mem_map.1 h
    show '|' ∉ "Command execution detected".toList
    decide
  · obtain ⟨m, hm, rfl⟩ := List.mem_map.1 h
    have halgorithm := bar_not_mem_algorithm hm
    show '|' ∉ ("Weak cryptographic algorithm: " ++ String.ofList _).toList
    rw [String.toList_append, List.mem_append, not_or]
    refine ⟨by decide, ?_⟩
    rw [String.toList_ofList]
    exact halgorithm
  · dsimp only [missingAuthFindings] at h
    split at h
    · cases h
    · obtain ⟨m, -, rfl⟩ := Option.map_eq_some_iff.1 (Option.mem_toList.1 h)
      show '|' ∉ "Controller without security annotations".toList
      decide
  · obtain ⟨m, -, rfl⟩ := Option.map_eq_some_iff.1 (Option.mem_toList.1 h)
    show '|' ∉ "Overly permissive CORS configuration".toList
    decide

/-- Findings about open consoles have fixed titles. -/
theorem consoleFindings_title [Yaml.Loader] {f : SourceFile} {found : List Finding}
    (h : consoleFindings f = .ok found) {x : Finding} (hx : x ∈ found) : '|' ∉ x.title.toList := by
  obtain ⟨es, -, h⟩ := bind_eq_ok.1 h
  cases h
  rcases List.mem_append.1 hx with hx | hx
  · obtain ⟨-, hx⟩ := List.mem_ite_nil_right.1 hx
    obtain rfl := List.mem_singleton.1 hx
    show '|' ∉ "H2 Console enabled".toList
    decide
  · obtain ⟨-, hx⟩ := List.mem_ite_nil_right.1 hx
    obtain rfl := List.mem_singleton.1 hx
    show '|' ∉ "All actuator endpoints exposed".toList
    decide

/-- All findings about settings have fixed titles. -/
theorem scanSettings_title [Yaml.Loader] {f : SourceFile} {x : Finding} (h : x ∈ (scanSettings f).findings) :
    '|' ∉ x.title.toList := by
  have hplain : ∀ {x}, x ∈ secretFindings f ++ debugFindings f → '|' ∉ x.title.toList := by
    intro x hx
    rcases List.mem_append.1 hx with hx | hx
    · exact secretFindings_title hx
    · obtain ⟨m, -, rfl⟩ := Option.map_eq_some_iff.1 (Option.mem_toList.1 hx)
      show '|' ∉ "Debug mode enabled".toList
      decide
  dsimp only [scanSettings] at h
  split at h
  · next found hfound =>
    rcases List.mem_append.1 h with h | h
    · exact hplain h
    · exact consoleFindings_title hfound h
  · exact hplain h

/-- The title of a finding has no bars. -/
theorem scanCorpus_title [Yaml.Loader] {c : Corpus} {x : Finding} (h : x ∈ (scanCorpus c).findings) :
    '|' ∉ x.title.toList := by
  rw [scanCorpus_findings] at h
  obtain ⟨f, -, hx⟩ := List.mem_flatMap.1 h
  unfold scanFile at hx
  split at hx
  · exact scanSource_title hx
  · exact scanSettings_title hx

end SpringAtlas

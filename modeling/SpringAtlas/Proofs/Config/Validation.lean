import SpringAtlas.Config.Load
import SpringAtlas.Proofs.Outcome

/-!
# `Proofs.Config.Validation` — which documents are loaded, refused, or break the loading

Loading should end in one of two ways: with a configuration in which every value is of its kind, or with a refusal that
names the value at fault. The limits, the format and the mode are checked, so whatever is loaded has them in range. But a
section is asked for its keys, a list for its items and a level for its capitals without a check, so a value of another
shape ends the loading with an error that says nothing about the document; and the path is taken as it is.

The fields are read one after another and the first one that is not accepted decides. `judgeDocument` is the list of what
becomes of each field, in the order in which they are read, so the outcome of a whole document is the first verdict of
that list which is not `accepted`.

## Contents
* `ConfigError.isRefusal`, `Config.IsInRange`, `Settles` — how loading should end
* `Verdict`, `Verdict.ofResult_bind` — the verdict on a computation of many steps
* `judgeItems`, `judgeLimit`, `judgeChoice`, `judgeLevel` — what becomes of one value
* `judgeAnalyzer`, `judgeOutput`, `judgeLogging`, `judgeDocument` — what becomes of the fields of a document
* `Config.ofValue_settles_iff`
-/

namespace SpringAtlas

/-! ## How loading should end -/

/-- Whether an error refuses a value. The other errors come from an operation that a value does not have. -/
def ConfigError.isRefusal : ConfigError → Bool
  | .environment (.unset _) | .notPositive _ _ | .unknownFormat _ | .unknownMode _ => true
  | _ => false

/-- The limits of an analysis. -/
def AnalyzerConfig.limits (c : AnalyzerConfig) : List Nat :=
  [c.maxWalkDepth, c.maxEndpointPathLength, c.lookaheadLines, c.maxFlowPaths, c.topFindings, c.workers]

/-- The names of the formats of a report. -/
def formatNames : List String :=
  ["markdown", "json"]

/-- The names of the ways to write log lines. -/
def modeNames : List String :=
  ["human", "verbose", "json"]

/-- The values that are checked are in their range. -/
structure Config.IsInRange (c : Config) : Prop where
  limits : ∀ limit ∈ c.analyzer.limits, 1 ≤ limit
  format : c.output.format.name ∈ formatNames
  mode : c.logging.mode.name ∈ modeNames

/-- Loading ends with a configuration that is in range and has a text for its path, or with a refusal. -/
def Settles : Except ConfigError Config → Prop
  | .ok c => c.IsInRange ∧ ∃ t, c.output.path = .str t
  | .error e => e.isRefusal = true

/-! ## Verdicts -/

/-- How a value, a field or a whole document fares. -/
inductive Verdict where
  | accepted
  | refused
  /-- an operation was asked for that the value does not have -/
  | broken
deriving DecidableEq

namespace Verdict

variable {α β : Type}

/-- A verdict, and what comes behind it if it lets anything come behind it. -/
def andThen : Verdict → Verdict → Verdict
  | accepted, v => v
  | v, _ => v

/-- The first verdict that is not `accepted`, if there is one. -/
def first : List Verdict → Verdict
  | [] => accepted
  | v :: vs => v.andThen (first vs)

theorem first_singleton (v : Verdict) : first [v] = v := by
  cases v <;> rfl

/-- The verdict on two lists of fields is that on the first one, and on the second one if the first is accepted. -/
theorem first_append (vs ws : List Verdict) : first (vs ++ ws) = (first vs).andThen (first ws) := by
  induction vs with
  | nil => rfl
  | cons v vs ih =>
    show v.andThen (first (vs ++ ws)) = (v.andThen (first vs)).andThen (first ws)
    rw [ih]
    cases v <;> rfl

/-- How a computation fares. -/
def ofResult : Except ConfigError α → Verdict
  | .ok _ => accepted
  | .error e => if e.isRefusal then refused else broken

theorem ofResult_pure (a : α) : ofResult (pure a : Except ConfigError α) = first [] :=
  rfl

/-- **The first step that is not accepted decides** about a sequence, if no verdict depends on what was read before. -/
theorem ofResult_bind {x : Except ConfigError α} {f : α → Except ConfigError β} {vs ws : List Verdict}
    (hx : ofResult x = first vs) (hf : ∀ a, ofResult (f a) = first ws) : ofResult (x >>= f) = first (vs ++ ws) := by
  rw [first_append, ← hx]
  cases x with
  | ok a => exact hf a
  | error e =>
    show (if e.isRefusal then refused else broken) = (if e.isRefusal then refused else broken).andThen _
    by_cases he : e.isRefusal
    · rw [if_pos he]
      rfl
    · rw [if_neg he]
      rfl

end Verdict

open Verdict

/-! ## What becomes of one value -/

/-- A list of extensions or directories: everything that has items is taken. -/
def judgeItems : Yaml.Value → Verdict
  | .str _ | .binary _ | .list _ | .map _ | .set _ | .pair _ _ => accepted
  | _ => broken

/-- A limit has to be a positive integer. -/
def judgeLimit : Yaml.Value → Verdict
  | .int n => if 1 ≤ n then accepted else refused
  | _ => refused

/-- A choice has to be one of some names; a collection other than a set cannot even be compared with them. -/
def judgeChoice (names : List String) : Yaml.Value → Verdict
  | .str t => if t ∈ names then accepted else refused
  | .set _ => refused
  | v => if v.isKey then refused else broken

/-- A level is written in capitals, which only a text and bytes can be. -/
def judgeLevel : Yaml.Value → Verdict
  | .str _ | .binary _ => accepted
  | _ => broken

/-- A field fares as its value does; one that is missing has its default. -/
def judgeField (s : Section) (name : String) (judge : Yaml.Value → Verdict) : Verdict :=
  match Yaml.Value.lookup name s with
  | none => accepted
  | some v => judge v

section Fields

variable (s : Section) (name : String)

/-- A list of a section fares as its value does. -/
theorem ofResult_readItems (default : List Yaml.Value) :
    ofResult (readItems s name default) = first [judgeField s name judgeItems] := by
  rw [first_singleton, readItems, judgeField]
  cases Yaml.Value.lookup name s with
  | none => rfl
  | some v => cases v <;> rfl

/-- A limit of a section fares as its value does. -/
theorem ofResult_readLimit (default : Nat) :
    ofResult (readLimit s name default) = first [judgeField s name judgeLimit] := by
  rw [first_singleton, readLimit, judgeField]
  cases Yaml.Value.lookup name s with
  | none => rfl
  | some v =>
    cases v with
    | int n =>
      show ofResult (if 1 ≤ n then Except.ok n.toNat else _) = if 1 ≤ n then accepted else refused
      by_cases hn : 1 ≤ n
      · rw [if_pos hn, if_pos hn]
        rfl
      · rw [if_neg hn, if_neg hn]
        rfl
    | _ => rfl

/-- A choice of a section fares as its value does, if the names are those that can be chosen. -/
theorem ofResult_readChoice {α : Type} (default : α) {choose : String → Option α} {refuse : Yaml.Value → ConfigError}
    {names : List String} (hchoose : ∀ t, (choose t).isSome ↔ t ∈ names) (hrefuse : ∀ v, (refuse v).isRefusal) :
    ofResult (readChoice s name default choose refuse) = first [judgeField s name (judgeChoice names)] := by
  have hrefused : ∀ v, ofResult (Except.error (refuse v) : Except ConfigError α) = refused := fun v => if_pos (hrefuse v)
  rw [first_singleton, readChoice, judgeField]
  cases Yaml.Value.lookup name s with
  | none => rfl
  | some v =>
    by_cases htext : ∃ t, v = .str t
    · obtain ⟨t, rfl⟩ := htext
      show ofResult _ = if t ∈ names then accepted else refused
      cases hchosen : choose t with
      | some a =>
        have hknown : t ∈ names := (hchoose t).1 (by rw [hchosen, Option.isSome_some])
        rw [if_pos hknown]
        simp only [hchosen]
        rfl
      | none =>
        have hunknown : t ∉ names := by
          intro ht
          have hsome := (hchoose t).2 ht
          rw [hchosen] at hsome
          cases hsome
        rw [if_neg hunknown]
        simp only [hchosen]
        exact hrefused (.str t)
    · have hother : ofResult (if v.isKey then Except.error (refuse v) else (.error (.notComparable v) : Except _ α)) =
          if v.isKey then refused else broken := by
        by_cases hkey : v.isKey
        · rw [if_pos hkey, if_pos hkey, hrefused]
        · rw [if_neg hkey, if_neg hkey]
          rfl
      cases v with
      | str t => exact absurd ⟨t, rfl⟩ htext
      | set items => exact hrefused (.set items)
      | _ => exact hother

/-- The level of a section fares as its value does. -/
theorem ofResult_readLevel (default : String) :
    ofResult (readLevel s default) = first [judgeField s "level" judgeLevel] := by
  rw [first_singleton, readLevel, judgeField]
  cases Yaml.Value.lookup "level" s with
  | none => rfl
  | some v => cases v <;> rfl

end Fields

/-- A choice by name finds exactly the names of what it can choose. -/
theorem isSome_findNamed_iff {α : Type} (name : α → String) (choices : List α) (t : String) :
    (choices.find? fun a => name a == t).isSome ↔ t ∈ choices.map name := by
  rw [List.find?_isSome, List.mem_map]
  simp only [beq_iff_eq]

/-! ## What becomes of a document -/

/-- The lists of the analyzer section are read before its limits. -/
def judgeAnalyzer (s : Section) : List Verdict :=
  [judgeField s "source_extensions" judgeItems, judgeField s "config_extensions" judgeItems,
    judgeField s "exclude_dirs" judgeItems,
    judgeField s "max_walk_depth" judgeLimit, judgeField s "max_endpoint_path_length" judgeLimit,
    judgeField s "lookahead_lines" judgeLimit, judgeField s "max_flow_paths" judgeLimit,
    judgeField s "top_findings" judgeLimit, judgeField s "workers" judgeLimit]

/-- The path of the output section is not looked at. -/
def judgeOutput (s : Section) : List Verdict :=
  [judgeField s "format" (judgeChoice formatNames)]

def judgeLogging (s : Section) : List Verdict :=
  [judgeField s "mode" (judgeChoice modeNames), judgeField s "level" judgeLevel]

/-- The fields of a section, if it is a mapping or as good as missing. -/
def judgeSection (document : Section) (name : String) (judge : Section → List Verdict) : List Verdict :=
  match Yaml.Value.lookup name document with
  | none => []
  | some (.map s) => judge s
  | some v => if v.isEmptyish then judge [] else [broken]

/-- The fields of a document, in the order in which they are read. -/
def judgeDocument (document : Section) : List Verdict :=
  judgeSection document "analyzer" judgeAnalyzer ++
  (judgeSection document "output" judgeOutput ++ judgeSection document "logging" judgeLogging)

theorem ofResult_readAnalyzer (s : Section) : ofResult (readAnalyzer s) = first (judgeAnalyzer s) := by
  refine ofResult_bind (ofResult_readItems s _ _) fun sourceExtensions => ?_
  refine ofResult_bind (ofResult_readItems s _ _) fun configExtensions => ?_
  refine ofResult_bind (ofResult_readItems s _ _) fun excludeDirs => ?_
  refine ofResult_bind (ofResult_readLimit s _ _) fun depth => ?_
  refine ofResult_bind (ofResult_readLimit s _ _) fun length => ?_
  refine ofResult_bind (ofResult_readLimit s _ _) fun lookahead => ?_
  refine ofResult_bind (ofResult_readLimit s _ _) fun paths => ?_
  refine ofResult_bind (ofResult_readLimit s _ _) fun top => ?_
  refine ofResult_bind (ofResult_readLimit s _ _) fun workers => ?_
  apply ofResult_pure

theorem ofResult_readOutput (s : Section) : ofResult (readOutput s) = first (judgeOutput s) := by
  have hformat := isSome_findNamed_iff ReportFormat.name [.markdown, .json]
  refine ofResult_bind (ofResult_readChoice s _ _ hformat fun _ => rfl) fun format => ?_
  apply ofResult_pure

theorem ofResult_readLogging (s : Section) : ofResult (readLogging s) = first (judgeLogging s) := by
  have hmode := isSome_findNamed_iff LogMode.name [.human, .verbose, .json]
  refine ofResult_bind (ofResult_readChoice s _ _ hmode fun _ => rfl) fun mode => ?_
  refine ofResult_bind (ofResult_readLevel s _) fun level => ?_
  apply ofResult_pure

/-- A section of a document fares as its fields do; one that is missing is accepted. -/
theorem ofResult_readSection {α : Type} (document : Section) (name : String) (default : α)
    {read : Section → Except ConfigError α} {judge : Section → List Verdict}
    (h : ∀ s, ofResult (read s) = first (judge s)) :
    ofResult (readSection (.map document) name default read) = first (judgeSection document name judge) := by
  show ofResult (match Yaml.Value.lookup name document with
    | none => Except.ok default
    | some v => sectionOf v >>= read) = _
  rw [judgeSection]
  cases Yaml.Value.lookup name document with
  | none => rfl
  | some v =>
    have hother : ofResult ((if v.isEmptyish then .ok [] else .error (.lacks "get" v)) >>= read) =
        first (if v.isEmptyish then judge [] else [broken]) := by
      by_cases hempty : v.isEmptyish
      · rw [if_pos hempty, if_pos hempty]
        exact h []
      · rw [if_neg hempty, if_neg hempty]
        rfl
    cases v with
    | map s => exact h s
    | _ => exact hother

/-! ## What is loaded -/

/-- A limit that is read is positive. -/
theorem readLimit_pos {s : Section} {name : String} {default n : Nat} (hdefault : 1 ≤ default)
    (h : readLimit s name default = .ok n) : 1 ≤ n := by
  rw [readLimit] at h
  split at h
  · cases h
    exact hdefault
  · next m _ =>
    by_cases hm : 1 ≤ m
    · rw [if_pos hm] at h
      cases h
      omega
    · rw [if_neg hm] at h
      cases h
  · cases h

theorem limits_pos_of_readAnalyzer {s : Section} {c : AnalyzerConfig} (h : readAnalyzer s = .ok c) :
    ∀ limit ∈ c.limits, 1 ≤ limit := by
  obtain ⟨_, -, h⟩ := bind_eq_ok.1 h
  obtain ⟨_, -, h⟩ := bind_eq_ok.1 h
  obtain ⟨_, -, h⟩ := bind_eq_ok.1 h
  obtain ⟨depth, hdepth, h⟩ := bind_eq_ok.1 h
  obtain ⟨length, hlength, h⟩ := bind_eq_ok.1 h
  obtain ⟨lookahead, hlookahead, h⟩ := bind_eq_ok.1 h
  obtain ⟨paths, hpaths, h⟩ := bind_eq_ok.1 h
  obtain ⟨top, htop, h⟩ := bind_eq_ok.1 h
  obtain ⟨workers, hworkers, h⟩ := bind_eq_ok.1 h
  cases h
  simp only [AnalyzerConfig.limits, List.forall_mem_cons]
  exact ⟨readLimit_pos (by decide) hdepth, readLimit_pos (by decide) hlength, readLimit_pos (by decide) hlookahead,
    readLimit_pos (by decide) hpaths, readLimit_pos (by decide) htop, readLimit_pos (by decide) hworkers,
    List.forall_mem_nil _⟩

/-- A section that is read is its default, or was read from some entries. -/
theorem readSection_eq_ok {α : Type} {document : Yaml.Value} {name : String} {default a : α}
    {read : Section → Except ConfigError α} (h : readSection document name default read = .ok a) :
    a = default ∨ ∃ s, read s = .ok a := by
  obtain ⟨v?, -, h⟩ := bind_eq_ok.1 h
  cases v? with
  | none =>
    cases h
    exact Or.inl rfl
  | some v =>
    obtain ⟨s, -, h⟩ := bind_eq_ok.1 h
    exact Or.inr ⟨s, h⟩

/-- The path that a document gives, whatever it is. -/
def outputPath (document : Section) : Yaml.Value :=
  match Yaml.Value.lookup "output" document with
  | some (.map s) => (Yaml.Value.lookup "path" s).getD ({} : OutputConfig).path
  | _ => ({} : OutputConfig).path

/-- The path of the output section is taken as it is. -/
theorem path_of_readOutput {s : Section} {c : OutputConfig} (h : readOutput s = .ok c) :
    c.path = (Yaml.Value.lookup "path" s).getD ({} : OutputConfig).path := by
  obtain ⟨format, -, h⟩ := bind_eq_ok.1 h
  cases h
  rfl

theorem path_of_readSection {document : Section} {c : OutputConfig}
    (h : readSection (.map document) "output" {} readOutput = .ok c) : c.path = outputPath document := by
  obtain ⟨v?, hv, h⟩ := bind_eq_ok.1 h
  have hlookup : Yaml.Value.lookup "output" document = v? := Except.ok.inj hv
  rw [outputPath, hlookup]
  cases v? with
  | none =>
    cases h
    rfl
  | some v =>
    obtain ⟨s, hs, h⟩ := bind_eq_ok.1 h
    rw [path_of_readOutput h]
    -- a section that is no mapping has been taken for one without keys
    have hother : (if v.isEmptyish then .ok [] else .error (.lacks "get" v) : Except ConfigError Section) = .ok s →
        (Yaml.Value.lookup "path" s).getD ({} : OutputConfig).path = ({} : OutputConfig).path := by
      intro hempty
      by_cases he : v.isEmptyish
      · rw [if_pos he] at hempty
        cases hempty
        rfl
      · rw [if_neg he] at hempty
        cases hempty
    cases v with
    | map entries =>
      cases hs
      rfl
    | _ => exact hother hs

/-! ## Documents -/

/-- Putting in environment variables leaves a mapping a mapping. -/
theorem Environment.expand_map_eq_ok {env : Environment} {entries : Section} {w : Yaml.Value}
    (h : env.expand (.map entries) = .ok w) : ∃ filled, w = .map filled := by
  rw [expand] at h
  obtain ⟨filled, -, h⟩ := bind_eq_ok.1 h
  cases h
  exact ⟨filled, rfl⟩

namespace Config

variable {env : Environment} {entries filled : Section}

/-- Once the variables are put in, the sections are read one after another. -/
theorem ofValue_of_expand (h : env.expand (.map entries) = .ok (.map filled)) :
    ofValue env (.map entries) = (do
      return {
        analyzer := ← readSection (.map filled) "analyzer" {} readAnalyzer
        output := ← readSection (.map filled) "output" {} readOutput
        logging := ← readSection (.map filled) "logging" {} readLogging }) := by
  rw [ofValue, h]
  rfl

theorem ofResult_ofValue (h : env.expand (.map entries) = .ok (.map filled)) :
    ofResult (ofValue env (.map entries)) = first (judgeDocument filled) := by
  rw [ofValue_of_expand h, ← List.append_nil (judgeDocument filled), judgeDocument, List.append_assoc,
    List.append_assoc]
  refine ofResult_bind (ofResult_readSection filled "analyzer" {} ofResult_readAnalyzer) fun analyzer => ?_
  refine ofResult_bind (ofResult_readSection filled "output" {} ofResult_readOutput) fun output => ?_
  refine ofResult_bind (ofResult_readSection filled "logging" {} ofResult_readLogging) fun logging => ?_
  apply ofResult_pure

theorem ofValue_eq_ok (h : env.expand (.map entries) = .ok (.map filled)) {c : Config}
    (hc : ofValue env (.map entries) = .ok c) : c.IsInRange ∧ c.output.path = outputPath filled := by
  rw [ofValue_of_expand h] at hc
  obtain ⟨analyzer, hanalyzer, hc⟩ := bind_eq_ok.1 hc
  obtain ⟨output, houtput, hc⟩ := bind_eq_ok.1 hc
  obtain ⟨logging, -, hc⟩ := bind_eq_ok.1 hc
  cases hc
  refine ⟨⟨?_, ?_, ?_⟩, path_of_readSection houtput⟩
  · rcases readSection_eq_ok hanalyzer with rfl | ⟨s, hs⟩
    · show ∀ limit ∈ ({} : AnalyzerConfig).limits, 1 ≤ limit
      decide
    · exact limits_pos_of_readAnalyzer hs
  · show output.format.name ∈ formatNames
    cases output.format <;> decide
  · show logging.mode.name ∈ modeNames
    cases logging.mode <;> decide

end Config

/-- Whether loading settles is read off its verdict, but for the path, which no verdict is about. -/
theorem settles_iff {x : Except ConfigError Config} {path : Yaml.Value}
    (h : ∀ c, x = .ok c → c.IsInRange ∧ c.output.path = path) :
    Settles x ↔ ofResult x = .refused ∨ ofResult x = .accepted ∧ ∃ t, path = .str t := by
  cases x with
  | ok c =>
    obtain ⟨hrange, rfl⟩ := h c rfl
    constructor
    · rintro ⟨-, htext⟩
      exact Or.inr ⟨rfl, htext⟩
    · rintro (hrefused | ⟨-, htext⟩)
      · cases hrefused
      · exact ⟨hrange, htext⟩
  | error e =>
    show e.isRefusal = true ↔ (if e.isRefusal then refused else broken) = .refused ∨
      (if e.isRefusal then refused else broken) = .accepted ∧ _
    by_cases he : e.isRefusal
    · rw [if_pos he]
      exact iff_of_true he (Or.inl rfl)
    · rw [if_neg he]
      refine iff_of_false he ?_
      rintro (hrefused | ⟨haccepted, -⟩)
      · cases hrefused
      · cases haccepted

namespace Config

/-- **When loading settles.** Whatever is loaded has its limits, format and mode in range. Loading ends with such a
    configuration and a path, or with a refusal, exactly if a variable is missing, or the first field that is not accepted
    is refused, or all fields are accepted and the path is a text. -/
theorem ofValue_settles_iff (env : Environment) (entries : Section) :
    (∀ c, ofValue env (.map entries) = .ok c → c.IsInRange) ∧
    (Settles (ofValue env (.map entries)) ↔
      (∃ name, env.expand (.map entries) = .error (.unset name)) ∨
      ∃ filled, env.expand (.map entries) = .ok (.map filled) ∧
        (first (judgeDocument filled) = .refused ∨
          first (judgeDocument filled) = .accepted ∧ ∃ t, outputPath filled = .str t)) := by
  cases hexpand : env.expand (.map entries) with
  | error e =>
    have hvalue : ofValue env (.map entries) = .error (.environment e) := by
      rw [ofValue, hexpand]
      rfl
    rw [hvalue]
    constructor
    · intro c hc
      cases hc
    · cases e with
      | unset name => exact iff_of_true rfl (Or.inl ⟨name, rfl⟩)
      | endless =>
        refine iff_of_false Bool.false_ne_true ?_
        rintro (⟨name, hname⟩ | ⟨filled, hfilled, -⟩)
        · cases hname
        · cases hfilled
  | ok w =>
    obtain ⟨filled, rfl⟩ := Environment.expand_map_eq_ok hexpand
    have hloaded : ∀ c, ofValue env (.map entries) = .ok c → c.IsInRange ∧ c.output.path = outputPath filled :=
      fun c hc => ofValue_eq_ok hexpand hc
    refine ⟨fun c hc => (hloaded c hc).1, ?_⟩
    rw [settles_iff hloaded, ofResult_ofValue hexpand]
    constructor
    · intro hverdict
      exact Or.inr ⟨filled, rfl, hverdict⟩
    · rintro (⟨name, hname⟩ | ⟨filled', hfilled, hverdict⟩)
      · cases hname
      · cases hfilled
        exact hverdict

/-- A document with a limit that is too small behind a list that is given as a text. -/
def idleWorkers : Section :=
  [(.str "analyzer", .map [(.str "workers", .int 0), (.str "exclude_dirs", .str "bin")])]

theorem ofValue_settles_iff_idleWorkers :
    first (judgeDocument idleWorkers) = .refused ∧ Settles (ofValue [] (.map idleWorkers)) := by
  have hrefused : first (judgeDocument idleWorkers) = .refused := by rfl
  exact ⟨hrefused, (ofValue_settles_iff [] idleWorkers).2.2 (Or.inr ⟨idleWorkers, rfl, Or.inl hrefused⟩)⟩

/-- A level without a value does not settle: it is asked for its capitals. -/
theorem not_settles_nullLevel :
    ¬ Settles (ofValue [] (.map [(.str "logging", .map [(.str "level", .null)])])) := by
  intro h
  have hrefusal : (ConfigError.lacks "upper" .null).isRefusal = true := h
  cases hrefusal

end Config

end SpringAtlas

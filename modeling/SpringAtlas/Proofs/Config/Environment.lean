import SpringAtlas.Config.Environment
import SpringAtlas.Proofs.Outcome
import SpringAtlas.Proofs.Pattern.Replace

/-!
# `Proofs.Config.Environment` — environment variables are put in all at once

A text is scanned once, from the left. Where a reference stands it is taken as a whole and the scan goes on behind it;
elsewhere one character is taken as it is. `ReadsAs` is that scan, without patterns and positions. It decides what braces
that are nested or not closed mean: the name of a reference holds everything up to the next closing brace, and an opening
that no name and closing brace follow is plain text. What is put in is not part of the text that is scanned, so a value
that looks like a reference stays as it is.

Substitution in a value follows its structure. It fails exactly if a text somewhere in the value, keys apart, refers to a
variable that is not set, and otherwise leaves all but the texts as it was: `expand_replaces`.

## Contents
* `TextPart`, `ReadsAs` — a text as plain characters and references
* `Pattern.findFrom_references`, `ReadsAs.replaceWith` — the references that are found, and the text with values in their
  place
* `TextIn`, `Filled`, `expand_answers` — values
* `expand_replaces`
-/

namespace SpringAtlas

/-! ## References in a text -/

/-- What can stand between the braces of a reference. -/
def IsReferenceName (name : List Char) : Prop :=
  name ≠ [] ∧ '\x7d' ∉ name

/-- A reference as it is written. -/
def referenceText (name : List Char) : List Char :=
  '$' :: '\x7b' :: (name ++ ['\x7d'])

/-- A piece of a text: a character that stands for itself, or a reference. -/
inductive TextPart where
  | plain (c : Char)
  | reference (name : List Char)

/-- A text and its pieces, as a scan from the left takes them. -/
inductive ReadsAs : List Char → List TextPart → Prop
  | nil : ReadsAs [] []
  | reference {name rest : List Char} {ps : List TextPart} (hname : IsReferenceName name) (h : ReadsAs rest ps) :
      ReadsAs (referenceText name ++ rest) (.reference name :: ps)
  | plain {c : Char} {rest : List Char} {ps : List TextPart}
      (hnone : ∀ name rest', IsReferenceName name → c :: rest ≠ referenceText name ++ rest') (h : ReadsAs rest ps) :
      ReadsAs (c :: rest) (.plain c :: ps)

/-- Every text has pieces. -/
theorem exists_readsAs (text : List Char) : ∃ ps, ReadsAs text ps := by
  induction hlength : text.length using Nat.strongRecOn generalizing text with
  | ind n ih =>
    subst hlength
    cases text with
    | nil => exact ⟨[], .nil⟩
    | cons c cs =>
      by_cases hopens : ∃ name rest, IsReferenceName name ∧ c :: cs = referenceText name ++ rest
      · obtain ⟨name, rest, hname, htext⟩ := hopens
        have hshorter : rest.length < (c :: cs).length := by
          rw [htext, List.length_append]
          simp only [referenceText, List.length_cons]
          omega
        obtain ⟨ps, hps⟩ := ih _ hshorter rest rfl
        rw [htext]
        exact ⟨_, .reference hname hps⟩
      · obtain ⟨ps, hps⟩ := ih cs.length (Nat.lt_succ_self _) cs rfl
        exact ⟨_, .plain (fun name rest hname htext => hopens ⟨name, rest, hname, htext⟩) hps⟩

/-! ## The references that are found -/

namespace Pattern

/-- The match of a reference at an offset. -/
def referenceMatch (pos : Nat) (name : List Char) : Match where
  start := pos
  stop := pos + 2 + name.length + 1
  captures := [⟨1, pos + 2, pos + 2 + name.length⟩]

variable {before : Option Char} {pos stop : Nat}

theorem matchAt?_reference {name : List Char} (hname : IsReferenceName name) (rest : List Char)
    (hstop : pos + (referenceText name ++ rest).length = stop) :
    variableReference.matchAt? before pos stop (referenceText name ++ rest) = some (referenceMatch pos name) := by
  have hopening : (referenceText name ++ rest) = "$\x7b".toList ++ (name ++ '\x7d' :: rest) := by
    simp [referenceText]
  have hall : ∀ c ∈ name, (fun c => !"\x7d".toList.contains c) c = true := by
    intro c hc
    have hne : c ≠ '\x7d' := fun he => hname.2 (he ▸ hc)
    simpa using hne
  have htakes : Takes variableReference ⟨before, pos, stop, referenceText name ++ rest, []⟩ _ :=
    ((takes_lit "$\x7b" (name ++ '\x7d' :: rest) hopening).seq
      ((takes_plus_one name ('\x7d' :: rest) rfl hname.1 hall rfl).group 1)).seq (takes_lit "\x7d" rest rfl)
  exact matchAt?_eq_some hstop htakes

/-- A match has found a reference. -/
theorem exists_reference_of_matchAt? {rest : List Char} {m : Match}
    (h : variableReference.matchAt? before pos stop rest = some m) :
    ∃ name rest', IsReferenceName name ∧ rest = referenceText name ++ rest' := by
  obtain ⟨d, hrun, -⟩ := Option.map_eq_some_iff.1 h
  obtain ⟨d', ⟨e, ⟨e₁, hopening, e₂, ⟨e₃, ⟨x, xs, hx, hok, rfl⟩, hmore⟩, rfl⟩, hclosing⟩, -⟩ := run_way hrun
  obtain ⟨rest₁, hrest₁, rfl⟩ := way_lit hopening
  obtain ⟨ys, rest₂, hys, hall, rfl⟩ := way_star_one hmore
  obtain ⟨rest₃, hrest₃, -⟩ := way_lit hclosing
  change rest = "$\x7b".toList ++ rest₁ at hrest₁
  change rest₁ = x :: xs at hx
  change xs = ys ++ rest₂ at hys
  change rest₂ = "\x7d".toList ++ rest₃ at hrest₃
  refine ⟨x :: ys, rest₃, ⟨List.cons_ne_nil x ys, fun hmem => ?_⟩, ?_⟩
  · -- the closing brace is outside of the class that the name is read from
    rcases List.mem_cons.1 hmem with rfl | hmem
    · exact absurd hok (by decide)
    · exact absurd (hall _ hmem) (by decide)
  · rw [hrest₁, hx, hys, hrest₃]
    simp [referenceText]

/-- The matches of the references among some pieces, of which the first stands at an offset. -/
def referenceMatches : Nat → List TextPart → List Match
  | _, [] => []
  | pos, .plain _ :: ps => referenceMatches (pos + 1) ps
  | pos, .reference name :: ps => referenceMatch pos name :: referenceMatches (pos + (name.length + 3)) ps

/-- **Exactly the references of a text are found**, by induction on its scan. -/
theorem findFrom_references {rest : List Char} {ps : List TextPart} (h : ReadsAs rest ps)
    (hstop : pos + rest.length = stop) :
    variableReference.findFrom stop 0 before pos rest = referenceMatches pos ps := by
  induction h generalizing before pos with
  | nil => rfl
  | @reference name rest ps hname _ ih =>
    have hmatch : variableReference.matchAt? before pos stop (referenceText name ++ rest) =
        some (referenceMatch pos name) := matchAt?_reference hname rest hstop
    -- the match is as wide as the reference, and its first character is the one that is looked at
    have htext : referenceText name ++ rest = '$' :: (('\x7b' :: (name ++ ['\x7d'])) ++ rest) := rfl
    have hwidth : (referenceMatch pos name).stop - pos - 1 = ('\x7b' :: (name ++ ['\x7d'])).length := by
      simp [referenceMatch]
      omega
    have hpos : pos + 1 + ('\x7b' :: (name ++ ['\x7d'])).length = pos + (name.length + 3) := by
      simp
      omega
    rw [htext] at hmatch hstop ⊢
    rw [findFrom, hmatch]
    show referenceMatch pos name :: _ = referenceMatch pos name :: _
    rw [hwidth, findFrom_skip, hpos, ih]
    simp only [List.length_cons, List.length_append, List.length_nil] at hstop
    omega
  | @plain c rest ps hnone _ ih =>
    have hmatch : variableReference.matchAt? before pos stop (c :: rest) = none := by
      refine Option.eq_none_iff_forall_ne_some.2 fun m hm => ?_
      obtain ⟨name, rest', hname, htext⟩ := exists_reference_of_matchAt? hm
      exact hnone name rest' hname htext
    rw [findFrom, hmatch]
    apply ih
    rw [← hstop, List.length_cons]
    omega

end Pattern

open Pattern

/-! ## The text with values in their place -/

namespace TextPart

/-- The name of the variable that a piece refers to. -/
def name? : TextPart → Option String
  | plain _ => none
  | reference name => some (String.ofList name)

/-- A piece with the value of its variable put in. -/
def put (value : String → List Char) : TextPart → List Char
  | plain c => [c]
  | reference name => value (String.ofList name)

end TextPart

theorem referencedName_referenceMatch (pre name rest : List Char) :
    referencedName (pre ++ (referenceText name ++ rest)) (referenceMatch pre.length name) = String.ofList name := by
  have hgroup : (referenceMatch pre.length name).group (pre ++ (referenceText name ++ rest)) 1 = name := by
    apply Match.group_eq (pre ++ ['$', '\x7b']) ('\x7d' :: rest)
    · simp [referenceText]
    · simp [Match.span?, referenceMatch]
  rw [referencedName, hgroup]

/-- The names that are read off the matches are those of the scan. -/
theorem map_referencedName {pre rest : List Char} {ps : List TextPart} (h : ReadsAs rest ps) :
    (referenceMatches pre.length ps).map (referencedName (pre ++ rest)) = ps.filterMap TextPart.name? := by
  induction h generalizing pre with
  | nil => rfl
  | @reference name rest ps _ _ ih =>
    have hrest := @ih (pre ++ referenceText name)
    have hlength : (pre ++ referenceText name).length = pre.length + (name.length + 3) := by simp [referenceText]
    rw [hlength, List.append_assoc] at hrest
    show referencedName _ (referenceMatch pre.length name) :: _ = String.ofList name :: _
    rw [referencedName_referenceMatch, hrest]
  | @plain c rest ps _ _ ih =>
    have hrest := @ih (pre ++ [c])
    rw [List.length_append, List.length_singleton, List.append_assoc] at hrest
    exact hrest

/-- Between the matches the text stays; `u` is what of it has been passed since the last match. -/
theorem splice_references (value : String → List Char) {text pre u rest : List Char} {ps : List TextPart} {done : Nat}
    (h : ReadsAs rest ps) (htext : text = pre ++ rest) (hpre : pre.length = done + u.length) :
    splice (fun m => value (referencedName text m)) (referenceMatches pre.length ps) done (u ++ rest) =
      u ++ ps.flatMap (TextPart.put value) := by
  subst htext
  induction h generalizing pre u done with
  | nil => simp [referenceMatches, splice]
  | @reference name rest ps _ _ ih =>
    have hwidth : (referenceText name).length = name.length + 3 := by simp [referenceText]
    have hlength : (pre ++ referenceText name).length = pre.length + (name.length + 3) := by
      rw [List.length_append, hwidth]
    have hfront : (u ++ (referenceText name ++ rest)).take ((referenceMatch pre.length name).start - done) = u := by
      have hstart : (referenceMatch pre.length name).start - done = u.length := by
        show pre.length - done = u.length
        omega
      rw [hstart, List.take_left]
    have hback : (u ++ (referenceText name ++ rest)).drop ((referenceMatch pre.length name).stop - done) = rest := by
      have hstop : (referenceMatch pre.length name).stop - done = (u ++ referenceText name).length := by
        show pre.length + 2 + name.length + 1 - done = _
        rw [List.length_append, hwidth]
        omega
      rw [hstop, ← List.append_assoc, List.drop_left]
    have hstop : (referenceMatch pre.length name).stop = (pre ++ referenceText name).length := by
      show pre.length + 2 + name.length + 1 = _
      omega
    have hrest := @ih (pre ++ referenceText name) [] (referenceMatch pre.length name).stop
      (by rw [hstop, List.length_nil, Nat.add_zero])
    rw [hlength, List.append_assoc, List.nil_append, List.nil_append] at hrest
    show List.take _ _ ++ value (referencedName _ (referenceMatch pre.length name)) ++ splice _ _ _ (List.drop _ _) = _
    rw [hfront, hback, referencedName_referenceMatch, hrest, List.append_assoc]
    rfl
  | @plain c rest ps _ _ ih =>
    have hrest := @ih (pre ++ [c]) (u ++ [c]) done (by simp [hpre, Nat.add_assoc])
    rw [List.length_append, List.length_singleton, List.append_assoc, List.append_assoc, List.append_assoc] at hrest
    exact hrest

/-! ## Texts -/

namespace ReadsAs

variable {text : List Char} {ps : List TextPart}

/-- The references that are found in a text are those of its parts, each at its place. -/
theorem findAll (h : ReadsAs text ps) : variableReference.findAll text = referenceMatches 0 ps :=
  findFrom_references h (Nat.zero_add _)

/-- The names that a text refers to are those of its references, in order. -/
theorem referencedNames (h : ReadsAs text ps) : referencedNames text = ps.filterMap TextPart.name? := by
  rw [SpringAtlas.referencedNames, h.findAll]
  exact @map_referencedName [] text ps h

/-- Putting in values changes the references of a text and leaves its plain parts. -/
theorem replaceWith (h : ReadsAs text ps) (value : String → List Char) :
    variableReference.replaceWith (fun m => value (referencedName text m)) text = ps.flatMap (TextPart.put value) := by
  rw [Pattern.replaceWith, h.findAll]
  exact @splice_references value text [] [] text ps 0 h rfl rfl

end ReadsAs

/-- What a reference to a variable becomes. -/
def Environment.valueOf (env : Environment) (name : String) : List Char :=
  ((env.lookup name).getD "").toList

/-- **A text fails exactly with the first variable that is not set**, and has all its references replaced otherwise. -/
theorem Environment.expandText_of_readsAs (env : Environment) {text : List Char} {ps : List TextPart}
    (h : ReadsAs text ps) : env.expandText text =
      match (ps.filterMap TextPart.name?).find? fun name => (env.lookup name).isNone with
      | some name => .error (.unset name)
      | none => .ok (ps.flatMap (TextPart.put env.valueOf)) := by
  rw [expandText, h.referencedNames, ← h.replaceWith]
  rfl

/-! ## Values -/

/-- A value that substitution does not look into: a scalar that is no text, or a collection that is neither list nor
    mapping. -/
def isLeftAlone : Yaml.Value → Bool
  | .str _ | .list _ | .map _ | .again _ => false
  | _ => true

/-- A value that is nested from mappings, lists, texts and values that are left alone; it does not contain itself. -/
inductive Nested : Yaml.Value → Prop
  | text (s : String) : Nested (.str s)
  | other {v : Yaml.Value} (h : isLeftAlone v) : Nested v
  | list {items : List Yaml.Value} (h : ∀ v ∈ items, Nested v) : Nested (.list items)
  | map {entries : List (Yaml.Value × Yaml.Value)} (h : ∀ e ∈ entries, Nested e.2) : Nested (.map entries)

/-- A text of a value: the value itself, an item or the value of a key, at any depth. Keys are no texts of it. -/
inductive TextIn (s : String) : Yaml.Value → Prop
  | self : TextIn s (.str s)
  | item {items : List Yaml.Value} {v : Yaml.Value} (hv : v ∈ items) (h : TextIn s v) : TextIn s (.list items)
  | value {entries : List (Yaml.Value × Yaml.Value)} {e : Yaml.Value × Yaml.Value} (he : e ∈ entries)
      (h : TextIn s e.2) : TextIn s (.map entries)

namespace Environment

variable {env : Environment}

/-- Some text of a value refers to a variable that is not set. -/
def Misses (env : Environment) (v : Yaml.Value) (name : String) : Prop :=
  ∃ s ps, TextIn s v ∧ ReadsAs s.toList ps ∧ name ∈ ps.filterMap TextPart.name? ∧ env.lookup name = none

/-- The second value is the first one with the references in its texts replaced, and nothing else changed. -/
inductive Filled (env : Environment) : Yaml.Value → Yaml.Value → Prop
  | text {s : String} {ps : List TextPart} (h : ReadsAs s.toList ps) :
      Filled env (.str s) (.str (String.ofList (ps.flatMap (TextPart.put env.valueOf))))
  | other {v : Yaml.Value} (h : isLeftAlone v) : Filled env v v
  | list {items items' : List Yaml.Value} (h : List.Forall₂ (Filled env) items items') :
      Filled env (.list items) (.list items')
  | map {entries entries' : List (Yaml.Value × Yaml.Value)} (hkeys : entries.map Prod.fst = entries'.map Prod.fst)
      (h : List.Forall₂ (Filled env) (entries.map Prod.snd) (entries'.map Prod.snd)) :
      Filled env (.map entries) (.map entries')

/-- What substitution answers: the name of a variable that is missing, or the value with nothing missing. -/
def Answers (env : Environment) (v : Yaml.Value) : Except ExpansionError Yaml.Value → Prop
  | .error e => ∃ name, e = .unset name ∧ env.Misses v name
  | .ok w => (∀ name, ¬ env.Misses v name) ∧ env.Filled v w

/-- What substitution answers for the parts of a collection, one after another. -/
def AnswersAll (env : Environment) (items : List Yaml.Value) : Except ExpansionError (List Yaml.Value) → Prop
  | .error e => ∃ name, e = .unset name ∧ ∃ v ∈ items, env.Misses v name
  | .ok ws => (∀ v ∈ items, ∀ name, ¬ env.Misses v name) ∧ List.Forall₂ env.Filled items ws

theorem expand_text (env : Environment) (s : String) : env.Answers (.str s) (env.expand (.str s)) := by
  obtain ⟨ps, hps⟩ := exists_readsAs s.toList
  have hexpand : env.expand (.str s) = (env.expandText s.toList).map fun text => .str (String.ofList text) := by
    rw [expand]
    cases env.expandText s.toList <;> rfl
  rw [hexpand, expandText_of_readsAs env hps]
  split
  · next name hfind =>
    refine ⟨name, rfl, s, ps, .self, hps, List.mem_of_find?_eq_some hfind, ?_⟩
    simpa using List.find?_some hfind
  · next hfind =>
    refine ⟨?_, .text hps⟩
    rintro name ⟨s', ps', htext, hps', hname, hunset⟩
    cases htext
    -- the names of a text do not depend on which of its scans is taken
    rw [← hps'.referencedNames, hps.referencedNames] at hname
    have hset := List.find?_eq_none.1 hfind name hname
    rw [hunset] at hset
    exact hset rfl

theorem expandItems_answers {items : List Yaml.Value} (h : ∀ v ∈ items, env.Answers v (env.expand v)) :
    env.AnswersAll items (env.expandItems items) := by
  induction items with
  | nil => exact ⟨by simp, .nil⟩
  | cons v items ih =>
    have hv := h v List.mem_cons_self
    have hitems := ih fun w hw => h w (List.mem_cons_of_mem _ hw)
    rw [expandItems]
    cases hexpand : env.expand v with
    | error e =>
      rw [hexpand] at hv
      obtain ⟨name, rfl, hname⟩ := hv
      exact ⟨name, rfl, v, List.mem_cons_self, hname⟩
    | ok w =>
      rw [hexpand] at hv
      cases hmore : env.expandItems items with
      | error e =>
        rw [hmore] at hitems
        obtain ⟨name, rfl, u, hu, hname⟩ := hitems
        exact ⟨name, rfl, u, List.mem_cons_of_mem _ hu, hname⟩
      | ok ws =>
        rw [hmore] at hitems
        exact ⟨List.forall_mem_cons.2 ⟨hv.1, hitems.1⟩, .cons hv.2 hitems.2⟩

/-- The entries of a mapping are its values, expanded as the items of a list are, under its keys. -/
theorem expandEntries_eq (env : Environment) (entries : List (Yaml.Value × Yaml.Value)) :
    env.expandEntries entries =
      (env.expandItems (entries.map Prod.snd)).map fun ws => (entries.map Prod.fst).zip ws := by
  induction entries with
  | nil => rfl
  | cons e entries ih =>
    have hcons : env.expandItems (e.2 :: entries.map Prod.snd) =
        (do return (← env.expand e.2) :: (← env.expandItems (entries.map Prod.snd))) := by
      rw [expandItems]
    rw [expandEntries, ih, List.map_cons, List.map_cons, hcons]
    cases env.expand e.2 with
    | error cause => rfl
    | ok w => cases env.expandItems (entries.map Prod.snd) <;> rfl

/-- **Substitution follows the structure of a value.** -/
theorem expand_answers {v : Yaml.Value} (hv : Nested v) : env.Answers v (env.expand v) := by
  induction hv with
  | text s => exact expand_text env s
  | @other v h =>
    have hexpand : env.expand v = .ok v := by
      cases v <;> first | rfl | cases h
    rw [hexpand]
    refine ⟨?_, .other h⟩
    rintro name ⟨s, ps, htext, -⟩
    cases htext <;> cases h
  | @list items _ ih =>
    have hitems := expandItems_answers ih
    rw [expand]
    cases hexpand : env.expandItems items with
    | error e =>
      rw [hexpand] at hitems
      obtain ⟨name, rfl, v, hv, s, ps, htext, hname⟩ := hitems
      exact ⟨name, rfl, s, ps, .item hv htext, hname⟩
    | ok ws =>
      rw [hexpand] at hitems
      refine ⟨?_, .list hitems.2⟩
      rintro name ⟨s, ps, htext, hname⟩
      cases htext with
      | item hv htext => exact hitems.1 _ hv name ⟨s, ps, htext, hname⟩
  | @map entries _ ih =>
    have hvalues : env.AnswersAll (entries.map Prod.snd) (env.expandItems (entries.map Prod.snd)) := by
      apply expandItems_answers
      intro v hv
      obtain ⟨e, he, rfl⟩ := List.mem_map.1 hv
      exact ih e he
    rw [expand, expandEntries_eq]
    cases hexpand : env.expandItems (entries.map Prod.snd) with
    | error e =>
      rw [hexpand] at hvalues
      obtain ⟨name, rfl, v, hv, s, ps, htext, hname⟩ := hvalues
      obtain ⟨e, he, rfl⟩ := List.mem_map.1 hv
      exact ⟨name, rfl, s, ps, .value he htext, hname⟩
    | ok ws =>
      rw [hexpand] at hvalues
      have hlength : (entries.map Prod.fst).length = ws.length := by
        rw [← hvalues.2.length_eq, List.length_map, List.length_map]
      refine ⟨?_, ?_⟩
      · rintro name ⟨s, ps, htext, hname⟩
        cases htext with
        | value he htext => exact hvalues.1 _ (List.mem_map_of_mem he) name ⟨s, ps, htext, hname⟩
      · apply Filled.map
        · rw [List.map_fst_zip (Nat.le_of_eq hlength)]
        · rw [List.map_snd_zip (Nat.le_of_eq hlength.symm)]
          exact hvalues.2

/-- **Variables are put in all at once, or the first one that is missing is named.** Substitution in a value fails exactly
    if a text of it refers to a variable that is not set, and otherwise gives the value with its texts filled in. -/
theorem expand_replaces (env : Environment) {v : Yaml.Value} (hv : Nested v) :
    ((∃ name, env.expand v = .error (.unset name)) ↔ ∃ name, env.Misses v name) ∧
    ((∀ name, ¬ env.Misses v name) → ∃ w, env.expand v = .ok w ∧ env.Filled v w) := by
  have hanswers : env.Answers v (env.expand v) := expand_answers hv
  cases hexpand : env.expand v with
  | error e =>
    rw [hexpand] at hanswers
    obtain ⟨name, rfl, hname⟩ := hanswers
    refine ⟨iff_of_true ⟨name, rfl⟩ ⟨name, hname⟩, fun hnone => absurd hname (hnone name)⟩
  | ok w =>
    rw [hexpand] at hanswers
    refine ⟨iff_of_false ?_ ?_, fun _ => ⟨w, rfl, hanswers.2⟩⟩
    · rintro ⟨name, h⟩
      cases h
    · rintro ⟨name, hname⟩
      exact hanswers.1 name hname

/-- Two variables, of which one has a value that looks like a reference. -/
def sampleVariables : Environment :=
  [("A", "$\x7bB\x7d"), ("B", "x")]

/-- A key and an opening without a name that look like references, and two references. -/
def sampleValue : Yaml.Value :=
  .map [(.str "$\x7bC\x7d", .list [.str "$\x7b\x7d$\x7bA\x7d-$\x7bB\x7d", .int 3])]

/-- The value of a variable is not scanned again. -/
theorem expand_replaces_sampleValue :
    Nested sampleValue ∧ (∀ name, ¬ sampleVariables.Misses sampleValue name) ∧
    sampleVariables.expand sampleValue =
      .ok (.map [(.str "$\x7bC\x7d", .list [.str "$\x7b\x7d$\x7bB\x7d-x", .int 3])]) ∧
    ∃ w, sampleVariables.expand sampleValue = .ok w ∧ sampleVariables.Filled sampleValue w := by
  have hnested : Nested sampleValue := by
    refine .map (List.forall_mem_singleton.2 (.list (List.forall_mem_cons.2 ⟨.text _, ?_⟩)))
    exact List.forall_mem_singleton.2 (.other rfl)
  have hexpand : sampleVariables.expand sampleValue =
      .ok (.map [(.str "$\x7bC\x7d", .list [.str "$\x7b\x7d$\x7bB\x7d-x", .int 3])]) := by
    rfl
  have hreplaces := expand_replaces sampleVariables hnested
  have hnone : ∀ name, ¬ sampleVariables.Misses sampleValue name := by
    intro name hname
    obtain ⟨name', herror⟩ := hreplaces.1.2 ⟨name, hname⟩
    rw [hexpand] at herror
    cases herror
  exact ⟨hnested, hnone, hexpand, hreplaces.2 hnone⟩

end Environment

end SpringAtlas

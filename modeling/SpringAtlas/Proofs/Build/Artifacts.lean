import SpringAtlas.Build.Dependency
import SpringAtlas.Proofs.Metrics.Prefixes
import SpringAtlas.Proofs.Pattern.Occurrence

/-!
# `Proofs.Build.Artifacts` — the two views of a descriptor

A descriptor is read twice. One pattern looks for the elements that name artifacts in the whole text, the other one looks
inside of the blocks of dependencies, for the first element with the name. The two read the same elements, apart from one
thing: between the tags and the name the first pattern wants blanks only, and the second one takes a name that holds blanks
itself.

That the first pattern reads an element is not enough for its name to be found, since a search goes on behind each match. But
the tags hold the only brackets in a match, and the first of them is not the start of a closing tag: no match reaches over
the start of another one.

## Contents
* `Element`, `nonempty_element_of_tagText?` — elements of a text
* `apart_artifactPattern`, `Element.exists_match` — elements that name artifacts
* `mem_artifactIds_iff`, `element_of_mem_dependencies`, `mem_artifactIds_iff_of_dependency` — the two views
-/

namespace SpringAtlas

open Pattern

/-! ## Elements -/

def openTag (tag : String) : List Char :=
  ("<" ++ tag ++ ">").toList

def closeTag (tag : String) : List Char :=
  ("</" ++ tag ++ ">").toList

/-- An element of a text: a word without brackets between two tags, with blanks around it. -/
structure Element (text : List Char) (tag : String) (word : List Char) where
  before : List Char
  leading : List Char
  trailing : List Char
  after : List Char
  text_eq : text = before ++ (openTag tag ++ (leading ++ (word ++ (trailing ++ (closeTag tag ++ after)))))
  leading_blank : ∀ x ∈ leading, Text.isBlank x
  trailing_blank : ∀ x ∈ trailing, Text.isBlank x
  word_closed : '<' ∉ word

namespace Element

variable {text word : List Char} {tag : String}

/-- An element of a part of a text is one of the text. -/
def within (e : Element text tag word) (pre post : List Char) : Element (pre ++ (text ++ post)) tag word where
  before := pre ++ e.before
  leading := e.leading
  trailing := e.trailing
  after := e.after ++ post
  text_eq := by
    conv => lhs; rw [e.text_eq]
    simp only [List.append_assoc]
  leading_blank := e.leading_blank
  trailing_blank := e.trailing_blank
  word_closed := e.word_closed

end Element

/-- A way through the pattern of a tag reads an element, and keeps its word. -/
theorem way_tagPattern {tag : String} {c d : Cursor} (h : Way (tagPattern tag) c d) :
    ∃ leading word trailing rest,
      c.rest = openTag tag ++ (leading ++ (word ++ (trailing ++ (closeTag tag ++ rest)))) ∧
      (∀ x ∈ leading, Text.isBlank x) ∧ (∀ x ∈ trailing, Text.isBlank x) ∧ '<' ∉ word ∧
      d.span? 1 = some (c.pos + (openTag tag ++ leading).length, c.pos + (openTag tag ++ leading).length + word.length) := by
  obtain ⟨_, ⟨_, ⟨_, ⟨_, hopen, hleading⟩, ⟨_, hword, rfl⟩⟩, htrailing⟩, hclose⟩ := h
  obtain ⟨_, hrest, rfl⟩ := way_lit hopen
  obtain ⟨leading, _, rfl, hblank, rfl⟩ := way_star_one hleading
  -- fewer or more repetitions first makes no difference to what is read
  change Way (star (except "<")) _ _ at hword
  obtain ⟨word, _, rfl, hchars, rfl⟩ := way_star_one hword
  obtain ⟨trailing, _, rfl, hblank', rfl⟩ := way_star_one htrailing
  obtain ⟨rest, rfl, rfl⟩ := way_lit hclose
  refine ⟨leading, word, trailing, rest, hrest, hblank, hblank', fun hmem => ?_, ?_⟩
  · have hbracket := hchars '<' hmem
    simp at hbracket
  · rw [List.length_append, ← Nat.add_assoc]
    rfl

/-- What is read as a tag stands in an element. -/
theorem nonempty_element_of_tagText? {block : List Char} {tag s : String} (h : tagText? block tag = some s) :
    s.toList ≠ [] ∧ Nonempty (Element block tag s.toList) := by
  obtain ⟨m, hm, htext⟩ := Option.bind_eq_some_iff.1 h
  obtain ⟨hne, hs⟩ := Option.ite_none_left_eq_some.1 htext
  obtain ⟨before, pre, post, stop, rfl, hmatch⟩ := standsIn_of_search? hm
  obtain ⟨d, hrun, rfl⟩ := Option.map_eq_some_iff.1 hmatch
  obtain ⟨d', hway, hd'⟩ := run_way hrun
  cases hd'
  obtain ⟨leading, word, trailing, rest, hrest, hleading, htrailing, hword, hspan⟩ := way_tagPattern hway
  obtain rfl : post = _ := hrest
  have hgroup : Match.group ⟨pre.length, d.pos, d.captures⟩
      (pre ++ (openTag tag ++ (leading ++ (word ++ (trailing ++ (closeTag tag ++ rest)))))) 1 = word := by
    refine Match.group_eq (pre ++ (openTag tag ++ leading)) (trailing ++ (closeTag tag ++ rest)) (by simp) ?_
    rw [List.length_append]
    exact hspan
  rw [hgroup] at hne hs
  obtain rfl := Option.some.inj hs
  rw [String.toList_ofList]
  exact ⟨by simpa using hne, ⟨pre, leading, trailing, rest, rfl, hleading, htrailing, hword⟩⟩

/-! ## Elements that name artifacts -/

/-- A match of the pattern of artifacts lies between the tags, with no bracket inside. -/
theorem exists_of_matchAt?_artifactPattern {before : Option Char} {pos stop : Nat} {rest : List Char} {m : Match}
    (h : artifactPattern.matchAt? before pos stop rest = some m) :
    ∃ inner post, rest = openTag "artifactId" ++ (inner ++ (closeTag "artifactId" ++ post)) ∧ '<' ∉ inner ∧
      m.stop = pos + (openTag "artifactId" ++ (inner ++ closeTag "artifactId")).length := by
  obtain ⟨d, hrun, rfl⟩ := Option.map_eq_some_iff.1 h
  obtain ⟨d', hway, hd'⟩ := run_way hrun
  cases hd'
  obtain ⟨_, ⟨_, ⟨_, ⟨_, hopen, hleading⟩, hword⟩, htrailing⟩, hclose⟩ := hway
  obtain ⟨_, rfl, rfl⟩ := way_lit hopen
  obtain ⟨leading, hrest₁, hpos₁, hleading⟩ := hleading.not_mem_of_avoids (a := '<') (by rfl)
  obtain ⟨word, hrest₂, hpos₂, hword⟩ := hword.not_mem_of_avoids (a := '<') (by rfl)
  obtain ⟨trailing, hrest₃, hpos₃, htrailing⟩ := htrailing.not_mem_of_avoids (a := '<') (by rfl)
  obtain ⟨post, hrest₄, rfl⟩ := way_lit hclose
  refine ⟨leading ++ (word ++ trailing), post, ?_, by simp [hleading, hword, htrailing], ?_⟩
  · rw [Cursor.after_rest] at hrest₁
    rw [hrest₁, hrest₂, hrest₃, hrest₄]
    simp only [List.append_assoc]
    rfl
  · have hopen : (openTag "artifactId").length = "<artifactId>".toList.length := rfl
    have hclose : (closeTag "artifactId").length = "</artifactId>".toList.length := rfl
    show _ + _ = _
    rw [hpos₃, hpos₂, hpos₁, Cursor.after_pos]
    simp only [List.length_append, hopen, hclose]
    omega

/-- The next bracket behind the start of a match opens its closing tag, so no other match starts there. -/
theorem apart_artifactPattern : artifactPattern.Apart := by
  intro before before' pos stop xs rest m m' hxs hm hm'
  obtain ⟨x, xs, rfl⟩ := List.exists_cons_of_ne_nil hxs
  obtain ⟨inner, post, hrest, hinner, hstop⟩ := exists_of_matchAt?_artifactPattern hm
  obtain ⟨inner', post', rfl, -, -⟩ := exists_of_matchAt?_artifactPattern hm'
  have hinner : '<' ∉ "artifactId>".toList ++ inner := by
    rw [List.mem_append]
    exact not_or.2 ⟨by decide, hinner⟩
  have hrest : ("artifactId>".toList ++ inner) ++ (closeTag "artifactId" ++ post) =
      xs ++ '<' :: ("artifactId>".toList ++ (inner' ++ (closeTag "artifactId" ++ post'))) := by
    rw [List.append_assoc]
    exact (List.cons.inj hrest).2.symm
  obtain ⟨zs, rfl, hclose⟩ := exists_append_of_not_mem hinner hrest
  cases zs with
  | nil => exact absurd (List.cons.inj (List.cons.inj hclose).2).1 (by decide)
  | cons z zs =>
    have hname : '<' ∉ "/artifactId>".toList := by decide
    obtain ⟨zs, rfl, -⟩ := exists_append_of_not_mem hname (List.cons.inj hclose).2
    rw [hstop]
    have hopen : (openTag "artifactId").length = "artifactId>".toList.length + 1 := rfl
    have hclose : (closeTag "artifactId").length = "/artifactId>".toList.length + 1 := rfl
    simp only [List.length_append, List.length_cons, hopen, hclose]
    omega

/-- **An element that names an artifact is read**, if its word holds no blank. -/
theorem Element.exists_match {text word : List Char} (e : Element text "artifactId" word) (hne : word ≠ [])
    (hword : ∀ x ∈ word, Text.isBlank x = false) :
    ∃ m ∈ artifactPattern.findAll text, m.group text 1 = word := by
  obtain ⟨pre, leading, trailing, post, rfl, hleading, htrailing, hclosed⟩ := e
  have hbehind : (trailing ++ (closeTag "artifactId" ++ post)).head?.any
      (fun x => x != '<' && !Text.isBlank x) = false := by
    cases trailing with
    | nil => rfl
    | cons x trailing => simp [htrailing x List.mem_cons_self]
  have hfront : (word ++ (trailing ++ (closeTag "artifactId" ++ post))).head?.any Text.isBlank = false := by
    obtain ⟨x, word, rfl⟩ := List.exists_cons_of_ne_nil hne
    exact hword x List.mem_cons_self
  have hchars : ∀ x ∈ word, (x != '<' && !Text.isBlank x) = true := by
    intro x hx
    rw [hword x hx, Bool.not_false, Bool.and_true, bne_iff_ne]
    rintro rfl
    exact hclosed hx
  have hclose : (closeTag "artifactId" ++ post).head?.any Text.isBlank = false := rfl
  have htakes := ((((takes_lit (c := placeIn pre _) "<artifactId>" _ rfl).seq
    (takes_star_one leading _ rfl hleading hfront)).seq
    ((takes_plus_one word _ rfl hne hchars hbehind).group 1)).seq
    (takes_star_one trailing _ rfl htrailing hclose)).seq (takes_lit "</artifactId>" post rfl)
  have hmatch := matchAt?_eq_some (placeIn_fits pre _) htakes
  refine ⟨_, apart_artifactPattern.mem_findAll (by simp [openTag]) hmatch, ?_⟩
  refine Match.group_eq (pre ++ (openTag "artifactId" ++ leading)) (trailing ++ (closeTag "artifactId" ++ post)) (by simp) ?_
  rw [List.length_append, List.length_append, ← Nat.add_assoc]
  rfl

/-! ## The two views -/

/-- The identifiers of a descriptor are the words of the matches in its text without comments. -/
theorem mem_artifactIds_iff {d : BuildDescriptor} (hkind : d.kind = .maven) {s : String} :
    s ∈ d.artifactIds ↔ ∃ m ∈ artifactPattern.findAll (withoutComments d.text.toList),
      m.group (withoutComments d.text.toList) 1 = s.toList := by
  unfold BuildDescriptor.artifactIds
  rw [hkind, mem_distinct, List.map_map, List.mem_map]
  refine exists_congr fun m => and_congr_right fun _ => ?_
  constructor
  · rintro rfl
    exact String.toList_ofList.symm
  · intro hm
    rw [Function.comp_apply, hm, String.ofList_toList]

theorem not_isBlank_of_mem_artifactIds {d : BuildDescriptor} (hkind : d.kind = .maven) {s : String}
    (hs : s ∈ d.artifactIds) : ∀ x ∈ s.toList, Text.isBlank x = false := by
  obtain ⟨m, hm, hgroup⟩ := (mem_artifactIds_iff hkind).1 hs
  intro x hx
  by_contra hblank
  rw [Bool.not_eq_false] at hblank
  rw [← hgroup] at hx
  refine (standsIn_of_mem_findAll hm).not_mem_group ?_ hx
  have hrefused : avoids x (plus (one fun c => c != '<' && !Text.isBlank c)) = true := by
    simp [plus, avoids, hblank]
  -- the rest of the pattern has no groups
  show (true && true && (avoids x (plus (one fun c => c != '<' && !Text.isBlank c)) && true) && true && true) = true
  rw [hrefused]
  rfl

/-- Each dependency is read off an element of the text without comments. -/
theorem element_of_mem_dependencies {d : BuildDescriptor} (hkind : d.kind = .maven) {dep : Dependency}
    (hdep : dep ∈ d.dependencies) : dep.artifactId.toList ≠ [] ∧
      Nonempty (Element (withoutComments d.text.toList) "artifactId" dep.artifactId.toList) := by
  unfold BuildDescriptor.dependencies at hdep
  rw [hkind] at hdep
  obtain ⟨m, hm, hblock⟩ := List.mem_filterMap.1 hdep
  obtain ⟨s, hs, rfl⟩ := Option.map_eq_some_iff.1 hblock
  obtain ⟨hne, ⟨e⟩⟩ := nonempty_element_of_tagText? hs
  have hbinds : Binds dependencyBlock 1 fun _ => True := (((reads_any _).binds 1).seq_right _).seq_left (by rfl)
  obtain ⟨-, pre, post, htext⟩ := hbinds.exists_group (standsIn_of_mem_findAll hm)
  refine ⟨hne, ?_⟩
  rw [htext]
  exact ⟨e.within pre post⟩

/-- **The two views of a descriptor agree.** The artifact of a dependency is among the identifiers of the descriptor exactly
    if its name holds no blank, and no identifier is listed twice. -/
theorem mem_artifactIds_iff_of_dependency {d : BuildDescriptor} (hkind : d.kind = .maven) :
    (∀ dep ∈ d.dependencies, dep.artifactId ∈ d.artifactIds ↔
      ∀ x ∈ dep.artifactId.toList, Text.isBlank x = false) ∧ d.artifactIds.Nodup := by
  refine ⟨fun dep hdep => ⟨fun hid => not_isBlank_of_mem_artifactIds hkind hid, fun hword => ?_⟩, nodup_distinct _⟩
  obtain ⟨hne, ⟨e⟩⟩ := element_of_mem_dependencies hkind hdep
  exact (mem_artifactIds_iff hkind).2 (e.exists_match hne hword)

/-- A descriptor that names itself and two dependencies, one of them with a blank in its name. -/
def sampleDescriptor : BuildDescriptor where
  path := "pom.xml"
  kind := .maven
  text := "<artifactId>app</artifactId><dependency><artifactId>\n lib </artifactId></dependency>" ++
    "<dependency><artifactId>a b</artifactId></dependency>"

theorem mem_artifactIds_iff_of_sample : sampleDescriptor.kind = .maven ∧
    (∀ dep ∈ sampleDescriptor.dependencies, dep.artifactId ∈ sampleDescriptor.artifactIds ↔
      ∀ x ∈ dep.artifactId.toList, Text.isBlank x = false) ∧ sampleDescriptor.artifactIds.Nodup :=
  ⟨rfl, mem_artifactIds_iff_of_dependency rfl⟩

example : sampleDescriptor.dependencies.map Dependency.artifactId = ["lib", "a b"] ∧
    sampleDescriptor.artifactIds = ["app", "lib"] := by
  decide +kernel

end SpringAtlas

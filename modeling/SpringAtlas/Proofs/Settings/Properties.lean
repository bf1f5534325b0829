import SpringAtlas.Proofs.Pattern.Search
import SpringAtlas.Proofs.Settings.Entries
import SpringAtlas.Proofs.Text.Lines
import SpringAtlas.Settings.Properties

/-!
# `Proofs.Settings.Properties` — properties files read back what was written

A property is written on one line: its key, an equals sign and its value. What would end the key stands behind a backslash,
and so does a first character that would make the line a comment. Such a line is a logical line of its own, and its key is
read up to the equals sign, because the reader takes a backslash together with the character behind it.

The reader may also take a backslash alone, as a character of the key like any other. That other way stays open, but the
way over the escaped characters is preferred, and what stands behind the key lets it succeed (`takes_escapedKey`).

## Contents
* `PropertyKey`, `PropertyValue`, `Property` — properties that can be written
* `keyPieces`, `Property.line`, `propertiesText` — how they are written
* `logicalLines_eq_self` — lines that stand for themselves
* `entryOf_line` — a line is read as its property
* `parseProperties_propertiesText` — a file is read as its properties
-/

namespace SpringAtlas.Settings

open Pattern

/-! ## Properties -/

/-- What a key may hold: anything but a line break and a backslash. -/
def isKeyChar (c : Char) : Bool :=
  !Text.isLineBreak c && c != '\\'

structure PropertyKey where
  chars : List Char
  nonempty : chars ≠ []
  valid : chars.all isKeyChar

/-- A value on one line, without blanks at its ends and without a backslash at its end. -/
structure PropertyValue where
  chars : List Char
  unbroken : chars.all fun c => !Text.isLineBreak c
  start : chars.head?.any Text.isBlank = false
  stop : chars.getLast?.any (fun c => Text.isBlank c || c == '\\') = false

structure Property where
  key : PropertyKey
  value : PropertyValue

namespace Property

def entry (p : Property) : String × String :=
  (String.ofList p.key.chars, String.ofList p.value.chars)

end Property

/-! ## How they are written -/

/-- A character that ends a key. -/
def endsKey (c : Char) : Bool :=
  c == '=' || c == ':' || Text.isBlank c

/-- The character with a backslash in front if `special` says so. -/
def escapedWhere (special : Char → Bool) (c : Char) : List Char :=
  if special c then ['\\', c] else [c]

/-- The characters of a key as they are written: those that end a key are escaped, and so is a first character that opens
    a comment. -/
def keyPieces : List Char → List (List Char)
  | [] => []
  | c :: cs => escapedWhere (fun d => endsKey d || d == '#' || d == '!') c :: cs.map (escapedWhere endsKey)

namespace PropertyKey

def text (k : PropertyKey) : List Char :=
  (keyPieces k.chars).flatten

end PropertyKey

def Property.line (p : Property) : List Char :=
  p.key.text ++ '=' :: p.value.chars

/-- One line for each property; a newline may end the last one. -/
def propertiesText (ps : List Property) (finalNewline : Bool) : List Char :=
  Text.join ['\n'] (ps.map Property.line ++ if finalNewline then [[]] else [])

/-! ## Keys -/

theorem isKeyChar_iff {c : Char} : isKeyChar c ↔ Text.isLineBreak c = false ∧ c ≠ '\\' := by
  simp [isKeyChar]

/-- A key is written in pieces: characters that stand for themselves, and escaped ones. -/
theorem mem_keyPieces {cs w : List Char} (h : w ∈ keyPieces cs) :
    ∃ c ∈ cs, w = ['\\', c] ∨ (w = [c] ∧ endsKey c = false) := by
  cases cs with
  | nil => cases h
  | cons c cs =>
    rcases List.mem_cons.1 h with rfl | h
    · refine ⟨c, List.mem_cons_self, ?_⟩
      unfold escapedWhere
      split
      · exact Or.inl rfl
      · next hc => exact Or.inr ⟨rfl, by simp_all⟩
    · obtain ⟨d, hd, rfl⟩ := List.mem_map.1 h
      refine ⟨d, List.mem_cons_of_mem _ hd, ?_⟩
      unfold escapedWhere
      split
      · exact Or.inl rfl
      · next hd => exact Or.inr ⟨rfl, by simpa using hd⟩

theorem filter_escapedWhere (special : Char → Bool) {c : Char} (hc : c ≠ '\\') :
    (escapedWhere special c).filter (· != '\\') = [c] := by
  unfold escapedWhere
  split <;> simp [hc]

/-- Without backslashes the written key is the key. -/
theorem PropertyKey.filter_text (k : PropertyKey) : k.text.filter (· != '\\') = k.chars := by
  have hkey : ∀ c ∈ k.chars, c ≠ '\\' := fun c hc => (isKeyChar_iff.1 (List.all_eq_true.1 k.valid c hc)).2
  obtain ⟨c, cs, hchars⟩ := List.exists_cons_of_ne_nil k.nonempty
  rw [hchars] at hkey
  rw [PropertyKey.text, hchars, keyPieces, List.flatten_cons, List.filter_append,
    filter_escapedWhere _ (hkey c List.mem_cons_self), List.filter_flatten, List.map_map]
  have hrest : cs.map (List.filter (· != '\\') ∘ escapedWhere endsKey) = cs.map fun d => [d] :=
    List.map_congr_left fun d hd => filter_escapedWhere endsKey (hkey d (List.mem_cons_of_mem _ hd))
  rw [hrest]
  exact congrArg (c :: ·) (List.flatMap_singleton' cs)

/-- A written key starts with a character that is neither blank nor opens a comment. -/
theorem PropertyKey.head?_text (k : PropertyKey) (rest : List Char) :
    ∃ c, (k.text ++ rest).head? = some c ∧ Text.isBlank c = false ∧ c ≠ '#' ∧ c ≠ '!' := by
  obtain ⟨c, cs, hchars⟩ := List.exists_cons_of_ne_nil k.nonempty
  rw [PropertyKey.text, hchars, keyPieces, List.flatten_cons, escapedWhere]
  split
  · exact ⟨'\\', rfl, by decide, by decide, by decide⟩
  · next hc =>
    simp only [endsKey, Bool.or_eq_true, beq_iff_eq, not_or, Bool.not_eq_true] at hc
    exact ⟨c, rfl, hc.1.1.2, hc.1.2, hc.2⟩

theorem PropertyKey.not_isLineBreak_of_mem {k : PropertyKey} {c : Char} (h : c ∈ k.text) :
    Text.isLineBreak c = false := by
  obtain ⟨w, hw, hc⟩ := List.mem_flatten.1 h
  obtain ⟨d, hd, hw⟩ := mem_keyPieces hw
  have hbreak := (isKeyChar_iff.1 (List.all_eq_true.1 k.valid d hd)).1
  rcases hw with rfl | ⟨rfl, -⟩
  · rcases List.mem_cons.1 hc with rfl | hc
    · decide
    · rwa [List.mem_singleton.1 hc]
  · rwa [List.mem_singleton.1 hc]

/-! ## Logical lines -/

/-- **A line stands for itself** if it has no blanks at its ends, is no comment and does not go on. -/
theorem logicalLines_eq_self {ls : List (List Char)}
    (h : ∀ l ∈ ls, l ≠ [] ∧ Text.trim l = l ∧ isComment l = false ∧ continues l = false) :
    logicalLines [] ls = ls := by
  induction ls with
  | nil => rfl
  | cons l ls ih =>
    obtain ⟨hne, htrim, hcomment, hcontinues⟩ := h l List.mem_cons_self
    have hempty : l.isEmpty = false := by simpa using hne
    rw [logicalLines]
    simp only [List.isEmpty_nil, if_true, htrim, hempty, hcomment, hcontinues, Bool.or_self, Bool.and_false,
      Bool.false_eq_true, if_false, List.nil_append]
    rw [ih fun m hm => h m (List.mem_cons_of_mem _ hm)]

/-- A last character that is neither blank nor a backslash. -/
theorem not_isBlank_of_stops {c : Option Char} (h : c.any (fun d => Text.isBlank d || d == '\\') = false) :
    c.any Text.isBlank = false := by
  cases c with
  | none => rfl
  | some c => exact (Bool.or_eq_false_iff.1 h).1

namespace Property

variable (p : Property)

theorem getLast?_line : p.line.getLast?.any (fun c => Text.isBlank c || c == '\\') = false := by
  rw [line, List.getLast?_append, List.getLast?_cons]
  have hstop := p.value.stop
  cases hlast : p.value.chars.getLast? with
  | none => rfl
  | some c =>
    rw [hlast] at hstop
    exact hstop

theorem line_ne_nil : p.line ≠ [] :=
  List.append_ne_nil_of_right_ne_nil _ (List.cons_ne_nil _ _)

/-- The line of a property has no blanks at its ends. -/
theorem trim_line : Text.trim p.line = p.line := by
  obtain ⟨c, hhead, hblank, -⟩ := p.key.head?_text ('=' :: p.value.chars)
  refine Text.trim_eq_self ?_ (not_isBlank_of_stops p.getLast?_line)
  rw [line, hhead]
  exact hblank

theorem isComment_line : isComment p.line = false := by
  obtain ⟨c, hhead, -, hhash, hmark⟩ := p.key.head?_text ('=' :: p.value.chars)
  simp [isComment, line, hhead, hhash, hmark]

theorem continues_line : continues p.line = false := by
  have hnot : Text.endsWith ['\\'] p.line = false := by
    rw [← Bool.not_eq_true, Text.endsWith, List.isSuffixOf_iff_suffix]
    rintro ⟨pre, hpre⟩
    have hlast := p.getLast?_line
    rw [← hpre, List.getLast?_concat] at hlast
    exact absurd hlast (by decide)
  rw [continues, hnot, Bool.false_and]

theorem not_isLineBreak_of_mem_line {c : Char} (h : c ∈ p.line) : Text.isLineBreak c = false := by
  rcases List.mem_append.1 h with h | h
  · exact PropertyKey.not_isLineBreak_of_mem h
  · rcases List.mem_cons.1 h with rfl | h
    · decide
    · simpa using List.all_eq_true.1 p.value.unbroken c h

end Property

/-! ## Entries -/

/-- **A written key is taken as a whole**: an escaped character is taken with its backslash, and the equals sign ends the
    key. -/
theorem takes_escapedKey {c : Cursor} (k : PropertyKey) {rest : List Char} (hrest : c.rest = k.text ++ '=' :: rest) :
    Takes (plus (lit "\\" ++ inLine <|> one fun c => !(c == '=' || c == ':' || Text.isBlank c))) c
      (c.after k.text ('=' :: rest)) := by
  have hpieces : keyPieces k.chars ≠ [] := by
    obtain ⟨x, xs, hchars⟩ := List.exists_cons_of_ne_nil k.nonempty
    rw [hchars]
    exact List.cons_ne_nil _ _
  refine takes_plus_pieces hrest hpieces (fun w hw => ?_) ?_
  · obtain ⟨x, hx, hw⟩ := mem_keyPieces hw
    obtain ⟨hbreak, hslash⟩ := isKeyChar_iff.1 (List.all_eq_true.1 k.valid x hx)
    rcases hw with rfl | ⟨rfl, hends⟩
    · refine ⟨List.cons_ne_nil _ _, fun d rest' hd => Takes.left ?_⟩
      have hline : (x != '\n') = true := by
        rw [bne_iff_ne]
        rintro rfl
        exact absurd hbreak (by decide)
      have hchar (e : Cursor) (he : e.rest = x :: rest') : Takes inLine e (e.after [x] rest') :=
        takes_one he hline
      have htwo := (takes_lit "\\" (x :: rest') hd).seq (hchar _ rfl)
      rwa [Cursor.after_after] at htwo
    · refine ⟨List.cons_ne_nil _ _, fun d rest' hd => Takes.right (fails_lit ?_).seq (takes_one hd ?_)⟩
      · rw [hd]
        simpa using hslash.symm
      · rw [Bool.not_eq_true']
        exact hends
  · exact (fails_lit (by simp)).seq.alt (fails_one rfl)

/-- A line is split at the equals sign behind its key. -/
theorem takes_entry {c : Cursor} (p : Property) (hpos : c.pos = 0) (hrest : c.rest = p.line) :
    ∃ d, Takes entryPattern c d ∧ d.captures =
      ⟨2, p.key.text.length + 1, p.key.text.length + 1 + p.value.chars.length⟩ :: ⟨1, 0, p.key.text.length⟩ ::
      c.captures := by
  have hkey := (takes_escapedKey p.key hrest).group 1
  have hvalue : ∀ x ∈ p.value.chars, (x != '\n') = true := by
    intro x hx
    rw [bne_iff_ne]
    rintro rfl
    exact absurd (List.all_eq_true.1 p.value.unbroken '\n' hx) (by decide)
  have hsign (e : Cursor) (he : e.rest = '=' :: p.value.chars) :
      Takes (one fun x => x == '=' || x == ':' || Text.isBlank x) e (e.after ['='] p.value.chars) :=
    takes_one he rfl
  have hrestvalue (e : Cursor) (he : e.rest = p.value.chars) :=
    (takes_star_one (c := e) p.value.chars [] (by rw [he, List.append_nil]) hvalue rfl).group 2
  refine ⟨_, ((((((takes_textStart hpos).seq hkey).seq (takes_blanks_nil rfl)).seq (hsign _ rfl)).seq
    (takes_blanks_nil p.value.start)).seq (hrestvalue _ rfl)).seq (takes_lastLineEnd rfl), ?_⟩
  simp [hpos]

/-- **A line is read as its property.** -/
theorem entryOf_line (p : Property) : entryOf p.line = (p.key.chars, p.value.chars) := by
  obtain ⟨d, hd, hcaptures⟩ := takes_entry (c := ⟨none, 0, p.line.length, p.line, []⟩) p rfl rfl
  have hkey : Match.group ⟨0, d.pos, d.captures⟩ p.line 1 = p.key.text :=
    Match.group_eq [] ('=' :: p.value.chars) rfl (by simp [Match.span?, hcaptures])
  have hvalue : Match.group ⟨0, d.pos, d.captures⟩ p.line 2 = p.value.chars := by
    refine Match.group_eq (p.key.text ++ ['=']) [] ?_ (by simp [Match.span?, hcaptures])
    simp [Property.line]
  have htrim : Text.trim p.value.chars = p.value.chars :=
    Text.trim_eq_self p.value.start (not_isBlank_of_stops p.value.stop)
  rw [entryOf, matchStart?_eq_some hd]
  simp only [hkey, hvalue, htrim, p.key.filter_text]

theorem splitLines_propertiesText (ps : List Property) (finalNewline : Bool) :
    Text.splitLines (propertiesText ps finalNewline) = ps.map Property.line := by
  have hbreak : ∀ l ∈ ps.map Property.line, ∀ c ∈ l, Text.isLineBreak c = false := by
    intro l hl c hc
    obtain ⟨p, -, rfl⟩ := List.mem_map.1 hl
    exact p.not_isLineBreak_of_mem_line hc
  have hne : ∀ l ∈ ps.map Property.line, l ≠ [] := by
    intro l hl
    obtain ⟨p, -, rfl⟩ := List.mem_map.1 hl
    exact p.line_ne_nil
  cases finalNewline with
  | false =>
    rw [propertiesText, if_neg Bool.false_ne_true, List.append_nil]
    exact Text.splitLines_join hbreak hne
  | true => exact Text.splitLines_join_concat hbreak

/-- A text whose lines are those of some properties is read as these, whatever breaks end its lines. -/
theorem parseProperties_of_lines {text : List Char} {ps : List Property}
    (htext : Text.splitLines text = ps.map Property.line) (h : (ps.map fun p => p.key.chars).Nodup) :
    parseProperties text = ps.map Property.entry := by
  have hlogical : logicalLines [] (ps.map Property.line) = ps.map Property.line := by
    refine logicalLines_eq_self fun l hl => ?_
    obtain ⟨p, -, rfl⟩ := List.mem_map.1 hl
    exact ⟨p.line_ne_nil, p.trim_line, p.isComment_line, p.continues_line⟩
  have hentries : parseProperties text =
      (ps.map Property.entry).foldl (fun (es : Entries) e => es.setDefault e.1 e.2) [] := by
    rw [parseProperties, htext, hlogical, List.foldl_map, List.foldl_map]
    simp only [entryOf_line]
    rfl
  have hkeys : ((ps.map Property.entry).map Prod.fst).Nodup := by
    have hinj := h.map fun _ _ => String.ofList_injective
    rw [List.map_map] at hinj ⊢
    exact hinj
  rw [hentries]
  refine foldl_eq_append (fun es e _ hnew => ?_) hkeys
  rw [Entries.setDefault, lookup_eq_none hnew]
  rfl

/-- **A properties file is read as the properties it was written from**, in their order, if their keys are distinct. -/
theorem parseProperties_propertiesText (ps : List Property) (finalNewline : Bool)
    (h : (ps.map fun p => p.key.chars).Nodup) :
    parseProperties (propertiesText ps finalNewline) = ps.map Property.entry :=
  parseProperties_of_lines (splitLines_propertiesText ps finalNewline) h

/-- Keys with blanks, separators and the marks of comments, one value that looks like a property and one that is empty. -/
def awkwardProperties : List Property :=
  [{ key := ⟨" a=b".toList, by decide, by decide⟩, value := ⟨"\\#x : y=1".toList, by decide, by decide, by decide⟩ },
   { key := ⟨"#n!".toList, by decide, by decide⟩, value := ⟨[], by decide, by decide, by decide⟩ },
   { key := ⟨"k:v\t".toList, by decide, by decide⟩, value := ⟨"C:\\dir".toList, by decide, by decide, by decide⟩ }]

theorem parseProperties_awkwardProperties :
    (awkwardProperties.map fun p => p.key.chars).Nodup ∧
    propertiesText awkwardProperties true = "\\ a\\=b=\\#x : y=1\n\\#n!=\nk\\:v\\\t=C:\\dir\n".toList ∧
    parseProperties (propertiesText awkwardProperties true) =
      [(" a=b", "\\#x : y=1"), ("#n!", ""), ("k:v\t", "C:\\dir")] :=
  ⟨by decide, by decide, parseProperties_propertiesText awkwardProperties true (by decide)⟩

end SpringAtlas.Settings

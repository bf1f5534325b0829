import Mathlib.Algebra.Group.Nat.Defs
import SpringAtlas.Proofs.Pattern.Search
import SpringAtlas.Proofs.Settings.Entries
import SpringAtlas.Settings.Gateway

/-!
# `Proofs.Settings.RouteKey` — routes of a gateway and the keys of their entries

Routes are written as a document. The key of each of its entries tells the index of the route, and for a predicate the
index of the predicate and the part that the entry holds. What a key was made from is read back from it, so entries of
different places have different keys.

## Contents
* `ArgumentKey`, `PredicateSetting`, `RouteSetting`, `gatewayDocument` — routes as they are written
* `PredicatePart`, `RouteField`, `routeKey` — the keys of their entries
* `indexValue_toDigits` — an index is read back
* `relaxedKey_routeKey` — keys are in relaxed form
* `matchStart?_routeKey`, `matchStart?_predicateText`, `routeKey_injective` — keys are read back
-/

namespace SpringAtlas.Settings

open Pattern

/-! ## Routes as they are written -/

/-- A letter that is its own small form. -/
def isSmallLetter (c : Char) : Bool :=
  Text.isCased c && Text.lowerChar c == [c]

/-- The key of an argument: small letters, at least one. -/
@[ext] structure ArgumentKey where
  text : String
  nonempty : text ≠ ""
  small : text.toList.all isSmallLetter

/-- A predicate, as one text or as a name with arguments. -/
inductive PredicateSetting where
  | text (s : String)
  | call (name : String) (arguments : List (ArgumentKey × String)) (distinct : (arguments.map fun a => a.1.text).Nodup)

structure RouteSetting where
  id : String
  named : id ≠ ""
  uri : Option String := none
  predicates : List PredicateSetting := []

namespace PredicateSetting

/-- The predicate in a document. -/
def value : PredicateSetting → Yaml.Value
  | text s => .str s
  | call name arguments _ =>
    .map [(.str "name", .str name), (.str "args", .map (arguments.map fun a => (.str a.1.text, .str a.2)))]

/-- The predicate as it is read: a name with arguments becomes one text. -/
def written : PredicateSetting → String
  | text s => s
  | call name arguments _ => name ++ "=" ++ ",".intercalate (arguments.map Prod.snd)

end PredicateSetting

namespace RouteSetting

def value (r : RouteSetting) : Yaml.Value :=
  .map ((.str "id", .str r.id) :: (r.uri.toList.map fun uri => (.str "uri", .str uri)) ++
    [(.str "predicates", .list (r.predicates.map PredicateSetting.value))])

def route (r : RouteSetting) : GatewayRoute where
  id := r.id
  uri := r.uri
  predicates := r.predicates.map PredicateSetting.written

end RouteSetting

/-- The document that lists the routes of a gateway. -/
def gatewayDocument (routes : List RouteSetting) : Yaml.Value :=
  .map [(.str "spring", .map [(.str "cloud", .map [(.str "gateway",
    .map [(.str "routes", .list (routes.map RouteSetting.value))])])])]

/-! ## Keys -/

/-- What an entry of a predicate holds. -/
inductive PredicatePart where
  | text
  | name
  | argument (key : ArgumentKey)

/-- What an entry of a route holds. -/
inductive RouteField where
  | id
  | uri
  | predicate (index : Nat) (part : PredicatePart)

/-- The end of the key of a predicate's entry. -/
def PredicatePart.ending : PredicatePart → String
  | text => ""
  | name => ".name"
  | argument key => ".args." ++ key.text

def RouteField.text : RouteField → String
  | id => "id"
  | uri => "uri"
  | predicate index part => itemPath "predicates" index ++ part.ending

/-- The key of an entry of a route. -/
def routeKey (index : Nat) (field : RouteField) : String :=
  itemPath "spring.cloud.gateway.routes" index ++ "." ++ field.text

/-- The entries of a predicate. -/
def PredicateSetting.fields : PredicateSetting → List (PredicatePart × String)
  | text s => [(.text, s)]
  | call name arguments _ => (.name, name) :: arguments.map fun a => (.argument a.1, a.2)

/-- The entries of a route. -/
def RouteSetting.fields (r : RouteSetting) : List (RouteField × String) :=
  (.id, r.id) :: (r.uri.toList.map fun uri => (.uri, uri)) ++
    r.predicates.zipIdx.flatMap fun x => x.1.fields.map fun f => (.predicate x.2 f.1, f.2)

/-- The entries of a route below a path. -/
def RouteSetting.entries (r : RouteSetting) (index : Nat) : Entries :=
  r.fields.map fun f => (routeKey index f.1, f.2)

/-! ## Characters of keys -/

theorem not_isBlank_of_isCased {c : Char} (h : Text.isCased c) : Text.isBlank c = false := by
  have hranges : ∀ n ∈ [0x85, 0xA0, 0x1680, 0x2028, 0x2029, 0x202F, 0x205F, 0x3000] ++ List.range' 0x2000 11,
      Text.inRanges Text.casedRanges n = false := by decide
  by_contra hblank
  simp only [Text.isBlank, Bool.not_eq_false, Bool.or_eq_true, Bool.and_eq_true, decide_eq_true_eq, beq_iff_eq] at hblank
  unfold Text.isCased at h
  -- beyond ASCII there are few blanks, and none of them lies in a range of letters
  split at h
  · simp only [Text.isAsciiLetter, Bool.or_eq_true, Bool.and_eq_true, decide_eq_true_eq] at h
    omega
  · rw [hranges c.toNat (by simp; omega)] at h
    cases h

theorem isRelaxed_of_isSmallLetter {c : Char} (h : isSmallLetter c) : isRelaxed c := by
  simp only [isSmallLetter, Bool.and_eq_true, beq_iff_eq] at h
  have hne (d : Char) (hd : Text.isCased d = false ∨ Text.lowerChar d ≠ [d]) : c ≠ d := by
    rintro rfl
    rcases hd with hd | hd
    · simp [h.1] at hd
    · exact hd h.2
  have hsigma : c.toNat ≠ 0x3A3 := by
    intro hc
    refine hne (Char.ofNat 0x3A3) (Or.inr (by decide)) ?_
    rw [← hc, Char.ofNat_toNat]
  simp [isRelaxed, not_isBlank_of_isCased h.1, hsigma, h.2, hne '-' (by decide), hne '_' (by decide)]

theorem isRelaxed_of_isAsciiDigit {c : Char} (h : Text.isAsciiDigit c) : isRelaxed c := by
  have hne (d : Char) (hd : Text.isAsciiDigit d = false) : c ≠ d := by
    rintro rfl
    simp [h] at hd
  simp only [Text.isAsciiDigit, Bool.and_eq_true, decide_eq_true_eq] at h
  have hblank : Text.isBlank c = false := by
    simp only [Text.isBlank, Bool.or_eq_false_iff, Bool.and_eq_false_iff, decide_eq_false_iff_not, beq_eq_false_iff_ne]
    omega
  have hlower : Text.lowerChar c = [c] := by
    rw [Text.lowerChar, if_pos (by omega), if_neg (by simp; omega)]
  have hsigma : c.toNat ≠ 0x3A3 := by omega
  simp [isRelaxed, hblank, hsigma, hlower, hne '-' (by decide), hne '_' (by decide)]

/-! ## Indices -/

/-- Numbers are written with digits. -/
theorem isAsciiDigit_of_mem_toDigits {n : Nat} {c : Char} (h : c ∈ Nat.toDigits 10 n) : Text.isAsciiDigit c := by
  have hdigit := Nat.isDigit_of_mem_toDigits (by decide) (by decide) h
  simp only [Char.isDigit, Bool.and_eq_true, decide_eq_true_eq, UInt32.le_iff_toNat_le] at hdigit
  simpa [Text.isAsciiDigit] using hdigit

theorem toNat_lt_of_isAsciiDigit {c : Char} (h : Text.isAsciiDigit c) : c.toNat < 128 := by
  simp only [Text.isAsciiDigit, Bool.and_eq_true, decide_eq_true_eq] at h
  omega

theorem isDigit_of_isAsciiDigit {c : Char} (h : Text.isAsciiDigit c) : Text.isDigit c := by
  rw [Text.isDigit, if_pos (toNat_lt_of_isAsciiDigit h), h]

/-- **An index is read back**, up to a limit on the number of its digits. -/
theorem indexValue_toDigits {n : Nat} (h : n < 10 ^ Yaml.Value.digitLimit) :
    indexValue (Nat.toDigits 10 n) = .ok n := by
  have hlength : (Nat.toDigits 10 n).length ≤ Yaml.Value.digitLimit :=
    (Nat.length_toDigits_le_iff (by decide) (by decide)).2 h
  have hvalue : ∀ (cs : List Char) (k : Nat), (∀ c ∈ cs, Text.isAsciiDigit c) →
      cs.foldl (fun n c => 10 * n + Text.digitValue c) k = Nat.ofDigitChars 10 cs k := by
    intro cs
    induction cs with
    | nil => exact fun k _ => rfl
    | cons c cs ih =>
      intro k hdigits
      have hc : Text.digitValue c = c.toNat - '0'.toNat := by
        rw [Text.digitValue, if_pos (toNat_lt_of_isAsciiDigit (hdigits c (by simp)))]
        rfl
      rw [List.foldl_cons, ih _ fun d hd => hdigits d (List.mem_cons_of_mem _ hd), hc]
      rfl
  rw [indexValue, if_neg (by omega), hvalue _ _ fun c => isAsciiDigit_of_mem_toDigits, Nat.ofDigitChars_ten_toDigits]

/-- Different numbers are written differently. -/
theorem toDigits_injective {m n : Nat} (h : Nat.toDigits 10 m = Nat.toDigits 10 n) : m = n := by
  rw [← Nat.ofDigitChars_ten_toDigits (n := m), h, Nat.ofDigitChars_ten_toDigits]

/-- An index in brackets is captured. -/
theorem takes_index {c : Cursor} (i n : Nat) (rest : List Char)
    (hrest : c.rest = '[' :: (Nat.toDigits 10 n ++ ']' :: rest)) :
    ∃ d, Takes (indexPattern i) c d ∧ d.rest = rest ∧ d.pos = c.pos + 1 + (Nat.toDigits 10 n).length + 1 ∧
      d.captures = ⟨i, c.pos + 1, c.pos + 1 + (Nat.toDigits 10 n).length⟩ :: c.captures := by
  have hopen : Takes (lit "[") c (c.after ['['] (Nat.toDigits 10 n ++ ']' :: rest)) := takes_lit "[" _ hrest
  have hdigits : Takes (plus (one Text.isDigit)) (c.after ['['] (Nat.toDigits 10 n ++ ']' :: rest)) _ :=
    takes_plus_one _ (']' :: rest) rfl Nat.toDigits_ne_nil
      (fun x hx => isDigit_of_isAsciiDigit (isAsciiDigit_of_mem_toDigits hx)) rfl
  exact ⟨_, (hopen.seq (hdigits.group i)).seq (takes_lit "]" rest rfl), rfl, rfl, rfl⟩

/-! ## Keys are read back -/

theorem toList_routeKey (i : Nat) (f : RouteField) :
    (routeKey i f).toList =
      "spring.cloud.gateway.routes[".toList ++ Nat.toDigits 10 i ++ ("].".toList ++ f.text.toList) := by
  simp [routeKey, itemPath]

theorem takes_routeKey {c : Cursor} (i : Nat) (field : List Char) (hpos : c.pos = 0)
    (hrest : c.rest = "spring.cloud.gateway.routes[".toList ++ Nat.toDigits 10 i ++ ("].".toList ++ field))
    (hne : field ≠ []) (hline : '\n' ∉ field) :
    ∃ d, Takes routeKeyPattern c d ∧ d.captures =
      ⟨2, 28 + (Nat.toDigits 10 i).length + 2, 28 + (Nat.toDigits 10 i).length + 2 + field.length⟩ ::
      ⟨1, 28, 28 + (Nat.toDigits 10 i).length⟩ :: c.captures := by
  have hsplit : c.rest = "spring.cloud.gateway".toList ++ (".routes".toList ++
      '[' :: (Nat.toDigits 10 i ++ ']' :: '.' :: field)) := by
    rw [hrest]
    simp
  have hstart := takes_lit "spring.cloud.gateway" _ hsplit
  generalize hc₁ : c.after "spring.cloud.gateway".toList _ = c₁ at hstart
  -- the routes stand below the gateway itself, not below one of its servers
  have hserver : Fails (oneOf [".server.webflux", ".server.webmvc"]) c₁ := fails_oneOf (by simp [← hc₁])
  have hroutes := takes_lit (c := c₁) ".routes" ('[' :: (Nat.toDigits 10 i ++ ']' :: '.' :: field)) (by simp [← hc₁])
  obtain ⟨d, hindex, hdrest, hdpos, hdcaptures⟩ := takes_index (c := c₁.after ".routes".toList
    ('[' :: (Nat.toDigits 10 i ++ ']' :: '.' :: field))) 1 i ('.' :: field) rfl
  have hfield : Takes (plus inLine) (d.after ['.'] field) ((d.after ['.'] field).after field []) :=
    takes_plus_one field [] (by simp) hne (fun x hx => by simpa using fun he : x = '\n' => hline (he ▸ hx)) rfl
  refine ⟨_, ((((((takes_textStart hpos).seq hstart).seq hserver.opt).seq hroutes).seq hindex).seq
    (takes_lit "." field hdrest)).seq (hfield.group 2) |>.seq (takes_lastLineEnd rfl), ?_⟩
  simp only [Cursor.after_pos, Cursor.after_captures, Cursor.capture_captures, hdpos, hdcaptures, ← hc₁, hpos]
  simp

theorem relaxed_append {s t : String} (hs : s.toList.all isRelaxed) (ht : t.toList.all isRelaxed) :
    (s ++ t).toList.all isRelaxed := by
  rw [String.toList_append, List.all_append, hs, ht]
  rfl

theorem relaxed_itemPath {path : String} (hpath : path.toList.all isRelaxed) (i : Nat) :
    (itemPath path i).toList.all isRelaxed := by
  have hchars : (itemPath path i).toList = path.toList ++ '[' :: (Nat.toDigits 10 i ++ [']']) := by
    simp [itemPath]
  have hdigits : (Nat.toDigits 10 i).all isRelaxed :=
    List.all_eq_true.2 fun c hc => isRelaxed_of_isAsciiDigit (isAsciiDigit_of_mem_toDigits hc)
  rw [hchars, List.all_append, List.all_cons, List.all_append, hpath, hdigits]
  decide

theorem PredicatePart.relaxed_ending (part : PredicatePart) : part.ending.toList.all isRelaxed := by
  cases part with
  | text => rfl
  | name => decide
  | argument key =>
    have hkey : key.text.toList.all isRelaxed :=
      List.all_eq_true.2 fun c hc => isRelaxed_of_isSmallLetter (List.all_eq_true.1 key.small c hc)
    exact relaxed_append (by decide) hkey

/-- The name of a field is in relaxed form. -/
theorem RouteField.relaxed_text (f : RouteField) : f.text.toList.all isRelaxed := by
  cases f with
  | id => decide
  | uri => decide
  | predicate j part => exact relaxed_append (relaxed_itemPath (by decide) j) part.relaxed_ending

theorem newline_not_mem_text (f : RouteField) : '\n' ∉ f.text.toList := by
  intro h
  have hnewline := List.all_eq_true.1 f.relaxed_text '\n' h
  revert hnewline
  decide

/-- All characters of a key stay as they are in its relaxed form. -/
theorem relaxedKey_routeKey (i : Nat) (f : RouteField) : relaxedKey (routeKey i f) = routeKey i f :=
  relaxedKey_eq_self (relaxed_append (relaxed_append (relaxed_itemPath (by decide) i) (by decide)) f.relaxed_text)

/-- **The key of a route's entry is read back**: the index of the route and the field. -/
theorem matchStart?_routeKey (i : Nat) (f : RouteField) :
    ∃ m, routeKeyPattern.matchStart? (routeKey i f).toList = some m ∧
      m.group (routeKey i f).toList 1 = Nat.toDigits 10 i ∧ m.group (routeKey i f).toList 2 = f.text.toList := by
  have hne : f.text.toList ≠ [] := by
    cases f <;> simp [RouteField.text, itemPath]
  obtain ⟨d, hd, hcaptures⟩ := takes_routeKey (c := ⟨none, 0, (routeKey i f).toList.length, (routeKey i f).toList, []⟩) i
    f.text.toList rfl (toList_routeKey i f) hne (newline_not_mem_text f)
  refine ⟨_, matchStart?_eq_some hd, ?_, ?_⟩
  · refine Match.group_eq "spring.cloud.gateway.routes[".toList ("].".toList ++ f.text.toList) (toList_routeKey i f) ?_
    simp [Match.span?, hcaptures]
  · refine Match.group_eq ("spring.cloud.gateway.routes[".toList ++ Nat.toDigits 10 i ++ "].".toList) [] ?_ ?_
    · rw [toList_routeKey]
      simp
    · simp [Match.span?, hcaptures]
      omega

/-- The part of a predicate as its key spells it; the text of the predicate itself has none. -/
def PredicatePart.spelling : PredicatePart → Option (List Char)
  | text => none
  | name => some "name".toList
  | argument key => some ("args.".toList ++ key.text.toList)

theorem takes_part {c : Cursor} (part : PredicatePart) (hrest : c.rest = part.ending.toList) :
    ∃ d, Takes (opt (lit "." ++ group 2 (lit "name" <|> lit "args." ++ plus inLine))) c d ∧ d.rest = [] ∧
      d.captures = (part.spelling.map fun w => ⟨2, c.pos + 1, c.pos + 1 + w.length⟩).toList ++ c.captures := by
  cases part with
  | text =>
    have hdot : Fails (lit ".") c := opensWith_lit '.' rfl c (by rw [hrest]; rfl)
    exact ⟨c, hdot.seq.opt, hrest, rfl⟩
  | name =>
    have hname := takes_lit (c := c.after ['.'] "name".toList) "name" [] rfl
    exact ⟨_, ((takes_lit "." "name".toList hrest).seq (hname.left.group 2)).opt, rfl, rfl⟩
  | argument key =>
    have hsplit : c.rest = ".".toList ++ ("args.".toList ++ key.text.toList) := by
      rw [hrest, PredicatePart.ending]
      simp
    have hname : Fails (lit "name") (c.after ".".toList ("args.".toList ++ key.text.toList)) :=
      opensWith_lit 'n' rfl _ rfl
    have hne : key.text.toList ≠ [] := by
      simpa using key.nonempty
    have hline : ∀ x ∈ key.text.toList, x != '\n' := by
      intro x hx
      have hrelaxed := isRelaxed_of_isSmallLetter (List.all_eq_true.1 key.small x hx)
      rw [bne_iff_ne]
      rintro rfl
      revert hrelaxed
      decide
    have hkey (e : Cursor) (he : e.rest = key.text.toList) : Takes (plus inLine) e (e.after key.text.toList []) :=
      takes_plus_one key.text.toList [] (by simpa using he) hne hline rfl
    have hargs := (takes_lit (c := c.after ".".toList ("args.".toList ++ key.text.toList)) "args." _ rfl).seq (hkey _ rfl)
    refine ⟨_, ((takes_lit "." _ hsplit).seq ((hargs.right hname).group 2)).opt, rfl, ?_⟩
    simp [PredicatePart.spelling, Nat.add_assoc]
    omega

theorem toList_predicateText (j : Nat) (part : PredicatePart) :
    (RouteField.predicate j part).text.toList =
      "predicates[".toList ++ Nat.toDigits 10 j ++ (']' :: part.ending.toList) := by
  simp [RouteField.text, itemPath]

/-- **The key of a predicate's entry is read back**: the index of the predicate and the part. -/
theorem matchStart?_predicateText (j : Nat) (part : PredicatePart) :
    ∃ m, predicateKeyPattern.matchStart? (RouteField.predicate j part).text.toList = some m ∧
      m.group (RouteField.predicate j part).text.toList 1 = Nat.toDigits 10 j ∧
      m.group? (RouteField.predicate j part).text.toList 2 = part.spelling := by
  have hchars := toList_predicateText j part
  generalize (RouteField.predicate j part).text.toList = text at hchars ⊢
  have hsplit : text = "predicates".toList ++ '[' :: (Nat.toDigits 10 j ++ ']' :: part.ending.toList) := by
    rw [hchars]
    simp
  have hstart := takes_lit (c := ⟨none, 0, text.length, text, []⟩) "predicates" _ hsplit
  obtain ⟨d, hindex, hdrest, hdpos, hdcaptures⟩ := takes_index (c := Cursor.after ⟨none, 0, text.length, text, []⟩
    "predicates".toList ('[' :: (Nat.toDigits 10 j ++ ']' :: part.ending.toList))) 1 j part.ending.toList rfl
  obtain ⟨e, hpart, herest, hecaptures⟩ := takes_part part hdrest
  rw [hdpos, hdcaptures] at hecaptures
  refine ⟨_, matchStart?_eq_some (((((takes_textStart rfl).seq hstart).seq hindex).seq hpart).seq
    (takes_lastLineEnd herest)), ?_, ?_⟩
  · refine Match.group_eq "predicates[".toList (']' :: part.ending.toList) hchars ?_
    cases part <;> simp [Match.span?, hecaptures, PredicatePart.spelling]
  · cases part with
    | text => simp [Match.group?, Match.span?, hecaptures, PredicatePart.spelling]
    | name =>
      refine Match.group?_eq ("predicates[".toList ++ Nat.toDigits 10 j ++ "].".toList) [] ?_ ?_
      · rw [hchars, PredicatePart.ending]
        simp
      · simp [Match.span?, hecaptures, PredicatePart.spelling]
        omega
    | argument key =>
      refine Match.group?_eq ("predicates[".toList ++ Nat.toDigits 10 j ++ "].".toList) [] ?_ ?_
      · rw [hchars, PredicatePart.ending]
        simp
      · simp [Match.span?, hecaptures, PredicatePart.spelling]
        omega

/-- A field that does not start with the word is no part of a predicate. -/
theorem matchStart?_predicateKey_eq_none {field : List Char} (h : ¬ "predicates".toList <+: field) :
    predicateKeyPattern.matchStart? field = none := by
  have hword : Fails (textStart ++ lit "predicates") ⟨none, 0, field.length, field, []⟩ :=
    fun k => fails_lit h k
  exact matchStart?_eq_none hword.seq.seq.seq

theorem PredicatePart.spelling_injective {part part' : PredicatePart} (h : part.spelling = part'.spelling) :
    part = part' := by
  cases part <;> cases part' <;> simp [PredicatePart.spelling] at h
  · rfl
  · rfl
  · exact congrArg argument (ArgumentKey.ext (String.toList_inj.1 h))

/-- Different fields have different texts. -/
theorem RouteField.text_injective {f g : RouteField} (h : f.text = g.text) : f = g := by
  have hother {j : Nat} {part : PredicatePart} {s : String} (hs : (RouteField.predicate j part).text = s) :
      "predicates".toList <+: s.toList := by
    rw [← hs, toList_predicateText]
    exact ⟨'[' :: (Nat.toDigits 10 j ++ (']' :: part.ending.toList)), by simp⟩
  cases f with
  | id =>
    cases g with
    | id => rfl
    | uri => exact absurd h (by decide)
    | predicate j part => exact absurd (hother h.symm) (by decide)
  | uri =>
    cases g with
    | id => exact absurd h (by decide)
    | uri => rfl
    | predicate j part => exact absurd (hother h.symm) (by decide)
  | predicate i part =>
    cases g with
    | id => exact absurd (hother h) (by decide)
    | uri => exact absurd (hother h) (by decide)
    | predicate j part' =>
      obtain ⟨m, hm, hindex, hpart⟩ := matchStart?_predicateText i part
      obtain ⟨m', hm', hindex', hpart'⟩ := matchStart?_predicateText j part'
      rw [h] at hm hindex hpart
      obtain rfl : m = m' := Option.some.inj (hm.symm.trans hm')
      rw [toDigits_injective (hindex.symm.trans hindex'),
        PredicatePart.spelling_injective (hpart.symm.trans hpart')]

/-- **Keys of different places are different.** -/
theorem routeKey_injective {i j : Nat} {f g : RouteField} (h : routeKey i f = routeKey j g) : i = j ∧ f = g := by
  obtain ⟨m, hm, hindex, hfield⟩ := matchStart?_routeKey i f
  obtain ⟨m', hm', hindex', hfield'⟩ := matchStart?_routeKey j g
  rw [h] at hm hindex hfield
  obtain rfl : m = m' := Option.some.inj (hm.symm.trans hm')
  exact ⟨toDigits_injective (hindex.symm.trans hindex'),
    RouteField.text_injective (String.toList_inj.1 (hfield.symm.trans hfield'))⟩

end SpringAtlas.Settings

import SpringAtlas.Proofs.Source.Reading
import SpringAtlas.Proofs.Source.Splitting
import SpringAtlas.Proofs.Source.Token

/-!
# `Proofs.Source.Pieces` — cutting lists and sums into pieces

Argument lists, arrays and sums are cut in the masked text, and what is read of a piece is taken from the text as it stands
at the same offsets. Where each piece is masked without a look at its neighbours, the two cuts agree: the pieces of the
list are the pieces that it was joined from, each with its own mask.

A comma ends a piece only outside of brackets. `Passes depth w` says that the search for commas runs over `w` at the given
depth without an end of a piece; what passes is put together piece by piece, and braces let everything inside pass that
passes one level deeper.

## Contents
* `map_slice_spansFrom` — a joined text at the spans of its pieces
* `Fragment.ofText`, `map_slice_ofText` — the same for a text and its mask
* `Passes` — commas outside of brackets, braces and parentheses
* `Listed`, `IsItem`, `items_listed` — the items of a list
* `Padded`, `braced`, `values_braced` — the values of an array
* `IsOperand`, `values_sum` — the value of a sum
* `Arguments.named?_eq_findSome?`, `Arguments.positional_eq_getD` — arguments by name and by index
-/

namespace SpringAtlas.Source

/-! ## Spans -/

theorem spansFrom_congr {vs ws : List (List Char)} (h : vs.map List.length = ws.map List.length) (start : Nat) :
    spansFrom start vs = spansFrom start ws := by
  induction vs generalizing ws start with
  | nil =>
    obtain rfl : ws = [] := by simpa using h.symm
    rfl
  | cons v vs ih =>
    cases ws with
    | nil => simp at h
    | cons w ws =>
      obtain ⟨hlen, hrest⟩ := List.cons.inj h
      rw [spansFrom, spansFrom, hlen, ih hrest]

/-- **Cut at its spans, a joined text falls into its pieces.** -/
theorem map_slice_spansFrom (sep : Char) (pre : List Char) (ws : List (List Char)) :
    (spansFrom pre.length ws).map (fun s => Text.slice (pre ++ Text.join [sep] ws) s.1 s.2) = ws := by
  induction ws generalizing pre with
  | nil => rfl
  | cons w ws ih =>
    cases ws with
    | nil =>
      have hslice := Text.slice_append pre w []
      rw [List.append_nil] at hslice
      rw [Text.join_singleton, spansFrom, spansFrom, List.map_singleton, hslice]
    | cons w' ws =>
      -- the text up to the separator behind `w` stands in front of the other pieces
      have hsplit : pre ++ Text.join [sep] (w :: w' :: ws) = pre ++ w ++ [sep] ++ Text.join [sep] (w' :: ws) := by
        rw [Text.join_cons_cons]
        simp
      have hfirst := Text.slice_append pre w (sep :: Text.join [sep] (w' :: ws))
      have hrest := ih (pre ++ w ++ [sep])
      have hlen : (pre ++ w ++ [sep]).length = pre.length + w.length + 1 := by simp [Nat.add_assoc]
      rw [← hsplit, hlen] at hrest
      rw [spansFrom, List.map_cons, hrest, hsplit]
      simp only [List.append_assoc, List.singleton_append] at hfirst ⊢
      rw [hfirst]

/-! ## A text and its mask -/

/-- A text as it stands and in its masked form. -/
def Fragment.ofText (text : List Char) : Fragment :=
  ⟨text, mask text⟩

/-- **The pieces of a joined text have their own masks.** -/
theorem map_slice_ofText {sep : Char} (hsep : isPlainChar sep) {ws : List (List Char)} (h : ∀ w ∈ ws, MasksAlone w) :
    (spansFrom 0 (ws.map mask)).map (fun s => (Fragment.ofText (Text.join [sep] ws)).slice s.1 s.2) =
      ws.map Fragment.ofText := by
  have hlen : (ws.map mask).map List.length = ws.map List.length := by
    rw [List.map_map]
    exact List.map_congr_left fun w _ => (mask_kept w).length_eq
  have hraw := map_slice_spansFrom sep [] ws
  have hmasked := map_slice_spansFrom sep [] (ws.map mask)
  rw [← (masksTo_join_alone hsep h).mask] at hmasked
  simp only [List.length_nil, List.nil_append] at hraw hmasked
  rw [← spansFrom_congr hlen] at hraw
  calc (spansFrom 0 (ws.map mask)).map (fun s => (Fragment.ofText (Text.join [sep] ws)).slice s.1 s.2)
      = List.zipWith Fragment.mk ws (ws.map mask) := by
        conv_rhs => rw [← hmasked]
        conv_rhs => arg 2; rw [← hraw]
        rw [List.zipWith_map, List.zipWith_self]
        rfl
    _ = ws.map Fragment.ofText := by
        rw [List.zipWith_map_right, List.zipWith_self]
        rfl

/-! ## Commas outside of brackets -/

def opensBracket (c : Char) : Bool :=
  "(\x7b[".toList.contains c

def closesBracket (c : Char) : Bool :=
  ")\x7d]".toList.contains c

/-- At the given depth the text is read without an end of a piece, and behind it the depth is the same. -/
def Passes (depth : Int) (w : List Char) : Prop :=
  ∀ current rest, splitTopLevel opensBracket closesBracket depth current (w ++ rest) =
    splitTopLevel opensBracket closesBracket depth (w.reverse ++ current) rest

/-- Texts that pass one by one pass together. -/
theorem Passes.append {depth : Int} {w w' : List Char} (h : Passes depth w) (h' : Passes depth w') :
    Passes depth (w ++ w') :=
  RunsOver.append h h'

/-- A character that is no bracket passes, unless it is a comma outside of brackets. -/
theorem passes_singleton {depth : Int} {c : Char} (hopen : opensBracket c = false) (hclose : closesBracket c = false)
    (hcomma : c = ',' → depth ≠ 0) : Passes depth [c] :=
  runsOver_singleton hopen hclose hcomma

/-- The characters at which lists, sums and named arguments are cut. -/
def cutChars : List Char :=
  ['(', '\x7b', '[', ')', '\x7d', ']', ',', '+', '=']

/-- A character at which nothing is cut. -/
def isInert (c : Char) : Bool :=
  !cutChars.contains c

theorem isInert_iff {c : Char} : isInert c ↔
    (opensBracket c = false ∧ closesBracket c = false) ∧ c ≠ ',' ∧ c ≠ '+' ∧ c ≠ '=' := by
  simp [isInert, cutChars, opensBracket, closesBracket, and_assoc]

/-- Nothing is cut at the characters of a class that has no character to cut at. -/
theorem isInert_of_class {ok : Char → Bool} (hok : cutChars.any ok = false) {c : Char} (hc : ok c) : isInert c := by
  have hcut : c ∉ cutChars := fun hmem => List.any_eq_false.1 hok c hmem hc
  simpa [isInert] using hcut

theorem isInert_of_isBlank {c : Char} (h : Text.isBlank c) : isInert c :=
  isInert_of_class (by decide) h

/-- Characters at which nothing is cut pass at every depth. -/
theorem passes_of_forall {w : List Char} (h : ∀ c ∈ w, isInert c) (depth : Int) : Passes depth w := by
  refine runsOver_of_forall fun c hc => ?_
  obtain ⟨⟨hopen, hclose⟩, hcomma, -⟩ := isInert_iff.1 (h c hc)
  exact ⟨hopen, hclose, fun he => absurd he hcomma⟩

theorem passes_join {depth : Int} {sep : Char} (hsep : Passes depth [sep]) {ws : List (List Char)}
    (h : ∀ w ∈ ws, Passes depth w) : Passes depth (Text.join [sep] ws) :=
  runsOver_join hsep h

/-- Inside of braces everything passes that passes one level deeper. -/
theorem Passes.braces {depth : Int} {w : List Char} (h : Passes (depth + 1) w) :
    Passes depth ('\x7b' :: (w ++ ['\x7d'])) :=
  RunsOver.enclosed rfl ⟨rfl, rfl⟩ ⟨by decide, by decide⟩ h

/-! ## Items of lists -/

/-- The text of a list: its items with commas between them, or blanks if there are none. -/
def Listed (ws : List (List Char)) (body : List Char) : Prop :=
  ws = [] ∧ Text.AllBlank body ∨ ws ≠ [] ∧ body = Text.join [','] ws

/-- A text that can stand as an item of a list: its mask is its own, no comma ends it, and it is not blank. -/
structure IsItem (w : List Char) : Prop where
  alone : MasksAlone w
  passes : ∀ depth : Int, 0 ≤ depth → Passes depth (mask w)
  solid : ∃ c ∈ mask w, Text.isBlank c = false

/-- Blanks are their own mask. -/
theorem masksTo_blanks {cs : List Char} (h : Text.AllBlank cs) : MasksTo cs cs :=
  masksTo_plain fun c hc => isPlainChar_of_isBlank (h c hc)

/-- Blanks pass at every depth. -/
theorem passes_blanks {cs : List Char} (h : Text.AllBlank cs) (depth : Int) : Passes depth cs :=
  passes_of_forall (fun c hc => isInert_of_isBlank (h c hc)) depth

variable {ws : List (List Char)} {body w core : List Char}

theorem masksTo_items (hitems : ∀ w ∈ ws, IsItem w) : MasksTo (Text.join [','] ws) (Text.join [','] (ws.map mask)) :=
  masksTo_join_alone (by decide) fun w hw => (hitems w hw).alone

theorem Listed.masksAlone (h : Listed ws body) (hitems : ∀ w ∈ ws, IsItem w) : MasksAlone body := by
  rcases h with ⟨-, hblank⟩ | ⟨-, rfl⟩
  · exact (masksTo_blanks hblank).alone
  · exact (masksTo_items hitems).alone

/-- The text of a list passes inside of brackets. -/
theorem Listed.passes (h : Listed ws body) (hitems : ∀ w ∈ ws, IsItem w) {depth : Int} (hdepth : 0 < depth) :
    Passes depth (mask body) := by
  rcases h with ⟨-, hblank⟩ | ⟨-, rfl⟩
  · rw [(masksTo_blanks hblank).mask]
    exact passes_blanks hblank depth
  · have hcomma : Passes depth [','] := passes_singleton rfl rfl fun _ => Int.ne_of_gt hdepth
    rw [(masksTo_items hitems).mask]
    refine passes_join hcomma fun m hm => ?_
    obtain ⟨w, hw, rfl⟩ := List.mem_map.1 hm
    exact (hitems w hw).passes depth (Int.le_of_lt hdepth)

/-- The arguments in the mask of a list are its items. -/
theorem argumentSpans_listed (h : Listed ws body) (hitems : ∀ w ∈ ws, IsItem w) :
    argumentSpans (mask body) = spansFrom 0 (ws.map mask) := by
  have hspans (cs : List Char) : argumentSpans cs =
      spansFrom 0 ((splitTopLevel opensBracket closesBracket 0 [] cs).1 ++
        if (Text.trim (splitTopLevel opensBracket closesBracket 0 [] cs).2).isEmpty then []
        else [(splitTopLevel opensBracket closesBracket 0 [] cs).2]) := rfl
  rcases h with ⟨rfl, hblank⟩ | ⟨hne, rfl⟩
  · have hpasses := passes_blanks hblank 0 [] []
    rw [List.append_nil, List.append_nil] at hpasses
    rw [(masksTo_blanks hblank).mask, hspans, hpasses, splitTopLevel, List.reverse_reverse, Text.trim_of_allBlank hblank]
    rfl
  · have hne' : ws.map mask ≠ [] := by simpa using hne
    have hpasses : ∀ m ∈ ws.map mask, Passes 0 m := by
      intro m hm
      obtain ⟨w, hw, rfl⟩ := List.mem_map.1 hm
      exact (hitems w hw).passes 0 (Int.le_refl 0)
    -- the last item counts, for it is not blank
    have hlast : (Text.trim ((ws.map mask).getLast hne')).isEmpty = false := by
      obtain ⟨w, hw, hmask⟩ := List.mem_map.1 (List.getLast_mem hne')
      obtain ⟨c, hc, hsolid⟩ := (hitems w hw).solid
      rw [← hmask, List.isEmpty_eq_false_iff]
      exact List.ne_nil_of_mem ((Text.mem_trimWhere hsolid).2 hc)
    rw [(masksTo_items hitems).mask, hspans, splitTopLevel_join rfl rfl hne' hpasses]
    simp only [hlast, Bool.false_eq_true, if_false, List.dropLast_concat_getLast]

/-- The items of a list. -/
def Fragment.items (f : Fragment) : List Fragment :=
  (argumentSpans f.masked).map fun s => f.slice s.1 s.2

/-- **The items of a list are what it was written from**, each with its own mask. -/
theorem items_listed (h : Listed ws body) (hitems : ∀ w ∈ ws, IsItem w) :
    (Fragment.ofText body).items = ws.map Fragment.ofText := by
  show (argumentSpans (mask body)).map _ = _
  rw [argumentSpans_listed h hitems]
  rcases h with ⟨rfl, -⟩ | ⟨-, rfl⟩
  · rfl
  · exact map_slice_ofText (by decide) fun w hw => (hitems w hw).alone

/-! ## Arrays -/

/-- The array with the given inside. -/
def braced (body : List Char) : List Char :=
  '\x7b' :: (body ++ ['\x7d'])

/-- The text with blanks around it. -/
def Padded (core w : List Char) : Prop :=
  ∃ before after, Text.AllBlank before ∧ Text.AllBlank after ∧ w = before ++ (core ++ after)

/-- A text stands without blanks around it. -/
theorem padded_self (core : List Char) : Padded core core :=
  ⟨[], [], List.forall_mem_nil _, List.forall_mem_nil _, (List.append_nil core).symm⟩

/-- Trimming takes the blanks off again, if the text has none at its ends. -/
theorem Padded.trim (h : Padded core w) (hfirst : core.head?.any Text.isBlank = false)
    (hlast : core.getLast?.any Text.isBlank = false) : Text.trim w = core := by
  obtain ⟨before, after, hbefore, hafter, rfl⟩ := h
  exact Text.trim_padded hbefore hafter hfirst hlast

/-- Blanks around a text stand around its mask. -/
theorem Padded.masksTo {m : List Char} (h : Padded core w) (hm : MasksTo core m) : MasksAlone w ∧ Padded m (mask w) := by
  obtain ⟨before, after, hbefore, hafter, rfl⟩ := h
  have hmasks := (masksTo_blanks hbefore).append (hm.append (masksTo_blanks hafter))
  exact ⟨hmasks.alone, before, after, hbefore, hafter, hmasks.mask⟩

/-- Blanks around a text do not matter for where it is cut. -/
theorem Padded.passes {depth : Int} (h : Padded core w) (hcore : Passes depth core) : Passes depth w := by
  obtain ⟨before, after, hbefore, hafter, rfl⟩ := h
  exact (passes_blanks hbefore depth).append (hcore.append (passes_blanks hafter depth))

/-- A padded text holds the characters of the text, and blanks. -/
theorem Padded.mem {c : Char} (h : Padded core w) (hc : c ∈ w) : Text.isBlank c ∨ c ∈ core := by
  obtain ⟨before, after, hbefore, hafter, rfl⟩ := h
  rcases List.mem_append.1 hc with hc | hc
  · exact Or.inl (hbefore c hc)
  · rcases List.mem_append.1 hc with hc | hc
    · exact Or.inr hc
    · exact Or.inl (hafter c hc)

/-- A padded text holds the text. -/
theorem Padded.subset (h : Padded core w) : core ⊆ w := by
  obtain ⟨before, after, -, -, rfl⟩ := h
  intro c hc
  simp [hc]

theorem masksTo_braced {m : List Char} (h : MasksTo w m) : MasksTo (braced w) (braced m) := by
  have hopen : MasksTo ['\x7b'] ['\x7b'] := masksTo_char (by decide)
  have hclose : MasksTo ['\x7d'] ['\x7d'] := masksTo_char (by decide)
  exact hopen.append (h.append hclose)

theorem getLast?_braced (m : List Char) : (braced m).getLast? = some '\x7d' :=
  List.getLast?_concat (l := '\x7b' :: m)

theorem trim_braced (h : Padded (braced core) w) : Text.trim w = braced core := by
  refine h.trim rfl ?_
  rw [getLast?_braced]
  rfl

/-- The first opening brace is the one behind the blanks. -/
theorem takeWhile_braced {before : List Char} (hbefore : Text.AllBlank before) (m after : List Char) :
    (before ++ (braced m ++ after)).takeWhile (· != '\x7b') = before := by
  rw [List.takeWhile_append_of_pos]
  · rw [braced, List.cons_append, List.takeWhile_cons_of_neg (by simp), List.append_nil]
  · intro c hc
    simpa using Text.ne_of_isBlank (hbefore c hc) (by decide)

/-- The last closing brace is the one in front of the blanks. -/
theorem afterLast_braced (before m : List Char) {after : List Char} (hafter : Text.AllBlank after) :
    Text.afterLast (· == '\x7d') (before ++ (braced m ++ after)) = before.length + 1 + m.length + 1 := by
  have hnone : ∀ c ∈ after, (c == '\x7d') = false := by
    intro c hc
    simpa using Text.ne_of_isBlank (hafter c hc) (by decide)
  have hsplit : before ++ (braced m ++ after) = (before ++ '\x7b' :: m) ++ '\x7d' :: after := by simp [braced]
  rw [hsplit, afterLast_append (by decide) hnone, List.length_append, List.length_cons]
  omega

theorem slice_braced (before m after : List Char) :
    Text.slice (before ++ (braced m ++ after)) (before.length + 1) (before.length + 1 + m.length) = m := by
  have hslice := Text.slice_append (before ++ ['\x7b']) m ('\x7d' :: after)
  rw [List.length_append, List.length_singleton] at hslice
  simpa [braced] using hslice

/-- **The inside of an array is what stands between its braces**, with its own mask. -/
theorem inner?_braced (hbody : MasksAlone body) (h : Padded (braced body) w) :
    (Fragment.ofText w).inner? = some (Fragment.ofText body) := by
  have htrim := trim_braced (h.masksTo (masksTo_braced hbody)).2
  obtain ⟨before, after, hbefore, hafter, rfl⟩ := h
  have hmask : mask (before ++ (braced body ++ after)) = before ++ (braced (mask body) ++ after) :=
    ((masksTo_blanks hbefore).append ((masksTo_braced hbody).append (masksTo_blanks hafter))).mask
  have hlen : (mask body).length = body.length := (mask_kept body).length_eq
  have hmasked := slice_braced before (mask body) after
  rw [hlen] at hmasked
  rw [hmask] at htrim
  simp only [Fragment.inner?, Fragment.ofText, hmask, htrim, takeWhile_braced hbefore, afterLast_braced _ _ hafter, hlen,
    Nat.add_sub_cancel, Fragment.slice, slice_braced, hmasked]
  have hfirst : (braced (mask body)).head? = some '\x7b' := rfl
  have hne : before ++ (braced (mask body) ++ after) ≠ [] := by simp [braced]
  rw [if_pos (by simp only [hfirst, getLast?_braced, List.isEmpty_eq_false_iff.2 hne]; rfl)]

/-- An array is an item, whatever items it holds. -/
theorem isItem_braced (hbody : Listed ws body) (hitems : ∀ w ∈ ws, IsItem w)
    (h : Padded (braced body) w) : IsItem w := by
  obtain ⟨halone, hmask⟩ := h.masksTo (masksTo_braced (hbody.masksAlone hitems))
  refine ⟨halone, fun depth hdepth => ?_, '\x7b', hmask.subset List.mem_cons_self, by decide⟩
  exact hmask.passes (hbody.passes hitems (by omega)).braces

/-- No equals sign stands in an array if none stands in its items. -/
theorem equals_not_mem_braced (hbody : Listed ws body) (hitems : ∀ w ∈ ws, IsItem w) (hequals : ∀ w ∈ ws, '=' ∉ mask w)
    (h : Padded (braced body) w) : '=' ∉ mask w := by
  have hinside : '=' ∉ mask body := by
    intro hmem
    rcases hbody with ⟨-, hblank⟩ | ⟨-, rfl⟩
    · rw [(masksTo_blanks hblank).mask] at hmem
      exact absurd (hblank _ hmem) (by decide)
    · rw [(masksTo_items hitems).mask] at hmem
      rcases Text.mem_join hmem with hmem | ⟨m, hm, hmem⟩
      · exact absurd hmem (by decide)
      · obtain ⟨w, hw, rfl⟩ := List.mem_map.1 hm
        exact hequals w hw hmem
  intro hmem
  rcases (h.masksTo (masksTo_braced (hbody.masksAlone hitems))).2.mem hmem with hmem | hmem
  · exact absurd hmem (by decide)
  · exact hinside (by simpa [braced] using hmem)

/-- **The values of an array are those of its items**, one after another. -/
theorem values_braced (hbody : Listed ws body) (hitems : ∀ w ∈ ws, IsItem w)
    (h : Padded (braced body) w) (constants : Constants) :
    (Fragment.ofText w).values constants = ws.flatMap fun v => (Fragment.ofText v).values constants := by
  rw [Fragment.values_array (inner?_braced (hbody.masksAlone hitems) h), ← List.flatMap_map]
  show (Fragment.ofText body).items.flatMap _ = _
  rw [items_listed hbody hitems, List.flatMap_map]

/-! ## Sums -/

/-- A text that can stand as an operand of a sum: its mask is its own, nothing in it is cut, and it is not blank. -/
structure IsOperand (w : List Char) : Prop where
  alone : MasksAlone w
  inert : ∀ c ∈ mask w, isInert c
  solid : ∃ c ∈ mask w, Text.isBlank c = false

/-- A text whose mask has nothing to cut is an operand, with any blanks around it. -/
theorem isOperand_padded {m : List Char} (hm : MasksTo core m) (hinert : ∀ c ∈ m, isInert c)
    (hsolid : ∃ c ∈ m, Text.isBlank c = false) (h : Padded core w) : IsOperand w := by
  obtain ⟨halone, hmask⟩ := h.masksTo hm
  obtain ⟨c, hc, hblank⟩ := hsolid
  refine ⟨halone, fun d hd => ?_, c, hmask.subset hc, hblank⟩
  exact (hmask.mem hd).elim isInert_of_isBlank (hinert d)

/-- **A literal is an operand**, whatever it holds. -/
theorem isOperand_quoted {s : List Char} (hs : LiteralInside s) (h : Padded (quoted s) w) : IsOperand w := by
  refine isOperand_padded (masksTo_quoted hs) (fun c hc => ?_) ⟨'"', List.mem_cons_self, by decide⟩ h
  have hc' : c = '"' ∨ c = ' ' := by
    simp only [quoted, List.mem_cons, List.mem_append, List.mem_replicate, List.not_mem_nil, or_false] at hc
    tauto
  rcases hc' with rfl | rfl <;> decide

/-- A literal is what is left without the blanks around it. -/
theorem trim_quoted {s : List Char} (h : Padded (quoted s) w) : Text.trim w = quoted s := by
  have hlast : (quoted s).getLast? = some '"' := List.getLast?_concat (l := '"' :: s)
  refine h.trim rfl ?_
  rw [hlast]
  rfl

section

variable (hne : ws ≠ []) (hoperands : ∀ w ∈ ws, IsOperand w)
include hoperands

/-- The mask of a sum: the masks of its operands with plus signs between them. -/
theorem masksTo_sum : MasksTo (Text.join ['+'] ws) (Text.join ['+'] (ws.map mask)) :=
  masksTo_join_alone (by decide) fun w hw => (hoperands w hw).alone

theorem mem_mask_sum {c : Char} (hc : c ∈ mask (Text.join ['+'] ws)) : isInert c ∨ c = '+' := by
  rw [(masksTo_sum hoperands).mask] at hc
  rcases Text.mem_join hc with hc | ⟨m, hm, hc⟩
  · exact Or.inr (List.mem_singleton.1 hc)
  · obtain ⟨w, hw, rfl⟩ := List.mem_map.1 hm
    exact Or.inl ((hoperands w hw).inert c hc)

/-- The mask of a sum has no equals sign, so a sum has no name. -/
theorem equals_not_mem_sum : '=' ∉ mask (Text.join ['+'] ws) :=
  fun h => absurd (mem_mask_sum hoperands h) (by decide)

include hne

/-- **A sum is one item of a list**, however many operands it has. -/
theorem isItem_sum : IsItem (Text.join ['+'] ws) := by
  refine ⟨(masksTo_sum hoperands).alone, fun depth _ => ?_, ?_⟩
  · have hplus : Passes depth ['+'] := passes_singleton rfl rfl (by simp)
    rw [(masksTo_sum hoperands).mask]
    refine passes_join hplus fun m hm => ?_
    obtain ⟨w, hw, rfl⟩ := List.mem_map.1 hm
    exact passes_of_forall (hoperands w hw).inert depth
  · obtain ⟨w, ws, rfl⟩ := List.exists_cons_of_ne_nil hne
    obtain ⟨c, hc, hsolid⟩ := (hoperands w List.mem_cons_self).solid
    rw [(masksTo_sum hoperands).mask]
    exact ⟨c, Text.mem_join_head hc _, hsolid⟩

/-- **The value of a sum is the value of its operands.** -/
theorem values_sum (constants : Constants) :
    (Fragment.ofText (Text.join ['+'] ws)).values constants =
      (Fragment.sumValue? (ws.map fun w => Fragment.termValue? constants (Text.trim w))).toList := by
  -- no brace stands in the mask, so that the text is no array
  have hinner : (Fragment.ofText (Text.join ['+'] ws)).inner? = none := by
    have hhead : (Text.trim (mask (Text.join ['+'] ws))).head? ≠ some '\x7b' := by
      intro hhead
      have hmem := (Text.mem_trimWhere (by decide)).1 (List.mem_of_head? hhead)
      exact absurd (mem_mask_sum hoperands hmem) (by decide)
    simp [Fragment.inner?, Fragment.ofText, hhead]
  have hspans : Fragment.termSpans (Fragment.ofText (Text.join ['+'] ws)).masked = spansFrom 0 (ws.map mask) := by
    show spansFrom 0 (Text.splitWhere (· == '+') (mask (Text.join ['+'] ws))) = _
    rw [(masksTo_sum hoperands).mask, Text.splitWhere_join (by decide) (by simpa using hne)]
    intro m hm c hc
    obtain ⟨w, hw, rfl⟩ := List.mem_map.1 hm
    simpa using (isInert_iff.1 ((hoperands w hw).inert c hc)).2.2.1
  have hslices := map_slice_ofText (show isPlainChar '+' by decide) fun w hw => (hoperands w hw).alone
  have hpieces := congrArg (List.map fun f => Fragment.termValue? constants (Text.trim f.raw)) hslices
  rw [List.map_map, List.map_map] at hpieces
  rw [Fragment.values_sum hinner, hspans]
  exact congrArg (fun known => (Fragment.sumValue? known).toList) hpieces

end

/-! ## Argument lists -/

/-- The values of an argument that has one of the names. -/
def Fragment.namedValues? (constants : Constants) (names : List String) (f : Fragment) : Option (List (List Char)) :=
  match argumentName.matchStart? f.masked with
  | some m =>
    if names.contains (String.ofList (m.group f.masked 1)) then
      some (Fragment.values constants ⟨f.raw.drop m.stop, f.masked.drop m.stop⟩)
    else none
  | none => none

/-- The values of an argument that has no name. -/
def Fragment.unnamedValues (constants : Constants) (f : Fragment) : List (List Char) :=
  if (argumentName.matchStart? f.masked).isSome then [] else f.values constants

namespace Arguments

/-- **By name the first item counts that has one of the names.** -/
theorem named?_eq_findSome? (a : Arguments) (names : List String) :
    a.named? names = a.fragment.items.findSome? (Fragment.namedValues? a.constants names) := by
  have hslice (s : Nat × Nat) (k : Nat) : a.fragment.slice (s.1 + k) s.2 =
      ⟨(a.fragment.slice s.1 s.2).raw.drop k, (a.fragment.slice s.1 s.2).masked.drop k⟩ := by
    simp only [Fragment.slice, Text.slice, List.drop_drop]
  rw [Fragment.items, List.findSome?_map, named?]
  refine congrArg (fun f => a.spans.findSome? f) (funext fun s => ?_)
  simp only [Function.comp_apply, valuesAt, hslice]
  rfl

/-- By position the item at that place counts, if it has no name. -/
theorem positional_eq_getD (a : Arguments) (i : Nat) :
    a.positional i = (a.fragment.items[i]?.map (Fragment.unnamedValues a.constants)).getD [] := by
  rw [positional, Fragment.items, List.getElem?_map, spans]
  cases (argumentSpans a.fragment.masked)[i]? with
  | none => rfl
  | some s => rfl

end Arguments

/-- An argument without an equals sign has no name. -/
theorem argumentName_eq_none {cs : List Char} (h : '=' ∉ cs) : argumentName.matchStart? cs = none := by
  refine Pattern.matchStart?_eq_none (Pattern.fails_seq_of_reaches fun d hd => Pattern.fails_lit fun hprefix => h ?_)
  obtain ⟨xs, hrest, -⟩ := hd
  obtain ⟨rest, hd⟩ := hprefix
  obtain rfl : cs = xs ++ d.rest := hrest
  rw [← hd]
  simp

/-- An argument without an equals sign has no values under a name. -/
theorem namedValues?_unnamed {f : Fragment} (h : '=' ∉ f.masked) (constants : Constants) (names : List String) :
    f.namedValues? constants names = none := by
  rw [Fragment.namedValues?, argumentName_eq_none h]

/-- An argument without an equals sign has its values without a name. -/
theorem unnamedValues_unnamed {f : Fragment} (h : '=' ∉ f.masked) (constants : Constants) :
    f.unnamedValues constants = f.values constants := by
  rw [Fragment.unnamedValues, argumentName_eq_none h]
  rfl

end SpringAtlas.Source

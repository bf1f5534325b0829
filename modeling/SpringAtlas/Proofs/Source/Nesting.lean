import SpringAtlas.Proofs.Pattern.Run
import SpringAtlas.Proofs.Source.Generics
import SpringAtlas.Proofs.Source.Splitting

/-!
# `Proofs.Source.Nesting` — generic sections with a bounded depth

A pattern cannot count, so a generic section is read with up to three levels. `nestsWithin` goes over a text once, with the
number of open brackets as its state, and says whether they are balanced and how deep they go. What it accepts has the
structure that the pattern follows: characters and sections, whose insides are nested one level less (`Nesting`). A section
of three levels is then read as a whole (`takes_section`), and no comma inside of it ends a piece (`Nesting.runsOver`).

## Contents
* `nestsWithin`, `Nesting`, `nesting_of_nestsWithin` — balanced texts of a bounded depth
* `Nesting.exists_pieces`, `takes_section` — sections are read as a whole
* `Nesting.runsOver` — commas inside of sections
-/

namespace SpringAtlas.Source

open Pattern

/-! ## Balanced texts -/

/-- The angle brackets are balanced, where `depth` of them are open, and never more than `limit` are. -/
def nestsWithin (limit : Nat) : Nat → List Char → Bool
  | depth, [] => depth == 0
  | depth, c :: cs =>
    if c == '<' then decide (depth < limit) && nestsWithin limit (depth + 1) cs
    else if c == '>' then decide (0 < depth) && nestsWithin limit (depth - 1) cs
    else nestsWithin limit depth cs

/-- A text of plain characters and of sections, which are nested `n` levels deep at most. -/
inductive Nesting : Nat → List Char → Prop
  | nil {n : Nat} : Nesting n []
  | plain {n : Nat} {c : Char} {cs : List Char} (hc : isAngle c = false) (h : Nesting n cs) : Nesting n (c :: cs)
  | inside {n : Nat} {inner cs : List Char} (hinner : Nesting n inner) (h : Nesting (n + 1) cs) :
      Nesting (n + 1) ('<' :: (inner ++ '>' :: cs))

variable {limit depth n : Nat} {cs inner rest : List Char}

theorem nestsWithin_plain {c : Char} (hc : isAngle c = false) (cs : List Char) :
    nestsWithin limit depth (c :: cs) = nestsWithin limit depth cs := by
  obtain ⟨hopen, hclose⟩ := Bool.or_eq_false_iff.1 hc
  rw [nestsWithin, hopen, if_neg Bool.false_ne_true, hclose, if_neg Bool.false_ne_true]

theorem nestsWithin_open : nestsWithin limit depth ('<' :: cs) ↔ depth < limit ∧ nestsWithin limit (depth + 1) cs := by
  show (decide (depth < limit) && nestsWithin limit (depth + 1) cs) = true ↔ _
  rw [Bool.and_eq_true, decide_eq_true_eq]

/-- An open section is closed somewhere: what stands in front of its closing bracket is nested within what the sections
    around it leave. By induction on the length of the text, since two parts of it are looked at one after the other. -/
theorem exists_close_of_nestsWithin (h : nestsWithin limit (depth + 1) cs) :
    ∃ inner rest, cs = inner ++ '>' :: rest ∧ Nesting (limit - (depth + 1)) inner ∧ nestsWithin limit depth rest := by
  induction hlength : cs.length using Nat.strongRecOn generalizing cs depth with
  | ind m ih =>
    subst hlength
    cases cs with
    | nil => cases h
    | cons c cs =>
      have hshorter : cs.length < (c :: cs).length := Nat.lt_succ_self _
      rcases angle_cases c with rfl | rfl | hc
      · obtain ⟨hroom, h⟩ := nestsWithin_open.1 h
        obtain ⟨inner, rest, rfl, hinner, hrest⟩ := ih _ hshorter h rfl
        have hrest' : rest.length < ('<' :: (inner ++ '>' :: rest)).length := by
          simp only [List.length_cons, List.length_append]
          omega
        obtain ⟨inner', rest', rfl, hinner', hclosed⟩ := ih _ hrest' hrest rfl
        obtain ⟨n, hn⟩ : ∃ n, limit - (depth + 1) = n + 1 := ⟨limit - (depth + 2), by omega⟩
        have hless : limit - (depth + 1 + 1) = n := by omega
        rw [hless] at hinner
        rw [hn] at hinner' ⊢
        exact ⟨'<' :: (inner ++ '>' :: inner'), rest', by simp, .inside hinner hinner', hclosed⟩
      · exact ⟨[], cs, rfl, .nil, h⟩
      · rw [nestsWithin_plain hc] at h
        obtain ⟨inner, rest, rfl, hinner, hrest⟩ := ih _ hshorter h rfl
        exact ⟨c :: inner, rest, rfl, .plain hc hinner, hrest⟩

/-- **A text that the scan accepts is nested.** -/
theorem nesting_of_nestsWithin (h : nestsWithin limit 0 cs) : Nesting limit cs := by
  induction hlength : cs.length using Nat.strongRecOn generalizing cs with
  | ind m ih =>
    subst hlength
    cases cs with
    | nil => exact .nil
    | cons c cs =>
      rcases angle_cases c with rfl | rfl | hc
      · obtain ⟨hroom, h⟩ := nestsWithin_open.1 h
        obtain ⟨inner, rest, rfl, hinner, hrest⟩ := exists_close_of_nestsWithin h
        obtain ⟨n, rfl⟩ : ∃ n, limit = n + 1 := ⟨limit - 1, by omega⟩
        have hshorter : rest.length < ('<' :: (inner ++ '>' :: rest)).length := by
          simp only [List.length_cons, List.length_append]
          omega
        exact .inside hinner (ih _ hshorter hrest rfl)
      · cases h
      · rw [nestsWithin_plain hc] at h
        exact .plain hc (ih _ (Nat.lt_succ_self _) h rfl)

/-! ## Sections are read as a whole -/

/-- What stands in a section with up to `n` further levels. -/
def nestedText : Nat → Pattern
  | 0 => except "<>"
  | n + 1 => except "<>" <|> lit "<" ++ star (nestedText n) ++ lit ">"

/-- A section with up to `n` further levels. -/
def sectionPattern (n : Nat) : Pattern :=
  lit "<" ++ star (nestedText n) ++ lit ">"

/-- The pattern of type arguments is an optional section with two more levels inside. -/
theorem generic_eq : generic = opt (sectionPattern 2) :=
  rfl

/-- A section with its brackets. -/
def bracketed (inner : List Char) : List Char :=
  '<' :: (inner ++ ['>'])

/-- A nested text is a sequence of plain characters and of sections of one level less. -/
theorem Nesting.exists_pieces (h : Nesting n cs) : ∃ ws : List (List Char), cs = ws.flatten ∧
    ∀ w ∈ ws, (∃ c, isAngle c = false ∧ w = [c]) ∨ ∃ m inner, n = m + 1 ∧ Nesting m inner ∧ w = bracketed inner := by
  induction h with
  | nil => exact ⟨[], rfl, List.forall_mem_nil _⟩
  | @plain n c cs hc _ ih =>
    obtain ⟨ws, rfl, hws⟩ := ih
    exact ⟨[c] :: ws, rfl, List.forall_mem_cons.2 ⟨Or.inl ⟨c, hc, rfl⟩, hws⟩⟩
  | @inside n inner cs hinner _ _ ih =>
    obtain ⟨ws, rfl, hws⟩ := ih
    refine ⟨bracketed inner :: ws, ?_, List.forall_mem_cons.2 ⟨Or.inr ⟨n, inner, rfl, hinner, rfl⟩, hws⟩⟩
    simp [bracketed]

theorem takes_plainChar {c : Cursor} {x : Char} (hx : isAngle x = false) (hrest : c.rest = x :: rest) :
    Takes (nestedText n) c (c.after [x] rest) := by
  have hok : (!"<>".toList.contains x) = true := by
    obtain ⟨hopen, hclose⟩ := Bool.or_eq_false_iff.1 hx
    simp only [beq_eq_false_iff_ne] at hopen hclose
    simp [hopen, hclose]
  cases n with
  | zero => exact takes_one hrest hok
  | succ n => exact Takes.left (takes_one hrest hok)

/-- A section is not left before its closing bracket. -/
theorem fails_nestedText_close {c : Cursor} (hrest : c.rest = '>' :: rest) : Fails (nestedText n) c := by
  have hplain : Fails (except "<>") c := fails_one (by rw [hrest]; rfl)
  cases n with
  | zero => exact hplain
  | succ n => exact hplain.alt (fails_lit (by simp [hrest])).seq.seq

/-- A section is read as a whole if the sections inside of it are. -/
theorem takes_section_of_inner (h : Nesting n inner) (hinner : ∀ m inner, n = m + 1 → Nesting m inner →
    ∀ (c : Cursor) (rest : List Char), c.rest = bracketed inner ++ rest →
      Takes (sectionPattern m) c (c.after (bracketed inner) rest))
    {c : Cursor} (hrest : c.rest = bracketed inner ++ rest) :
    Takes (sectionPattern n) c (c.after (bracketed inner) rest) := by
  obtain ⟨ws, rfl, hws⟩ := h.exists_pieces
  have hstep : ∀ w ∈ ws, w ≠ [] ∧ ∀ (d : Cursor) (rest' : List Char), d.rest = w ++ rest' →
      Takes (nestedText n) d (d.after w rest') := by
    intro w hw
    rcases hws w hw with ⟨x, hx, rfl⟩ | ⟨m, inner, rfl, hnested, rfl⟩
    · exact ⟨List.cons_ne_nil x [], fun d rest' hd => takes_plainChar hx hd⟩
    · refine ⟨List.cons_ne_nil '<' _, fun d rest' hd => ?_⟩
      have hopen : Fails (except "<>") d := fails_one (by rw [hd]; rfl)
      exact Takes.right hopen (hinner m inner rfl hnested d rest' hd)
  have hopen : c.rest = "<".toList ++ (ws.flatten ++ '>' :: rest) := by
    rw [hrest]
    simp [bracketed]
  have htakes := ((takes_lit "<" _ hopen).seq
    (takes_star_pieces rfl hstep (fails_nestedText_close rfl))).seq (takes_lit ">" rest rfl)
  have hend : ((c.after "<".toList (ws.flatten ++ '>' :: rest)).after ws.flatten ('>' :: rest)).after ">".toList rest =
      c.after (bracketed ws.flatten) rest := by
    rw [Cursor.after_after, Cursor.after_after]
    rfl
  rwa [hend] at htakes

/-- **A nested section is read as a whole**, by induction on the levels. -/
theorem takes_section (h : Nesting n inner) {c : Cursor} (hrest : c.rest = bracketed inner ++ rest) :
    Takes (sectionPattern n) c (c.after (bracketed inner) rest) := by
  induction n generalizing inner rest c with
  | zero => exact takes_section_of_inner h (fun m _ hm => absurd hm (Nat.succ_ne_zero m).symm) hrest
  | succ n ih =>
    refine takes_section_of_inner h (fun m inner hm hnested c rest hrest => ?_) hrest
    obtain rfl : n = m := Nat.succ.inj hm
    exact ih hnested hrest

/-! ## Commas inside of sections -/

/-- No comma inside of a section ends a piece. -/
theorem Nesting.runsOver {opens closes : Char → Bool} (hbracket : opens '<' = true ∧ opens '>' = false ∧ closes '>' = true)
    (h : Nesting n cs) (hplain : ∀ c ∈ cs, isAngle c = false → opens c = false ∧ closes c = false) {level : Int}
    (hlevel : 0 < level) : RunsOver opens closes level cs := by
  induction h generalizing level with
  | nil => exact runsOver_nil
  | @plain n c cs hc _ ih =>
    obtain ⟨hopen, hclose⟩ := hplain c List.mem_cons_self hc
    have hfirst : RunsOver opens closes level [c] := runsOver_singleton hopen hclose fun _ => Int.ne_of_gt hlevel
    exact hfirst.append (ih (fun d hd => hplain d (List.mem_cons_of_mem _ hd)) hlevel)
  | @inside n inner cs _ _ ihinner ih =>
    obtain ⟨hopen, hboth⟩ := hbracket
    have hsplit : '<' :: (inner ++ '>' :: cs) = bracketed inner ++ cs := by simp [bracketed]
    rw [hsplit] at hplain ⊢
    have hinner : RunsOver opens closes (level + 1) inner :=
      ihinner (fun d hd => hplain d (by simp [bracketed, hd])) (by omega)
    have hsection : RunsOver opens closes level (bracketed inner) :=
      hinner.enclosed hopen hboth ⟨by decide, by decide⟩
    exact hsection.append (ih (fun d hd => hplain d (List.mem_append_right _ hd)) hlevel)

end SpringAtlas.Source

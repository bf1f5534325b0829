import SpringAtlas.Proofs.Text.Lines
import SpringAtlas.Source.Generics

/-!
# `Proofs.Source.Splitting` — commas outside of brackets

A list is cut at the commas at depth zero, where `opens` and `closes` say what changes the depth. `RunsOver depth w` says that
the search for commas runs over `w` at the given depth without an end of a piece, and comes out at that depth. What it runs
over is put together piece by piece, and brackets let everything inside pass that passes one level deeper.

## Contents
* `RunsOver`, `RunsOver.append`, `runsOver_join` — texts without a comma to cut at
* `RunsOver.enclosed` — brackets
* `splitTopLevel_join` — a list is cut at its commas
-/

namespace SpringAtlas.Source

variable {opens closes : Char → Bool} {depth : Int} {w w' : List Char}

/-- The search for commas runs over the text at the given depth. -/
def RunsOver (opens closes : Char → Bool) (depth : Int) (w : List Char) : Prop :=
  ∀ current rest, splitTopLevel opens closes depth current (w ++ rest) =
    splitTopLevel opens closes depth (w.reverse ++ current) rest

/-- The search runs over nothing. -/
theorem runsOver_nil : RunsOver opens closes depth [] :=
  fun _ _ => rfl

/-- The search runs over two texts one after the other. -/
theorem RunsOver.append (h : RunsOver opens closes depth w) (h' : RunsOver opens closes depth w') :
    RunsOver opens closes depth (w ++ w') := by
  intro current rest
  rw [List.append_assoc, h, h', List.reverse_append, List.append_assoc]

/-- It runs over a character that is no bracket, unless that is a comma outside of brackets. -/
theorem runsOver_singleton {c : Char} (hopen : opens c = false) (hclose : closes c = false)
    (hcomma : c = ',' → depth ≠ 0) : RunsOver opens closes depth [c] := by
  intro current rest
  rw [List.singleton_append, splitTopLevel, hopen, hclose]
  have hsplit : (c == ',' && depth == 0) = false := by
    by_cases hc : c = ','
    · simp [hcomma hc]
    · simp [hc]
  simp only [Bool.false_eq_true, if_false, hsplit]
  rfl

/-- The search runs over a text without brackets and without commas that it would cut at. -/
theorem runsOver_of_forall (h : ∀ c ∈ w, opens c = false ∧ closes c = false ∧ (c = ',' → depth ≠ 0)) :
    RunsOver opens closes depth w := by
  induction w with
  | nil => exact runsOver_nil
  | cons c w ih =>
    obtain ⟨hopen, hclose, hcomma⟩ := h c List.mem_cons_self
    exact (runsOver_singleton hopen hclose hcomma).append (ih fun d hd => h d (List.mem_cons_of_mem _ hd))

/-- The search runs over joined texts if it runs over each of them and over what joins them. -/
theorem runsOver_join {sep : Char} (hsep : RunsOver opens closes depth [sep]) {ws : List (List Char)}
    (h : ∀ w ∈ ws, RunsOver opens closes depth w) : RunsOver opens closes depth (Text.join [sep] ws) := by
  induction ws with
  | nil => exact runsOver_nil
  | cons w ws ih =>
    have hw := h w List.mem_cons_self
    cases ws with
    | nil =>
      rw [Text.join_singleton]
      exact hw
    | cons w' ws =>
      rw [Text.join_cons_cons]
      exact hw.append (hsep.append (ih fun v hv => h v (List.mem_cons_of_mem _ hv)))

/-- A character at which a bracket opens or closes is no comma. -/
theorem splitTopLevel_bracket {c : Char} (hc : c ≠ ',') (current rest : List Char) :
    splitTopLevel opens closes depth current (c :: rest) =
      splitTopLevel opens closes (if opens c then depth + 1 else if closes c then depth - 1 else depth) (c :: current)
        rest := by
  rw [splitTopLevel]
  have hcomma : (c == ',') = false := by simpa using hc
  simp only [hcomma, Bool.false_and, Bool.false_eq_true, if_false]

/-- Inside of brackets it runs over everything that it runs over one level deeper. -/
theorem RunsOver.enclosed {a b : Char} (ha : opens a = true) (hb : opens b = false ∧ closes b = true)
    (hcomma : a ≠ ',' ∧ b ≠ ',') (h : RunsOver opens closes (depth + 1) w) : RunsOver opens closes depth (a :: (w ++ [b])) := by
  intro current rest
  rw [List.cons_append, List.append_assoc, List.singleton_append, splitTopLevel_bracket hcomma.1, if_pos ha, h,
    splitTopLevel_bracket hcomma.2, hb.1, if_neg Bool.false_ne_true, if_pos hb.2, Int.add_sub_cancel]
  simp

/-- **A list is cut at its commas**, if the search runs over its items. -/
theorem splitTopLevel_join {ws : List (List Char)} (hopen : opens ',' = false) (hclose : closes ',' = false) (hne : ws ≠ [])
    (h : ∀ w ∈ ws, RunsOver opens closes 0 w) :
    splitTopLevel opens closes 0 [] (Text.join [','] ws) = (ws.dropLast, ws.getLast hne) := by
  induction ws with
  | nil => exact absurd rfl hne
  | cons w ws ih =>
    have hw := h w List.mem_cons_self
    cases ws with
    | nil =>
      have hlast := hw [] []
      rw [List.append_nil, List.append_nil] at hlast
      rw [Text.join_singleton, hlast, splitTopLevel, List.reverse_reverse]
      rfl
    | cons w' ws =>
      have hcomma (current cs : List Char) : splitTopLevel opens closes 0 current (',' :: cs) =
          (current.reverse :: (splitTopLevel opens closes 0 [] cs).1, (splitTopLevel opens closes 0 [] cs).2) := by
        rw [splitTopLevel, hopen, hclose]
        rfl
      rw [Text.join_cons_cons, List.singleton_append, hw, hcomma,
        ih (List.cons_ne_nil _ _) fun v hv => h v (List.mem_cons_of_mem _ hv), List.append_nil, List.reverse_reverse]
      rfl

end SpringAtlas.Source

import SpringAtlas.Report.Cell

/-!
# `Proofs.Report.Table` — rows that keep their columns

A bar separates two cells unless it is escaped, which it is behind an odd number of backslashes. So a row has the columns of
its header if no cell holds an open bar or a line break. Text that goes through `cell` loses its line breaks, and each of
its bars gets one more backslash: what was open is escaped, and what was escaped is open.

## Contents
* `openBars`, `escapedBars` — the bars of a text, by the backslashes in front of them
* `Plain`, `Escapes`, `Inert` — texts that may stand in a cell, as they are or through `cell`
* `plain_cell_iff`, `plain_code_iff` — how cells are written
* `openBars_line`, `singleLine_line_iff`, `Table.KeepsColumns`, `keepsColumns_iff` — lines and tables
-/

namespace SpringAtlas.Report

/-! ## Bars -/

/-- The bars of a text that count by the number of backslashes directly in front of them; `n` backslashes stand in front
    of the text. -/
def bars (counts : Nat → Bool) : Nat → List Char → Nat
  | _, [] => 0
  | n, c :: cs =>
    if c = '\\' then bars counts (n + 1) cs
    else (if c = '|' ∧ counts n = true then 1 else 0) + bars counts 0 cs

/-- The number of bars behind an even number of backslashes. -/
def openBars (cs : List Char) : Nat :=
  bars (fun n => n % 2 == 0) 0 cs

/-- The number of bars behind an odd number of backslashes. -/
def escapedBars (cs : List Char) : Nat :=
  bars (fun n => n % 2 == 1) 0 cs

variable {counts : Nat → Bool} {n : Nat} {x : Char} {xs ys : List Char}

theorem bars_of_not_mem (h : '|' ∉ xs) : bars counts n xs = 0 := by
  induction xs generalizing n with
  | nil => rfl
  | cons x xs ih =>
    rw [List.mem_cons, not_or] at h
    rw [bars]
    split
    · exact ih h.2
    · rw [if_neg fun hbar => h.1 hbar.1.symm, ih h.2]

/-- A character that is neither a backslash nor a bar parts a text. -/
theorem bars_append_cons (hslash : x ≠ '\\') (hbar : x ≠ '|') :
    bars counts n (xs ++ x :: ys) = bars counts n xs + bars counts 0 ys := by
  induction xs generalizing n with
  | nil => simp [bars, hslash, hbar]
  | cons y xs ih =>
    rw [List.cons_append, bars, bars]
    split
    · exact ih
    · rw [ih, Nat.add_assoc]

/-! ## Texts -/

/-- A text that may stand in a cell as it is. -/
def Plain (s : String) : Prop :=
  '\n' ∉ s.toList ∧ openBars s.toList = 0

instance (s : String) : Decidable (Plain s) :=
  inferInstanceAs (Decidable (_ ∧ _))

/-- A text that may stand in a cell once it has gone through `cell`. -/
def Escapes (s : String) : Prop :=
  escapedBars s.toList = 0

instance (s : String) : Decidable (Escapes s) :=
  inferInstanceAs (Decidable (_ = _))

/-- A text without bars and line breaks. -/
structure Inert (cs : List Char) : Prop where
  bar : '|' ∉ cs
  newline : '\n' ∉ cs

instance (cs : List Char) : Decidable (Inert cs) :=
  decidable_of_iff ('|' ∉ cs ∧ '\n' ∉ cs) ⟨fun h => ⟨h.1, h.2⟩, fun h => ⟨h.bar, h.newline⟩⟩

/-- Inert texts one behind another are inert. -/
theorem Inert.append (hxs : Inert xs) (hys : Inert ys) : Inert (xs ++ ys) where
  bar := by simp [hxs.bar, hys.bar]
  newline := by simp [hxs.newline, hys.newline]

/-- Parts of an inert text are inert. -/
theorem Inert.of_subset (h : Inert ys) (hsub : xs ⊆ ys) : Inert xs :=
  ⟨fun hmem => h.bar (hsub hmem), fun hmem => h.newline (hsub hmem)⟩

/-- A text of one class is inert if the class holds neither the bar nor the line break. -/
theorem Inert.of_forall (ok : Char → Bool) (h : ∀ c ∈ xs, ok c = true) (hbar : ok '|' = false)
    (hnewline : ok '\n' = false) : Inert xs where
  bar hmem := by
    rw [h _ hmem] at hbar
    cases hbar
  newline hmem := by
    rw [h _ hmem] at hnewline
    cases hnewline

/-- An inert text can be shown as it is. -/
theorem Inert.plain {s : String} (h : Inert s.toList) : Plain s :=
  ⟨h.newline, bars_of_not_mem h.bar⟩

/-- A text without bars keeps its cell through the filter. -/
theorem escapes_of_not_mem {s : String} (h : '|' ∉ s.toList) : Escapes s :=
  bars_of_not_mem h

/-! ## Cells -/

/-- The text of a cell, character by character. -/
def escape (cs : List Char) : List Char :=
  cs.flatMap fun c => if c == '|' then ['\\', '|'] else if c == '\n' then [' '] else [c]

theorem escape_cons : escape (x :: xs) =
    (if x == '|' then ['\\', '|'] else if x == '\n' then [' '] else [x]) ++ escape xs :=
  List.flatMap_cons

/-- One more backslash turns the bars around. -/
theorem bars_escape : bars (fun n => n % 2 == 0) n (escape xs) = bars (fun n => n % 2 == 1) n xs := by
  induction xs generalizing n with
  | nil => rfl
  | cons x xs ih =>
    have hparity : ((n + 1) % 2 == 0) = (n % 2 == 1) := by
      rw [Bool.eq_iff_iff, beq_iff_eq, beq_iff_eq]
      omega
    rw [escape_cons]
    by_cases hbar : x = '|'
    · subst hbar
      simp [bars, ih, hparity]
    · by_cases hnewline : x = '\n'
      · subst hnewline
        simp [bars, ih]
      · simp [bars, ih, hbar, hnewline]

theorem newline_not_mem_escape : '\n' ∉ escape xs := by
  intro h
  obtain ⟨c, -, hc⟩ := List.mem_flatMap.1 h
  split at hc
  · simp at hc
  · split at hc
    · simp at hc
    · next hnewline =>
      rw [List.mem_singleton] at hc
      exact hnewline (by simp [← hc])

theorem toList_cell (s : String) : (cell s).toList = if s.isEmpty then ['-'] else escape s.toList := by
  unfold cell
  split
  · rfl
  · rw [String.toList_ofList]
    rfl

/-- **A text may go through `cell` into a table** unless it has a bar that is escaped already. -/
theorem plain_cell_iff {s : String} : Plain (cell s) ↔ Escapes s := by
  unfold Plain Escapes openBars escapedBars
  rw [toList_cell]
  split
  · next hempty =>
    rw [String.isEmpty_iff] at hempty
    rw [hempty]
    decide
  · rw [bars_escape]
    exact and_iff_right newline_not_mem_escape

/-- A cell that may be empty is plain if its text, where there is one, keeps its cell. -/
theorem plain_cell?_iff {s : Option String} : Plain (cell? s) ↔ ∀ t, s = some t → Escapes t := by
  rw [cell?, plain_cell_iff]
  cases s with
  | none =>
    refine iff_of_true (escapes_of_not_mem ?_) fun t ht => ?_
    · simp
    · cases ht
  | some t => simp

instance (s : Option String) : Decidable (∀ t, s = some t → Escapes t) :=
  decidable_of_iff _ plain_cell?_iff

theorem toList_code (s : String) : (code s).toList = Char.ofNat 96 :: (s.toList ++ [Char.ofNat 96]) := by
  simp [code]

/-- Code is as plain as its text. -/
theorem plain_code_iff {s : String} : Plain (code s) ↔ Plain s := by
  have hbars : openBars (Char.ofNat 96 :: (s.toList ++ [Char.ofNat 96])) = openBars s.toList := by
    have hfirst : openBars (Char.ofNat 96 :: (s.toList ++ [Char.ofNat 96])) =
        openBars (s.toList ++ [Char.ofNat 96]) := by
      unfold openBars
      rw [bars, if_neg (by decide), if_neg (by decide), Nat.zero_add]
    rw [hfirst]
    unfold openBars
    rw [bars_append_cons (by decide) (by decide), bars, Nat.add_zero]
  unfold Plain
  rw [toList_code, hbars]
  simp

/-! ## Lines -/

/-- The text ends with its only line break. -/
def SingleLine (cs : List Char) : Prop :=
  ∃ body, cs = body ++ ['\n'] ∧ '\n' ∉ body

namespace Table

variable {cells : List String}

/-- The cells of a line without the bar in front of them. -/
def lineBody (cells : List String) : List Char :=
  " | ".toList.intercalate (cells.map String.toList) ++ " |".toList

theorem toList_line (cells : List String) : (line cells).toList = "| ".toList ++ lineBody cells ++ ['\n'] := by
  simp [line, lineBody, String.toList_intercalate]

/-- The open bars of some cells together. -/
def cellBars : List String → Nat
  | [] => 0
  | c :: cells => openBars c.toList + cellBars cells

theorem cellBars_eq_zero_iff : cellBars cells = 0 ↔ ∀ c ∈ cells, openBars c.toList = 0 := by
  induction cells with
  | nil => simp [cellBars]
  | cons c cells ih => rw [cellBars, Nat.add_eq_zero_iff, ih, List.forall_mem_cons]

theorem openBars_lineBody (hne : cells ≠ []) :
    openBars (lineBody cells ++ ['\n']) = cells.length + cellBars cells := by
  induction cells with
  | nil => exact absurd rfl hne
  | cons c cells ih =>
    cases cells with
    | nil =>
      have hbody : lineBody [c] ++ ['\n'] = c.toList ++ ' ' :: ['|', '\n'] := by simp [lineBody]
      have hend : bars (fun n => n % 2 == 0) 0 ['|', '\n'] = 1 := by decide
      rw [hbody]
      unfold openBars
      rw [bars_append_cons (by decide) (by decide), hend, Nat.add_comm]
      rfl
    | cons c' cells =>
      have hbody : lineBody (c :: c' :: cells) ++ ['\n'] =
          c.toList ++ ' ' :: '|' :: ' ' :: (lineBody (c' :: cells) ++ ['\n']) := by
        simp [lineBody, List.intercalate_cons_cons]
      have hbar : ∀ cs, bars (fun n => n % 2 == 0) 0 ('|' :: ' ' :: cs) = 1 + bars (fun n => n % 2 == 0) 0 cs := by
        simp [bars]
      have hrest := ih (List.cons_ne_nil c' cells)
      unfold openBars at hrest
      rw [hbody, openBars, bars_append_cons (by decide) (by decide), hbar, hrest]
      simp only [cellBars, List.length_cons, openBars]
      omega

/-- A line has one bar more than cells, and those of the cells. -/
theorem openBars_line (hne : cells ≠ []) :
    openBars (line cells).toList = cells.length + 1 + cellBars cells := by
  have hbar : ∀ cs, openBars ("| ".toList ++ cs) = 1 + openBars cs := by simp [openBars, bars]
  rw [toList_line, List.append_assoc, hbar, openBars_lineBody hne]
  omega

theorem mem_intercalate_iff {sep : List Char} {pieces : List (List Char)} (hsep : x ∉ sep) :
    x ∈ sep.intercalate pieces ↔ ∃ piece ∈ pieces, x ∈ piece := by
  induction pieces with
  | nil => simp
  | cons p pieces ih =>
    cases pieces with
    | nil => simp
    | cons p' pieces =>
      rw [List.intercalate_cons_cons, List.mem_append, List.mem_append, ih]
      simp [hsep]

theorem singleLine_line_iff : SingleLine (line cells).toList ↔ ∀ c ∈ cells, '\n' ∉ c.toList := by
  have hbody : '\n' ∉ "| ".toList ++ lineBody cells ↔ ∀ c ∈ cells, '\n' ∉ c.toList := by
    unfold lineBody
    simp [mem_intercalate_iff]
  rw [toList_line, ← hbody]
  constructor
  · rintro ⟨body, heq, hbody⟩
    rw [List.append_cancel_right heq]
    exact hbody
  · intro h
    exact ⟨_, rfl, h⟩

/-- Every row of a table is a single line with as many open bars as the header. -/
def KeepsColumns (t : Table) : Prop :=
  ∀ row ∈ t.rows, SingleLine (line row).toList ∧ openBars (line row).toList = openBars (line t.header).toList

/-- **A table keeps its columns if its cells are plain.** -/
theorem keepsColumns_iff {header : List String} {rows : List (List String)}
    (hheader : header ≠ [] ∧ ∀ h ∈ header, Plain h) (hwidth : ∀ row ∈ rows, row.length = header.length) :
    KeepsColumns ⟨header, rows⟩ ↔ ∀ row ∈ rows, ∀ c ∈ row, Plain c := by
  have hnone : cellBars header = 0 := cellBars_eq_zero_iff.2 fun h hh => (hheader.2 h hh).2
  refine forall₂_congr fun row hrow => ?_
  have hne : row ≠ [] := by
    intro hnil
    refine hheader.1 (List.eq_nil_of_length_eq_zero ?_)
    rw [← hwidth row hrow, hnil]
    rfl
  rw [singleLine_line_iff, openBars_line hheader.1, openBars_line hne, hwidth row hrow, hnone,
    Nat.add_left_cancel_iff, cellBars_eq_zero_iff]
  simp only [Plain, forall_and]

/-- A table with a row for each item. -/
theorem keepsColumns_map_iff {α : Type} {header : List String} {xs : List α} {row : α → List String}
    (hheader : header ≠ [] ∧ ∀ h ∈ header, Plain h) (hwidth : ∀ x, (row x).length = header.length) :
    KeepsColumns ⟨header, xs.map row⟩ ↔ ∀ x ∈ xs, ∀ c ∈ row x, Plain c := by
  rw [keepsColumns_iff hheader]
  · simp only [List.forall_mem_map]
  · simp only [List.forall_mem_map]
    exact fun x _ => hwidth x

end Table

end SpringAtlas.Report

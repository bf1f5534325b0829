import SpringAtlas.Calendar.Iso
import SpringAtlas.Text.Search

/-!
# `Report.Cell` — tables in a report

A table is written as a header, a rule and one line a row, with bars between the cells. Text that may hold bars or
line breaks goes through `cell`.

## Contents
* `cell`, `cell?` — a text made fit for a table
* `Table`, `Table.write`
* `dateText` — the time shown in a report
-/

namespace SpringAtlas.Report

/-- A text for a table: bars are escaped, line breaks become spaces, and nothing is shown as a dash. -/
def cell (s : String) : String :=
  if s.isEmpty then "-"
  else String.ofList (s.toList.flatMap fun c =>
    if c == '|' then ['\\', '|'] else if c == '\n' then [' '] else [c])

def cell? (s : Option String) : String :=
  cell (s.getD "")

/-- A text set as code. -/
def code (s : String) : String :=
  String.singleton (Char.ofNat 96) ++ s ++ String.singleton (Char.ofNat 96)

/-! ## Tables -/

structure Table where
  header : List String
  rows : List (List String)
deriving Repr, BEq

namespace Table

/-- Cells on a line. -/
def line (cells : List String) : String :=
  "| " ++ " | ".intercalate cells ++ " |\n"

/-- The line below the header, as wide as the header. -/
def rule (header : List String) : String :=
  "|" ++ "|".intercalate (header.map fun h => String.ofList (List.replicate (h.length + 2) '-')) ++ "|\n"

def write (t : Table) : String :=
  line t.header ++ rule t.header ++ String.join (t.rows.map line)

end Table

/-! ## Times -/

/-- A time as a report shows it; the offset is not taken into account. -/
def timeText (t : Timestamp) : String :=
  toString t.date.year ++ "-" ++ padded 2 t.date.month ++ "-" ++ padded 2 t.date.day ++ " " ++
  t.writeClock ++ " UTC"

/-- A written time as a report shows it; what is no time is shown as it stands. -/
def dateText (s : Option String) : String :=
  match s with
  | none => "N/A"
  | some s =>
    match Timestamp.parseIso s with
    | .ok t => timeText t
    | .error _ => s

end SpringAtlas.Report

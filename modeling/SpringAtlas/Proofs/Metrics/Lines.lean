import SpringAtlas.Metrics.Lines
import SpringAtlas.Proofs.Text.Breaks

/-!
# `Proofs.Metrics.Lines` — lines are counted once, and part by part

The scanner looks at one line at a time, and all that it carries from line to line is whether a block comment is open. So the
kinds of the lines of two parts of a text are the kinds of the first part followed by those of the second one, scanned from
the state that the first part leaves behind (`lineKinds_append`). If that state is the one in which a text starts, the second
part counts as if it stood alone. Where the parts are cut matters too: a newline has to stand there, or a line would lie
across the cut.

## Contents
* `openBehind`, `lineKinds_append` — the state behind some lines
* `LineCounts.append`, `countLines_append` — counts of two parts
* `countLines_partitions_and_composes`
-/

namespace SpringAtlas

/-! ## The scanner -/

/-- Whether a block comment is open behind some trimmed lines. -/
def openBehind (inComment : Bool) (lines : List (List Char)) : Bool :=
  lines.foldl (fun before line => (lineKind before line).2) inComment

theorem lineKinds_append (inComment : Bool) (ls ms : List (List Char)) :
    lineKinds inComment (ls ++ ms) = lineKinds inComment ls ++ lineKinds (openBehind inComment ls) ms := by
  induction ls generalizing inComment with
  | nil => rfl
  | cons l ls ih =>
    show (lineKind inComment l).1 :: lineKinds (lineKind inComment l).2 (ls ++ ms) = _
    rw [ih]
    rfl

/-- Every line has a kind. -/
theorem length_lineKinds (inComment : Bool) (ls : List (List Char)) : (lineKinds inComment ls).length = ls.length := by
  induction ls generalizing inComment with
  | nil => rfl
  | cons l ls ih =>
    show (lineKinds (lineKind inComment l).2 ls).length + 1 = _
    rw [ih]
    rfl

/-- Every kind is one of the three. -/
theorem count_kinds (kinds : List LineKind) :
    kinds.length = kinds.count .code + kinds.count .comment + kinds.count .blank := by
  induction kinds with
  | nil => rfl
  | cons kind kinds ih =>
    simp only [List.length_cons, List.count_cons]
    cases kind <;> simp +decide only [ih, if_true, if_false] <;> omega

/-! ## Counts of parts -/

/-- The lines of a text as they are scanned. -/
def trimmedLines (text : List Char) : List (List Char) :=
  (Text.splitLines text).map Text.trim

/-- Whether a block comment is open behind a text. -/
def opensComment (text : List Char) : Bool :=
  openBehind false (trimmedLines text)

/-- The counts of two parts together. -/
def LineCounts.append (m n : LineCounts) : LineCounts where
  total := m.total + n.total
  code := m.code + n.code
  comment := m.comment + n.comment
  blank := m.blank + n.blank
  packages := m.packages ++ n.packages

theorem total_countLines (text : List Char) : (countLines text).total = (Text.splitLines text).length := by
  show (lineKinds false (trimmedLines text)).length = _
  rw [length_lineKinds, trimmedLines, List.length_map]

theorem countLines_append {a b : List Char} (hend : Text.EndsLine a) (hopen : opensComment a = false) :
    countLines (a ++ b) = (countLines a).append (countLines b) := by
  have hlines : trimmedLines (a ++ b) = trimmedLines a ++ trimmedLines b := by
    rw [trimmedLines, Text.splitLines_append_of_endsLine hend, List.map_append]
    rfl
  have hkinds : lineKinds false (trimmedLines (a ++ b)) =
      lineKinds false (trimmedLines a) ++ lineKinds false (trimmedLines b) := by
    have hstate : openBehind false (trimmedLines a) = false := hopen
    rw [hlines, lineKinds_append, hstate]
  have hpackages : ((trimmedLines (a ++ b)).filterMap declaredPackage?).map String.ofList =
      ((trimmedLines a).filterMap declaredPackage?).map String.ofList ++
        ((trimmedLines b).filterMap declaredPackage?).map String.ofList := by
    rw [hlines, List.filterMap_append, List.map_append]
  have hcount (kind : LineKind) : (lineKinds false (trimmedLines (a ++ b))).count kind =
      (lineKinds false (trimmedLines a)).count kind + (lineKinds false (trimmedLines b)).count kind := by
    rw [hkinds, List.count_append]
  have htotal : (lineKinds false (trimmedLines (a ++ b))).length =
      (lineKinds false (trimmedLines a)).length + (lineKinds false (trimmedLines b)).length := by
    rw [hkinds, List.length_append]
  show LineCounts.mk (lineKinds false (trimmedLines (a ++ b))).length
      ((lineKinds false (trimmedLines (a ++ b))).count .code) ((lineKinds false (trimmedLines (a ++ b))).count .comment)
      ((lineKinds false (trimmedLines (a ++ b))).count .blank)
      (((trimmedLines (a ++ b)).filterMap declaredPackage?).map String.ofList) = _
  rw [htotal, hcount, hcount, hcount, hpackages]
  rfl

/-- **Every line is counted once, under one kind, and the counts of a text are the sums of the counts of its parts** where
    it is cut behind a line and outside of block comments. -/
theorem countLines_partitions_and_composes :
    (∀ text : List Char,
      (∃ ls, (∀ ls', Text.CutsInto text ls' ↔ ls' = ls) ∧ (countLines text).total = ls.length) ∧
      (countLines text).total = (countLines text).code + (countLines text).comment + (countLines text).blank) ∧
    ∀ a b : List Char, Text.EndsLine a → opensComment a = false →
      countLines (a ++ b) = (countLines a).append (countLines b) := by
  refine ⟨fun text => ⟨?_, ?_⟩, fun a b hend hopen => countLines_append hend hopen⟩
  · exact ⟨Text.splitLines text, fun _ => Text.cutsInto_iff, total_countLines text⟩
  · exact count_kinds _

/-- Behind a comment that ends on its second line the scanner starts afresh. -/
theorem countLines_partitions_and_composes_closedComment :
    Text.EndsLine "/* a\r\n*/\npackage p;\n".toList ∧ opensComment "/* a\r\n*/\npackage p;\n".toList = false ∧
    countLines ("/* a\r\n*/\npackage p;\n".toList ++ "\n// b".toList) =
      (countLines "/* a\r\n*/\npackage p;\n".toList).append (countLines "\n// b".toList) := by
  have hend : Text.EndsLine "/* a\r\n*/\npackage p;\n".toList := Or.inr (by decide)
  have hopen : opensComment "/* a\r\n*/\npackage p;\n".toList = false := by decide
  exact ⟨hend, hopen, countLines_partitions_and_composes.2 _ _ hend hopen⟩

end SpringAtlas

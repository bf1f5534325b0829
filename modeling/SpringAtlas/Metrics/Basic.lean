import SpringAtlas.Corpus.Basic
import SpringAtlas.Decimal.Shortest
import SpringAtlas.Fact.Basic
import SpringAtlas.Metrics.Lines
import SpringAtlas.Metrics.Packages
import SpringAtlas.Total

/-!
# `Metrics.Basic` — size and shape of a code base

Line counts and packages come from the source files, averages and maxima from the facts. Averages are rounded
half up to two places.
-/

namespace SpringAtlas

/-- Why there are no metrics. -/
inductive MetricsError where
  /-- a package name without a root, under which its tree does not end -/
  | endlessTree
  | divisionByZero
  /-- a mean beyond the range of a double -/
  | overflow
  /-- a mean with more digits than rounding keeps -/
  | imprecise
deriving Repr, BEq, DecidableEq

/-- Whether a number rounded to two places has at most 28 digits. -/
def isRoundable : Double → Bool
  | .finite _ 0 _ => true
  | .finite _ m e =>
    let r := (shortest m e).ratio
    decide (roundHalfUp (r.1 * 100) r.2 < Nat.pow 10 28)
  | _ => false

/-- A quotient rounded half up to two places. -/
def mean (num den : Int) : Except MetricsError Double :=
  if den = 0 then .error .divisionByZero
  else
    match Double.ofRatioInt num den with
    | .infinite _ => .error .overflow
    | x => if isRoundable x then .ok (x.roundPlaces 2) else .error .imprecise

/-! ## Metrics -/

structure CodeMetrics where
  totalFiles : Nat := 0
  totalLines : Nat := 0
  codeLines : Nat := 0
  commentLines : Nat := 0
  blankLines : Nat := 0
  totalPackages : Nat := 0
  /-- the largest number of dots in a package name -/
  maxPackageDepth : Nat := 0
  avgFields : Double := .finite false 0 0
  avgMethods : Double := .finite false 0 0
  maxFields : Int := 0
  maxMethods : Int := 0
  packageStructure : String := ""
deriving Repr

def CodeMetrics.toJson (m : CodeMetrics) : Json :=
  .obj [("total_files", .nat m.totalFiles), ("total_lines", .nat m.totalLines),
    ("code_lines", .nat m.codeLines), ("comment_lines", .nat m.commentLines),
    ("blank_lines", .nat m.blankLines), ("total_packages", .nat m.totalPackages),
    ("max_package_depth", .nat m.maxPackageDepth), ("avg_fields_per_class", .decimal m.avgFields.write),
    ("avg_methods_per_class", .decimal m.avgMethods.write), ("max_fields_in_class", .int m.maxFields),
    ("max_methods_in_class", .int m.maxMethods), ("package_structure", .str m.packageStructure)]

/-- The greatest of some numbers, zero if there are none. -/
def greatest : List Int → Int
  | [] => 0
  | x :: xs => xs.foldl max x

/-- The metrics of the files alone. -/
def fileMetrics (counts : List LineCounts) : Except MetricsError CodeMetrics :=
  let packages := Text.distinct (counts.flatMap LineCounts.packages)
  match packageTree? packages with
  | none => .error .endlessTree
  | some tree => .ok {
      totalFiles := counts.length
      totalLines := total (counts.map LineCounts.total)
      codeLines := total (counts.map LineCounts.code)
      commentLines := total (counts.map LineCounts.comment)
      blankLines := total (counts.map LineCounts.blank)
      totalPackages := packages.length
      maxPackageDepth := (packages.map fun p => p.toList.count '.').foldl max 0
      packageStructure := tree }

/-- The metrics with the averages and maxima of some facts. -/
def CodeMetrics.withFacts (m : CodeMetrics) (facts : List ClassFact) : Except MetricsError CodeMetrics :=
  if facts.isEmpty then .ok m
  else do
    let fields := facts.map ClassFact.fieldCount
    let methods := facts.map ClassFact.methodCount
    return { m with
      avgFields := ← mean (fields.foldl (· + ·) 0) fields.length
      avgMethods := ← mean (methods.foldl (· + ·) 0) methods.length
      maxFields := greatest fields
      maxMethods := greatest methods }

/-- The metrics of a corpus and the facts of its classes. -/
def codeMetrics (c : Corpus) (facts : List ClassFact) : Except MetricsError CodeMetrics := do
  let m ← fileMetrics (c.javaFiles.map fun f => countLines f.chars)
  m.withFacts facts

end SpringAtlas

import SpringAtlas.Json

/-!
# `Problem` — what went wrong without stopping a run

A failure in one file does not stop the analysis: it is recorded as a `Problem` and the work goes on. Only a
cancellation passes through.

## Contents
* `Problem` — one recorded failure
* `Interruption` — how a piece of work can end early
* `Recorder`, `Recorder.guard` — the problems of one component of the analysis
-/

namespace SpringAtlas

/-- A failure that the analysis recorded. -/
structure Problem where
  component : String
  message : String
  filePath : Option String := none
  /-- whether the analysis went on -/
  recoverable : Bool := true
deriving Repr, BEq, DecidableEq

namespace Problem

def toJson (p : Problem) : Json :=
  .obj [("component", .str p.component), ("message", .str p.message),
    ("file_path", .ofOption p.filePath), ("recoverable", .bool p.recoverable)]

/-- The problem that a labelled piece of work failed on a settings file. The reason is left out: a fault is told in the
    words of the reader that met it, which differ from reader to reader and which nothing here looks at. -/
def failed (component label : String) (filePath : Option String) : Problem :=
  { component, message := label ++ " failed", filePath }

/-- The problem that a labelled piece of work failed, with a reason. -/
def failedWith (component label reason : String) (filePath : Option String) : Problem :=
  { component, message := label ++ " failed: " ++ reason, filePath }

end Problem

/-- How a piece of work can end early. -/
inductive Interruption where
  | cancelled
  | failure (reason : String)
deriving Repr, BEq, DecidableEq

def cancelledMessage : String :=
  "Analysis cancelled"

/-- The problems that one component of the analysis has met. -/
structure Recorder where
  component : String
  problems : List Problem := []
deriving Repr, BEq

namespace Recorder

def record (r : Recorder) (message : String) (filePath : Option String) : Recorder :=
  { r with problems := r.problems ++ [{ component := r.component, message, filePath }] }

/-- The result of a piece of work: a failure is recorded and gives none, a cancellation stays one. -/
def guard {α : Type} (r : Recorder) (label : String) (filePath : Option String)
    (work : Except Interruption α) : Except Interruption (Option α × Recorder) :=
  match work with
  | .ok a => .ok (some a, r)
  | .error (.failure reason) => .ok (none, r.record (label ++ " failed: " ++ reason) filePath)
  | .error .cancelled => .error .cancelled

end Recorder

end SpringAtlas

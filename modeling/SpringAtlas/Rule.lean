/-!
# `Rule` — ordered classification tables

Stereotypes, module roles and data-flow buckets are decided by tables of rules: the first rule whose test holds
gives the outcome. Keeping rules as data keeps their precedence in one place.
-/

namespace SpringAtlas

/-- One entry of a table. -/
structure Rule (σ ο : Type) where
  name : String
  test : σ → Bool
  outcome : ο

/-- Rules in order of precedence, and the outcome when none applies. -/
structure RuleTable (σ ο : Type) where
  rules : List (Rule σ ο)
  fallback : ο

namespace RuleTable

variable {σ ο : Type}

/-- The first rule that applies. -/
def rule? (t : RuleTable σ ο) (subject : σ) : Option (Rule σ ο) :=
  t.rules.find? fun r => r.test subject

def classify (t : RuleTable σ ο) (subject : σ) : ο :=
  match t.rule? subject with
  | some r => r.outcome
  | none => t.fallback

end RuleTable

end SpringAtlas

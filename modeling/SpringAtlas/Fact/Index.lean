import SpringAtlas.Fact.Basic

/-!
# `Fact.Index` — facts by simple name

Other files refer to a type by its simple name. The index keeps, for each name, the first fact that has it;
later facts of the same name are only listed as duplicates.
-/

namespace SpringAtlas

/-- Facts with distinct names, in order, and the names that were met again. -/
structure NameIndex where
  entries : List ClassFact
  duplicates : List String
deriving Repr, BEq

namespace NameIndex

def find? (index : NameIndex) (name : String) : Option ClassFact :=
  index.entries.find? fun f => f.name == name

def insert (index : NameIndex) (f : ClassFact) : NameIndex :=
  if (index.find? f.name).isSome then { index with duplicates := index.duplicates ++ [f.name] }
  else { index with entries := index.entries ++ [f] }

def ofFacts (facts : List ClassFact) : NameIndex :=
  facts.foldl insert ⟨[], []⟩

/-- The fact that a reference names; the empty reference names none. -/
def resolve (index : NameIndex) (name : String) : Option ClassFact :=
  if name.isEmpty then none else index.find? name

def names (index : NameIndex) : List String :=
  index.entries.map ClassFact.name

end NameIndex

end SpringAtlas

import SpringAtlas.Corpus.Basic
import SpringAtlas.Relation.Scan

/-!
# `Relation.Build` — the relations of a corpus

The relations of the files are merged in the order of the corpus. A relation of one kind between two classes is
kept once, and a plain field makes a relation only where the two classes are not linked already.
-/

namespace SpringAtlas

def Relation.links (r : Relation) (source target : String) : Bool :=
  r.source == source && r.target == target

/-- Adds a relation unless one of its kind links the two classes. -/
def addStrong (found : List Relation) (r : Relation) : List Relation :=
  if found.any fun q => q.links r.source r.target && q.kind == r.kind then found else found ++ [r]

/-- Adds a relation unless the two classes are linked. -/
def addWeak (found : List Relation) (r : Relation) : List Relation :=
  if found.any fun q => q.links r.source r.target then found else found ++ [r]

/-- Adds the relations of a file. -/
def addFile (found : List Relation) (file : FileRelations) : List Relation :=
  file.weak.foldl addWeak (file.strong.foldl addStrong found)

/-- The relations of some source texts. -/
def relationsOfTexts (index : NameIndex) (lookahead : Int) (texts : List (List Char)) : List Relation :=
  (texts.filterMap (scanRelations index lookahead)).foldl addFile []

/-- The relations that the source files of a corpus show between the classes of an index. -/
def relations (index : NameIndex) (lookahead : Int) (corpus : Corpus) : List Relation :=
  relationsOfTexts index lookahead (corpus.javaFiles.map SourceFile.chars)

end SpringAtlas

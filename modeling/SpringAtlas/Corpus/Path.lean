import SpringAtlas.Text.Case
import SpringAtlas.Text.Search

/-!
# `Corpus.Path` — paths inside a corpus

Files are named by paths relative to the root of the corpus, with forward slashes. The *parts* of a path are
the pieces between slashes, without empty ones and without the piece `.`.
-/

namespace SpringAtlas.Path

/-- Removes the piece `./` from the front, as often as it stands there. -/
def dropHere : List Char → List Char
  | '.' :: '/' :: cs => dropHere cs
  | cs => cs

/-- Forward slashes, and none and no `./` in front. -/
def normalize (path : List Char) : List Char :=
  (dropHere (path.map fun c => if c == '\\' then '/' else c)).dropWhile (· == '/')

/-- The pieces between slashes that name something. -/
def parts (path : List Char) : List (List Char) :=
  (Text.splitWhere (· == '/') path).filter fun p => !(p.isEmpty || p == ['.'])

/-- A path in its shortest form with the same parts. -/
def tidy (path : List Char) : List Char :=
  let short := Text.join ['/'] (parts path)
  if path.head? == some '/' then '/' :: short else if short.isEmpty then ['.'] else short

/-- The last part, empty if there is none. -/
def fileName (path : List Char) : List Char :=
  ((parts path).getLast?).getD []

/-- A name cut before its last dot, if something stands on both sides of the dot. -/
def splitSuffix (name : List Char) : List Char × List Char :=
  let i := Text.afterLast (· == '.') name
  if 1 < i && i < name.length then (name.take (i - 1), name.drop (i - 1)) else (name, [])

/-- The extension of the last part, in lower case, with its dot. -/
def suffix (path : List Char) : List Char :=
  Text.lower (splitSuffix (fileName path)).2

/-- The last part without its extension. -/
def stem (path : List Char) : List Char :=
  (splitSuffix (fileName path)).1

/-- The directory of a path, empty for the root. -/
def directory (path : List Char) : List Char :=
  Text.join ['/'] (parts path).dropLast

/-- Whether a path lies in a test source set. -/
def isTest (path : List Char) : Bool :=
  (parts (normalize path)).any fun p => p == "test".toList || p == "tests".toList

end SpringAtlas.Path

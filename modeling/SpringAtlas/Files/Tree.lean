import SpringAtlas.Corpus.Path
import SpringAtlas.Text.Utf8

/-!
# `Files.Tree` — directory trees

A tree holds files by their paths below one directory, each path a list of names. Directories exist because
something lies in them, or because they are listed themselves. Written paths start from the *home* of the tree, the
working directory, and may lead out of it as far as the tree goes.

## Contents
* `FileTree`, `FileTree.isDirectory`, `FileTree.content?`
* `FileTree.resolve?`, `FileTree.resolveWritten?` — where a path leads
* `FileTree.put`, `FileTree.writeFile` — writing
* `FileTree.walk` — the files below a directory, in the order of a walk
* `decodeText` — the text of a file
-/

namespace SpringAtlas

/-- What a path of a tree leads to. -/
inductive FileNode where
  | file (content : ByteArray)
  | directory

structure FileTree where
  /-- the working directory -/
  home : List String := []
  entries : List (List String × FileNode) := []

namespace FileTree

/-- A tree with a working directory, given by what lies in that. -/
def ofHome (home : List String) (entries : List (List String × FileNode)) : FileTree :=
  { home, entries := entries.map fun e => (home ++ e.1, e.2) }

/-! ## Looking up -/

/-- The bytes of a file. -/
def content? (t : FileTree) (path : List String) : Option ByteArray :=
  t.entries.findSome? fun (p, node) =>
    match node with
    | .file content => if p == path then some content else none
    | .directory => none

def isFile (t : FileTree) (path : List String) : Bool :=
  (t.content? path).isSome

def isDirectory (t : FileTree) (path : List String) : Bool :=
  path.isPrefixOf t.home || t.entries.any fun (p, node) =>
    match node with
    | .file _ => path.isPrefixOf p && path.length < p.length
    | .directory => path.isPrefixOf p

def contains (t : FileTree) (path : List String) : Bool :=
  t.isFile path || t.isDirectory path

/-- A path as seen from the working directory, if it lies in there. -/
def fromHome? (t : FileTree) (path : List String) : Option (List String) :=
  if t.home.isPrefixOf path then some (path.drop t.home.length) else none

/-! ## Following paths -/

/-- The names in a path; an absolute path lies outside of every tree. -/
def names? (path : String) : Option (List String) :=
  if path.toList.head? == some '/' then none
  else some ((Path.parts path.toList).map String.ofList)

/-- The names in a path as it is written. What stands behind the last slash is there even if it is empty. -/
def writtenNames? (path : String) : Option (List String) :=
  let pieces := (Text.splitWhere (· == '/') path.toList).map String.ofList
  if path.toList.head? == some '/' then none
  else some (pieces.dropLast.filter (fun p => !p.isEmpty) ++ pieces.getLast?.toList)

/-- One step of following a path. -/
def step? (t : FileTree) (here : List String) (name : String) : Option (List String) :=
  if !t.isDirectory here then none
  else if name == ".." then (if here.isEmpty then none else some here.dropLast)
  else if name.isEmpty || name == "." then some here
  else some (here ++ [name])

/-- Where a path leads from the working directory, if it stays inside the tree. The last name need not exist. -/
def resolve? (t : FileTree) (path : String) : Option (List String) := do
  (← names? path).foldlM t.step? t.home

/-- Where a path leads as it is written: only directories have something behind a slash. -/
def resolveWritten? (t : FileTree) (path : String) : Option (List String) := do
  (← writtenNames? path).foldlM t.step? t.home

/-! ## Writing -/

/-- Puts a file at a path, in place of one that is there. -/
def put (t : FileTree) (path : List String) (content : ByteArray) : FileTree :=
  if t.isFile path then
    { t with entries := t.entries.map fun e => if e.1 == path then (path, .file content) else e }
  else { t with entries := t.entries ++ [(path, .file content)] }

def addDirectory (t : FileTree) (path : List String) : FileTree :=
  if t.isDirectory path then t else { t with entries := t.entries ++ [(path, .directory)] }

end FileTree

/-- Why a file cannot be written. -/
inductive WriteError where
  | fileExists (path : String)
  | notADirectory (path : String)
  | isADirectory (path : String)
deriving Repr, BEq, DecidableEq

def WriteError.message : WriteError → String
  | fileExists path => "[Errno 17] File exists: " ++ Text.quoted path
  | notADirectory path => "[Errno 20] Not a directory: " ++ Text.quoted path
  | isADirectory path => "[Errno 21] Is a directory: " ++ Text.quoted path

namespace FileTree

/-- Follows a path from a place, making the directories that are missing; none if the path leaves the tree.
    `shown` is the whole path in messages. -/
def makePath (t : FileTree) (shown : String) (here : List String) :
    List String → Except WriteError (Option (FileTree × List String))
  | [] => .ok (some (t, here))
  | name :: rest =>
    let next := here ++ [name]
    if name == ".." then
      if here.isEmpty then .ok none else makePath t shown here.dropLast rest
    else if t.isFile next then .error (if rest.isEmpty then .fileExists shown else .notADirectory shown)
    else makePath (t.addDirectory next) shown next rest

/-- Writes a file at a path from the working directory, making its directory if need be. What lies outside of the
    tree is not kept. -/
def writeFile (t : FileTree) (path : List String) (shown shownParent : String) (content : ByteArray) :
    Except WriteError FileTree := do
  match ← t.makePath shownParent t.home path.dropLast with
  | none => return t
  | some (t, here) =>
    match path.getLast?.map (t.step? here) with
    | some none => return t
    | some (some place) =>
      if t.isDirectory place then throw (.isADirectory shown)
      return t.put place content
    | none => throw (.isADirectory shown)

/-! ## Walking -/

/-- The order of a walk: the files of a directory before those of the directories in it, each by name. -/
def walkBefore : List String → List String → Bool
  | [], _ => true
  | _ :: _, [] => false
  | [a], [b] => decide (a ≤ b)
  | [_], _ :: _ :: _ => true
  | _ :: _ :: _, [_] => false
  | a :: as, b :: bs => if a == b then walkBefore as bs else decide (a ≤ b)

/-- The files below a directory by their paths from there, in the order of a walk. Directories whose names are
    excluded are not entered. -/
def walk (t : FileTree) (root : List String) (excluded : String → Bool) : List (List String × ByteArray) :=
  let below := t.entries.filterMap fun (p, node) =>
    match node with
    | .file content => if root.isPrefixOf p then some (p.drop root.length, content) else none
    | .directory => none
  (below.filter fun e => !e.1.isEmpty && !e.1.dropLast.any excluded).mergeSort fun a b =>
    walkBefore a.1 b.1

end FileTree

/-! ## Text -/

/-- Every line break as a newline. -/
def unifyNewlines : List Char → List Char
  | [] => []
  | '\r' :: '\n' :: cs => '\n' :: unifyNewlines cs
  | c :: cs => (if c == '\r' then '\n' else c) :: unifyNewlines cs

/-- The text of a file in UTF-8, with unified line breaks. -/
def decodeText (content : ByteArray) : Except Text.Utf8Fault String :=
  (Text.decodeUtf8 content).map fun cs => String.ofList (unifyNewlines cs)

end SpringAtlas

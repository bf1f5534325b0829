import SpringAtlas.Cli.Command
import Std.Time.DateTime.Timestamp

/-!
# `Main` — the command line

Reads the working directory, the time and the environment, runs the command line on them, and carries out what it
decided: files are written, output is printed and log lines go to the error stream.
-/

namespace SpringAtlas.Cli

/-- Directories are read to this depth, so that a link to a directory above ends somewhere. -/
def greatestDepth : Nat := 64

/-- What lies in some directory entries; `place` is the path of their directory from the working directory. A file that cannot be read counts
    as absent. -/
def readEntries : Nat → List String → Array IO.FS.DirEntry → IO (List (List String × FileNode))
  | 0, _, _ => return []
  | depth + 1, place, entries => do
    let mut found := [(place, FileNode.directory)]
    for entry in entries do
      let path := place ++ [entry.fileName]
      if ← entry.path.isDir then
        found := found ++ (← readEntries depth path (← entry.path.readDir))
      else
        try
          found := found ++ [(path, .file (← IO.FS.readBinFile entry.path))]
        catch _ => pure ()
    return found

/-- The variables that configuration files may refer to: those in the usual places and those named in arguments. -/
def readEnvironment (tree : FileTree) (args : List String) : IO Environment := do
  let places := configPlaces.map (tree.home ++ ·) ++ args.filterMap tree.resolve?
  let texts := (places.filterMap tree.content?).filterMap fun content => (Text.decodeUtf8 content).toOption
  (texts.flatMap referencedNames).filterMapM fun name => do
    return (← IO.getEnv name).map fun value => (name, value)

/-- An identity for a run: twelve hexadecimal digits. -/
def newRunId : IO String := do
  let bytes ← IO.getRandomBytes 6
  return String.ofList (bytes.toList.flatMap fun b => Text.hex 2 b.toNat)

/-- Writes the files and directories of a tree that another tree does not have. -/
def writeChanges (old new : FileTree) : IO Unit := do
  for (place, node) in new.entries do
    let path := "." :: (new.fromHome? place).getD (new.home.map (fun _ => "..") ++ place)
    match node with
    | .directory => IO.FS.createDirAll ("/".intercalate path)
    | .file content =>
      if !(old.content? place).any fun was => was.data == content.data then
        IO.FS.createDirAll ("/".intercalate path.dropLast)
        IO.FS.writeBinFile ("/".intercalate path) content

end SpringAtlas.Cli

open SpringAtlas SpringAtlas.Cli in
def main (args : List String) : IO UInt32 := do
  let directory ← IO.currentDir
  let tree := FileTree.ofHome directory.fileName.toList (← readEntries greatestDepth [] (← directory.readDir))
  let seconds := (← Std.Time.Timestamp.now).toSecondsSinceUnixEpoch.val
  let .ok timestamp := Timestamp.ofUnixMicro (seconds * 1000000) | return 1
  let outcome := runCommandLine
    { tree, base := directory.toString, env := ← readEnvironment tree args, runId := ← newRunId, timestamp } args
  IO.print outcome.output
  for (setup, record) in outcome.log do
    if let some line := setup.emit (.ofTime timestamp) record then IO.eprintln line
  writeChanges tree outcome.tree
  return outcome.exitCode.toUInt32

import Recommend.Indexer.Run
import Recommend.Indexer.Stamp
import Std.Time.Format

/-!
The indexer as a program.

What a command looks at is read into a tree, the command runs on the tree, and what it
has written there is written out.  Of a directory all files below it are read.
-/

namespace Recommend

/-- The files at a path of the machine: the path itself, or those below it.  A path that
can be looked up has room for half as many names as bytes, so directories are not
followed any deeper. -/
def filesAt (path : String) : Nat → IO (List String)
  | 0 => return []
  | depth + 1 => do
    let place ← IO.FS.realPath path
    if ← place.isDir then
      let entries ← place.readDir
      let found ← entries.toList.mapM fun entry =>
        filesAt (Path.joinText path entry.fileName) depth
      return found.flatten
    else return [path]

/-- The tree with a file of the machine in it, if that can be read. -/
def readFile (tree : FileTree) (path : String) : IO FileTree := do
  try
    let content ← IO.FS.readBinFile path
    return (tree.addFile path content.data.toList).toOption.getD tree
  catch _ => return tree

/-- The tree of all files at the paths that can be read. -/
def readFiles (paths : List String) : IO FileTree :=
  paths.foldlM
    (fun tree path => do
      let files ← try filesAt path (Path.pathLimit / 2) catch _ => pure []
      files.foldlM readFile tree)
    FileTree.emptyDirectory

/-- Write out files of a tree. -/
def writeFiles (tree : FileTree) (paths : List String) : IO Unit :=
  paths.forM fun (path : String) => do
    match tree.openPath path >>= FileTree.content with
    | .ok content => IO.FS.writeBinFile path ⟨content.toArray⟩
    | .error _ => return

/-- Run a command on the files of the machine. -/
def Command.perform (command : Command) : IO UInt32 := do
  let tree ← readFiles command.reads
  let now ← Std.Time.Timestamp.now
  match command.run tree (Stamp.ofSeconds now.toSecondsSinceUnixEpoch.val.toNat) with
  | (_, .error e) =>
    IO.eprintln e.report
    return 1
  | (tree, .ok output) =>
    if let some dir := command.directory? then IO.FS.createDirAll dir
    writeFiles tree command.writes
    IO.print output
    return 0

end Recommend

/-- The program: a command in words, or a hint at how commands are given. -/
def main (words : List String) : IO UInt32 := do
  match Recommend.Command.ofWords? words with
  | some command =>
    try command.perform
    catch e =>
      IO.eprintln ("Error: " ++ toString e)
      return 1
  | none =>
    IO.eprintln <|
      "usage: indexer build --input PATH --output DIR --fields N,N.. " ++
        "[--delimiter S] [--inner-delimiter S]"
    IO.eprintln "       indexer stats [--index DIR]"
    return 2

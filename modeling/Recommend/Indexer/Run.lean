import Recommend.Bulk.Builder
import Recommend.Indexer.Command
import Recommend.Snapshot.Basic

/-!
Running the commands of the indexer on a file tree.
-/

namespace Recommend

/-- Why a command fails. -/
inductive CommandError where
  | noInput (input : String)
  | build (cause : BuildError)
  | snapshot (cause : SnapshotError)
  deriving DecidableEq

namespace CommandError

/-- What went wrong, in one line. -/
def message : CommandError → String
  | noInput input => "no input files under " ++ input
  | build cause => cause.message
  | snapshot cause => cause.message

/-- What is behind the failure, where there is something. -/
def cause? : CommandError → Option String
  | snapshot cause => cause.cause?
  | _ => none

/-- What is written about a failure: the message, and the cause below it. -/
def report (e : CommandError) : String :=
  "Error: " ++ e.message ++
    match e.cause? with
    | some cause => "\n\nCaused by:\n    " ++ cause
    | none => ""

end CommandError

namespace FileTree

/-- The input files at a path: the file itself, or those below a directory that are not
hidden, with their names from there.  Each of them is looked up again by its whole path,
and one that cannot be is left out. -/
def inputs (tree : FileTree) (path : Bytes) : List (List Bytes × Bytes) :=
  match tree.openPath path with
  | .ok (file content) => [([], content)]
  | .ok (directory entries) =>
    (directory entries).files.filter fun found =>
      -- a path may be too long, though each of its names is not
      tree.hasFile (Path.below path found.1) && !isHidden found.1
  | .error _ => []

end FileTree

namespace Command

/-- The files that a command looks at. -/
def reads : Command → List String
  | build input _ _ => [input]
  | stats dir => [Snapshot.metaPath dir]

/-- The files that a command writes. -/
def writes : Command → List String
  | build _ output _ => [Snapshot.storesPath output, Snapshot.metaPath output]
  | stats _ => []

/-- The directory that a command writes to. -/
def directory? : Command → Option String
  | build _ output _ => some output
  | stats _ => none

/-- Build a snapshot of all input files, which make up one source. -/
def runBuild (tree : FileTree) (now input output : String) (format : BulkFormat) :
    FileTree × Except CommandError Unit :=
  match tree.inputs input with
  | [] => (tree, .error (.noInput input))
  | files =>
    match buildFrom format (files.map Prod.snd) with
    -- nothing has been written yet
    | .error e => (tree, .error (.build e))
    | .ok (ix, _) =>
      match Snapshot.save tree output now ix with
      | (tree, .error e) => (tree, .error (.snapshot e))
      | (tree, .ok _) => (tree, .ok ())

/-- The description of a snapshot on one line. -/
def statsLine (m : SnapshotMeta) : String :=
  "items=" ++ Decimal.ofNat m.numItems.toNat
    ++ " key_field=" ++ Decimal.ofInt m.keyField.toInt
    ++ " created_at=" ++ m.createdAt ++ " version=" ++ Decimal.ofNat m.version.toNat

/-- Run a command: the tree after it, and what it prints. -/
def run (tree : FileTree) (now : String) : Command → FileTree × Except CommandError String
  | build input output format =>
    let (tree, result) := runBuild tree now input output format
    (tree, result.map fun _ => "")
  | stats dir =>
    (tree, ((Snapshot.loadMeta tree dir).mapError .snapshot).map fun m =>
      statsLine m ++ "\n")

end Command

end Recommend

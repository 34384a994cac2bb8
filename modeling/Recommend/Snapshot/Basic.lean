import Recommend.Files.Tree
import Recommend.Json.Record
import Recommend.Snapshot.Layout

/-!
Snapshots: a directory with the stores of an index in `index.bin` and their description
in `meta.json`.

Writing puts the stores down before the description; reading takes the description first
and holds the stores against it.
-/

namespace Recommend

open Json

/-- The description of a snapshot. -/
structure SnapshotMeta where
  numItems : UInt64
  keyField : FieldId
  createdAt : String
  version : UInt32
  deriving DecidableEq

/-- The members of a written description, all of which are needed. -/
def SnapshotMeta.fields :=
  required "num_items" .uint64 <| required "key_field" .int32 <|
    required "created_at" .text <| required "version" .uint32 .done

/-- A description as an object. -/
def SnapshotMeta.codec : Codec SnapshotMeta :=
  .record SnapshotMeta.fields
    (fun (numItems, keyField, createdAt, version, ()) =>
      ⟨numItems, keyField, createdAt, version⟩)
    (fun m => (m.numItems, m.keyField, m.createdAt, m.version, ()))

/-- Why a snapshot cannot be written or read. -/
inductive SnapshotError where
  /-- A file cannot be opened. -/
  | opening (path : String) (cause : FileError)
  /-- A file cannot be read or written. -/
  | file (cause : FileError)
  /-- The description cannot be read. -/
  | description (cause : ReadError)
  /-- The stores cannot be read. -/
  | stores (cause : LayoutError)
  /-- The snapshot is of another version. -/
  | version (found : UInt32)
  /-- The stores are not the described ones. -/
  | inconsistent (dir : String)
  deriving DecidableEq

namespace Snapshot

/-- The only version there is. -/
def version : UInt32 := 1

/-- The path of the stores. -/
def storesPath (dir : String) : String := Path.joinText dir "index.bin"

/-- The path of the description. -/
def metaPath (dir : String) : String := Path.joinText dir "meta.json"

end Snapshot

namespace SnapshotError

/-- What is reported about a failure. -/
def message : SnapshotError → String
  | opening path _ => "opening " ++ path
  | file cause => cause.message
  | description .early => "the description ends too early"
  | description .malformed => "the description is not JSON"
  | description .mismatched => "the description has another shape"
  | stores cause => cause.message
  | version found =>
    "snapshot version " ++ Decimal.ofNat found.toNat ++ " is not supported (expected "
      ++ Decimal.ofNat Snapshot.version.toNat ++ ")"
  | inconsistent dir => "snapshot at " ++ dir ++ " does not match its meta.json"

/-- The cause behind the message, where there is one. -/
def cause? : SnapshotError → Option String
  | opening _ cause => some cause.message
  | _ => none

end SnapshotError

namespace Snapshot

/-! ### Writing -/

/-- The tree with all that has been done to it up to a failure, and the result. -/
abbrev Written (α : Type) := FileTree × Except SnapshotError α

/-- Write a file of a snapshot, after its directory has been made. -/
def put (tree : FileTree) (dir path content : Bytes) : Written Unit :=
  match tree.makeDirectory dir with
  | (tree, .error cause) => (tree, .error (.file cause))
  | (tree, .ok ()) =>
    match tree.writeFile path content with
    -- the directory stays, even if it was made for nothing
    | .error cause => (tree, .error (.file cause))
    | .ok tree => (tree, .ok ())

/-- Write a description. -/
def saveMeta (tree : FileTree) (dir : String) (m : SnapshotMeta) : Written Unit :=
  put tree dir (metaPath dir) (Bytes.ofText (SnapshotMeta.codec.write m).pretty)

/-- The description of an index. -/
def describe (ix : Index) (createdAt : String) : SnapshotMeta :=
  ⟨UInt64.ofNat ix.size, ix.keyField, createdAt, version⟩

/-- Write a snapshot.  If its description cannot be written the stores stay. -/
def save (tree : FileTree) (dir createdAt : String) (ix : Index) : Written SnapshotMeta :=
  match put tree dir (storesPath dir) ix.encode with
  | (tree, .error e) => (tree, .error e)
  | (tree, .ok ()) =>
    let m := describe ix createdAt
    match saveMeta tree dir m with
    | (tree, .error e) => (tree, .error e)
    | (tree, .ok ()) => (tree, .ok m)

/-! ### Reading -/

/-- Read a description. -/
def loadMeta (tree : FileTree) (dir : String) : Except SnapshotError SnapshotMeta := do
  let opened ← (tree.openPath (metaPath dir)).mapError (.opening (metaPath dir))
  let text ← opened.textContent.mapError .file
  (SnapshotMeta.codec.decode text).mapError .description

/-- Read a snapshot. -/
def load (tree : FileTree) (dir : String) : Except SnapshotError Index := do
  let m ← loadMeta tree dir
  if m.version ≠ version then .error (.version m.version)
  else do
    let opened ← (tree.openPath (storesPath dir)).mapError (.opening (storesPath dir))
    -- a directory can be opened as well, but it has no content
    let bytes ← opened.content.mapError fun _ => .stores .damaged
    let ix ← (Index.decode bytes).mapError .stores
    -- the time of creation is not held against anything
    if UInt64.ofNat ix.size = m.numItems ∧ ix.keyField = m.keyField then .ok ix
    else .error (.inconsistent dir)

end Snapshot

end Recommend

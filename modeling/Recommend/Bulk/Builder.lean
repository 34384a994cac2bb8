import Recommend.Bulk.Format
import Recommend.Files.Tree

/-!
Building an index from bulk sources.

Lines end at line feeds; a last line needs none.  The first line with a key determines
its record, in this source or an earlier one, and every line is accounted for in the
statistics.  A line that is not UTF-8 counts as a line and as nothing else.
-/

namespace Recommend

/-- Why a source cannot be indexed. -/
inductive BuildError where
  | noFields
  | unreadable (cause : FileError)
  deriving DecidableEq

/-- What is reported about a failed build. -/
def BuildError.message : BuildError → String
  | noFields => "bulk format has no field ids"
  | unreadable cause => "bulk source unreadable: " ++ cause.message

/-- What has become of the lines of a source. -/
structure BuildStats where
  lines : Nat := 0
  inserted : Nat := 0
  emptyLines : Nat := 0
  blankKeys : Nat := 0
  duplicateKeys : Nat := 0
  deriving DecidableEq

/-- The lines of a source: what stands before each line feed, and after the last one if
anything does. -/
def bulkLines : Bytes → List Bytes
  | [] => []
  | b :: bs =>
    if b = 10 then [] :: bulkLines bs
    else
      match bulkLines bs with
      -- this byte is the last one, and no line feed follows
      | [] => [[b]]
      | line :: lines => (b :: line) :: lines

/-- An index under construction. -/
structure Builder where
  format : BulkFormat
  index : Index
  stats : BuildStats

namespace Builder

/-- Start with an empty index; the first field is the key field, so there has to be one. -/
def start (format : BulkFormat) : Except BuildError Builder :=
  match format.fieldIds with
  | [] => .error .noFields
  | keyField :: _ => .ok ⟨format, .empty keyField, {}⟩

/-- Add a row, unless its key is taken. -/
def addRow (b : Builder) (key : String) (record : Record) : Builder :=
  if (b.index.record? key).isSome then
    { b with stats := { b.stats with duplicateKeys := b.stats.duplicateKeys + 1 } }
  else
    match b.index.insert? key record with
    | some index =>
      { b with index, stats := { b.stats with inserted := b.stats.inserted + 1 } }
    -- the index refuses a key that it has, so this is the same case
    | none =>
      { b with stats := { b.stats with duplicateKeys := b.stats.duplicateKeys + 1 } }

/-- Add what a text line holds. -/
def addText (b : Builder) (line : String) : Builder :=
  match b.format.readLine line with
  | .empty => { b with stats := { b.stats with emptyLines := b.stats.emptyLines + 1 } }
  | .blankKey => { b with stats := { b.stats with blankKeys := b.stats.blankKeys + 1 } }
  | .row key record => b.addRow key record

/-- Take in one line. -/
def addLine (b : Builder) (line : Bytes) : Builder :=
  -- a line counts before it is known to be text
  let b := { b with stats := { b.stats with lines := b.stats.lines + 1 } }
  match line.text? with
  | none => b
  | some text => b.addText text

/-- Take in a whole source. -/
def consume (b : Builder) (source : Bytes) : Builder := (bulkLines source).foldl addLine b

/-- Take in sources one after the other. -/
def consumeAll (b : Builder) (sources : List Bytes) : Builder := sources.foldl consume b

end Builder

/-- The index of bulk sources, with the account of their lines. -/
def buildFrom (format : BulkFormat) (sources : List Bytes) :
    Except BuildError (Index × BuildStats) := do
  let b ← Builder.start format
  let b := b.consumeAll sources
  .ok (b.index, b.stats)

/-- The index of a bulk file; the format is checked before the file is looked at. -/
def buildFromFile (tree : FileTree) (path : String) (format : BulkFormat) :
    Except BuildError (Index × BuildStats) := do
  let _ ← Builder.start format
  match tree.openPath path >>= FileTree.content with
  | .ok source => buildFrom format [source]
  | .error cause => .error (.unreadable cause)

end Recommend

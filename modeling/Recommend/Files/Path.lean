import Recommend.Files.Error
import Recommend.Text.Bytes
import Recommend.Text.Split

/-!
Paths into a file tree.

A path is a sequence of bytes, as names are: whether they encode a text does not matter
to the tree.  Slashes divide a path into steps.  What the steps lead to is up to the
tree: `..` goes back from a place that has to be there, so it cannot be resolved on the
path alone.
-/

namespace Recommend.Path

/-- The byte that divides a path. -/
def slash : UInt8 := 47

/-- The byte that the steps `.` and `..` are made of. -/
def point : UInt8 := 46

/-- One step along a path. -/
inductive Step where
  /-- The step `.`, which leads nowhere else. -/
  | stay
  /-- The step `..`, to the directory above. -/
  | up
  | enter (name : Bytes)
  deriving DecidableEq

/-- The step that a piece of a path stands for. -/
def Step.ofName (name : Bytes) : Step :=
  if name = [point] then .stay
  else if name = [point, point] then .up
  else .enter name

/-- The steps of a path; several slashes divide like one. -/
def steps (path : Bytes) : List Step :=
  ((Text.splitBy (· == slash) path).filter fun name => !name.isEmpty).map Step.ofName

/-- Whether a slash stands at the end, so that only a directory can be meant. -/
def endsInSlash (path : Bytes) : Bool := path.getLast? == some slash

/-- The steps that look something up: a slash at the end is one more step, which takes a
directory to stand on. -/
def lookupSteps (path : Bytes) : List Step :=
  steps path ++ if endsInSlash path then [.stay] else []

/-- The steps without those that stay, but for the first one. -/
def essential : List Step → List Step
  | [] => []
  | s :: ss => s :: ss.filter (· ≠ .stay)

/-- The ways to the directories above, the nearest first. -/
def ancestors (steps : List Step) : List (List Step) :=
  let steps := essential steps
  -- the whole way itself is not among them, nor is the way of no steps
  (List.range (steps.length - 1)).reverse.map fun n => steps.take (n + 1)

/-- The bytes that a name has at most. -/
def nameLimit : Nat := 255

/-- The bytes that a path has at most. -/
def pathLimit : Nat := 4095

/-- Whether a name has more bytes than names have. -/
def isTooLong (name : Bytes) : Bool := decide (nameLimit < name.length)

/-- What makes bytes unfit as a path before any tree is looked at: a null among them,
too many of them, or none at all. -/
def check (path : Bytes) : Except FileError Unit :=
  -- in this order: the system is not called with a null, and what is too long is not
  -- looked up
  if path.contains 0 then .error .nullInName
  else if pathLimit < path.length then .error .nameTooLong
  else if path.isEmpty then .error .notFound
  else .ok ()

/-- The path of an entry of a directory. -/
def join (dir name : Bytes) : Bytes :=
  if dir.isEmpty then name
  else if endsInSlash dir then dir ++ name
  else dir ++ slash :: name

/-- The path of what stands at the end of names below a directory. -/
def below (dir : Bytes) (names : List Bytes) : Bytes := names.foldl join dir

/-- The path of an entry of a directory, as texts. -/
def joinText (dir name : String) : String :=
  if dir.isEmpty then name
  else if endsInSlash dir then dir ++ name
  else dir ++ "/" ++ name

end Recommend.Path

import Recommend.Files.Path
import Recommend.Text.Bytes

/-!
File trees.

A path is walked step by step from the root of the tree, above which there is nothing:
there `..` stays.  Every place on the way has to be a directory that is there.  Looking
at a directory succeeds, reading its content does not: the two are separate steps,
because they fail in different places.

Names are bytes.  Most of them encode texts, but none has to.
-/

namespace Recommend

/-- A file, or a directory with its entries. -/
inductive FileTree where
  | file (content : Bytes)
  | directory (entries : List (Bytes × FileTree))

namespace FileTree

open Recommend.Path (Step)

/-- A directory without entries. -/
def emptyDirectory : FileTree := .directory []

instance : Inhabited FileTree := ⟨emptyDirectory⟩

/-- The entry of that name. -/
def child? (entries : List (Bytes × FileTree)) (name : Bytes) : Option FileTree :=
  entries.lookup name

/-- Put an entry in place of one of the same name, or behind the others. -/
def setEntry (name : Bytes) (t : FileTree) :
    List (Bytes × FileTree) → List (Bytes × FileTree)
  | [] => [(name, t)]
  | e :: es => if e.1 = name then (name, t) :: es else e :: setEntry name t es

/-! ### Walking along a path -/

/-- The places entered on the way from the root, the last one first, each with its name. -/
abbrev Trail := List (Bytes × FileTree)

/-- Where a trail has led. -/
def place (root : FileTree) (trail : Trail) : FileTree :=
  match trail with
  | [] => root
  | (_, t) :: _ => t

/-- The names from the root to where a trail has led. -/
def names (trail : Trail) : List Bytes := (trail.map Prod.fst).reverse

/-- Go on from where a trail has led. -/
def walk (root : FileTree) : Trail → List Step → Except FileError Trail
  | trail, [] => .ok trail
  | trail, step :: steps =>
    match root.place trail, step with
    | file _, _ => .error .notADirectory
    | directory _, .stay => walk root trail steps
    -- above the root the trail is empty and stays so
    | directory _, .up => walk root trail.tail steps
    | directory entries, .enter name =>
      -- too long a name is refused even if nothing could have it
      if Path.isTooLong name then .error .nameTooLong
      else
        match child? entries name with
        | none => .error .notFound
        | some t => walk root ((name, t) :: trail) steps

/-- What the steps lead to. -/
def follow (t : FileTree) (steps : List Step) : Except FileError FileTree :=
  (t.walk [] steps).map t.place

/-- The directory that the steps lead to: the names on the way from the root, and its
entries. -/
def directoryAt (t : FileTree) (steps : List Step) :
    Except FileError (List Bytes × List (Bytes × FileTree)) := do
  let trail ← t.walk [] steps
  match t.place trail with
  | file _ => .error .notADirectory
  | directory entries => .ok (names trail, entries)

/-! ### Reading -/

/-- Look at a path. -/
def openPath (t : FileTree) (path : Bytes) : Except FileError FileTree := do
  Path.check path
  t.follow (Path.lookupSteps path)

/-- The content of what has been opened. -/
def content : FileTree → Except FileError Bytes
  | file content => .ok content
  | directory _ => .error .isADirectory

/-- The content as text. -/
def textContent (t : FileTree) : Except FileError String := do
  let bytes ← t.content
  match bytes.text? with
  | some s => .ok s
  | none => .error .notText

/-! ### Writing -/

/-- Put an entry into the directory to which the names lead. -/
def insert (name : Bytes) (new : FileTree) : List Bytes → FileTree → FileTree
  | [], directory entries => .directory (setEntry name new entries)
  | n :: ns, directory entries =>
    match child? entries n with
    | some t => .directory (setEntry n (insert name new ns t) entries)
    -- the names come from a walk, so this does not happen
    | none => .directory entries
  | _, file content => .file content

/-- Write a file, in place of one that is there. -/
def writeFile (t : FileTree) (path : Bytes) (content : Bytes) :
    Except FileError FileTree := do
  Path.check path
  let (names, entries) ← t.directoryAt (Path.steps path).dropLast
  match (Path.steps path).getLast? with
  | some (.enter name) =>
    if Path.endsInSlash path then .error .isADirectory
    else if Path.isTooLong name then .error .nameTooLong
    else
      match child? entries name with
      | some (directory _) => .error .isADirectory
      | _ => .ok (insert name (.file content) names t)
  | _ => .error .isADirectory

/-- Make the directory at the end of the steps; those above it are there. -/
def makeOne (t : FileTree) (steps : List Step) : Except FileError FileTree := do
  let (names, entries) ← t.directoryAt steps.dropLast
  match steps.getLast? with
  | some (.enter name) =>
    if Path.isTooLong name then .error .nameTooLong
    else
      match child? entries name with
      | some _ => .error .alreadyExists
      | none => .ok (insert name emptyDirectory names t)
  | _ => .error .alreadyExists

/-- Make a directory unless it is there. -/
def makeMissing (t : FileTree) (steps : List Step) : FileTree × Except FileError Unit :=
  -- made first and looked at afterwards: what is there already is no failure
  match t.makeOne steps, t.follow steps with
  | .ok t, _ => (t, .ok ())
  | .error _, .ok (directory _) => (t, .ok ())
  | .error e, _ => (t, .error e)

/-- Make a directory unless it is there, and if something above it is missing then first
the nearest of its ancestors in the same way.  What has been made up to a failure stays. -/
def makeAll (t : FileTree) (steps : List Step) :
    List (List Step) → FileTree × Except FileError Unit
  | [] => t.makeMissing steps
  | ancestor :: ancestors =>
    match t.makeMissing steps with
    -- only a missing ancestor is a reason to go up
    | (t, .error .notFound) =>
      match t.makeAll ancestor ancestors with
      | (t, .ok ()) => t.makeMissing steps
      | failed => failed
    | result => result

/-- Make a directory and those above it; the empty path is there already. -/
def makeDirectory (t : FileTree) (path : Bytes) : FileTree × Except FileError Unit :=
  if path.isEmpty then (t, .ok ())
  else
    match Path.check path with
    | .error e => (t, .error e)
    | .ok () => t.makeAll (Path.steps path) (Path.ancestors (Path.steps path))

/-- Write a file, after the directories above it have been made. -/
def addFile (t : FileTree) (path : Bytes) (content : Bytes) : Except FileError FileTree :=
  match Path.ancestors (Path.steps path) with
  | [] => t.writeFile path content
  | dir :: dirs =>
    match t.makeAll dir dirs with
    | (t, .ok ()) => t.writeFile path content
    | (_, .error e) => .error e

/-- Take away what stands at the end of the names. -/
def erase : List Bytes → FileTree → FileTree
  | [name], directory entries => .directory (entries.filter (·.1 ≠ name))
  | name :: names, directory entries =>
    match child? entries name with
    | none => .directory entries
    | some t => .directory (setEntry name (erase names t) entries)
  | _, t => t

/-- Take away what a path leads to, if that is anything. -/
def remove (t : FileTree) (path : Bytes) : FileTree :=
  match t.walk [] (Path.steps path) with
  | .ok trail => erase (names trail) t
  | .error _ => t

/-! ### Listing -/

mutual

/-- All files with their paths: depth first, the entries of each directory sorted by
name. -/
def files : FileTree → List (List Bytes × Bytes)
  | file content => [([], content)]
  | directory entries =>
    -- names are compared as bytes
    ((filesOf entries).mergeSort fun a b => a.1 ≤ b.1).flatMap fun (name, found) =>
      found.map fun (names, content) => (name :: names, content)

/-- The files of each entry. -/
def filesOf : List (Bytes × FileTree) → List (Bytes × List (List Bytes × Bytes))
  | [] => []
  | (name, t) :: entries => (name, t.files) :: filesOf entries

end

/-- Whether a name is a text that starts with a point. -/
def isPointed (name : Bytes) : Bool :=
  match name.text? with
  | some s => s.toList.head? == some '.'
  | none => false

/-- Whether the last of the names is pointed; those of the directories above do not
count. -/
def isHidden (names : List Bytes) : Bool :=
  match names.getLast? with
  | some name => isPointed name
  | none => false

/-- Whether a file can be looked up at a path. -/
def hasFile (t : FileTree) (path : Bytes) : Bool :=
  match t.openPath path with
  | .ok (file _) => true
  | _ => false

end FileTree

end Recommend

import Recommend.Bulk.Format

/-!
The command line of the indexer.

There are two commands, `build` and `stats`, each with options of its own.  An option is
given as `--name value` or as `--name=value`, and only `--fields` more than once.  A
value of its own word does not look like an option: it does not start with a dash,
unless it is a single dash or, for `--fields`, a negative number.
-/

namespace Recommend

/-- What the indexer can be told to do. -/
inductive Command where
  | build (input output : String) (format : BulkFormat)
  | stats (dir : String)
  deriving DecidableEq

namespace Command

/-- The options given, in order. -/
abbrev Options := List (String × String)

/-- The name of an option and the value attached to it, if the word is an option. -/
def option? (word : String) : Option (String × Option String) :=
  match word.toList with
  | '-' :: '-' :: cs =>
    match cs.span (· ≠ '=') with
    | (name, '=' :: value) => some (String.ofList name, some (String.ofList value))
    | (name, _) => some (String.ofList name, none)
  | _ => none

/-- Whether a word may be the value of an option. -/
def isValue (name word : String) : Bool :=
  match word.toList with
  | ['-'] => true
  | '-' :: cs => name == "fields" && (Decimal.readNat? cs).isSome
  | _ => true

/-- All options of the words; only these names are known.  Two dashes alone may end the
options. -/
def options? (known : List String) : List String → Option Options
  | [] => some []
  | word :: words =>
    match option? word with
    | none => none
    | some (name, some value) =>
      if known.contains name then (options? known words).map ((name, value) :: ·) else none
    | some (name, none) =>
      match words with
      -- two dashes alone end the options, and nothing may follow them
      | [] => if name.isEmpty then some [] else none
      | value :: words =>
        if known.contains name && isValue name value then
          (options? known words).map ((name, value) :: ·)
        else none

/-- All values of an option. -/
def valuesOf (options : Options) (name : String) : List String :=
  options.filterMap fun (given, value) => if given = name then some value else none

/-- The value of an option that is given at most once. -/
def single? (options : Options) (name : String) : Option (Option String) :=
  match valuesOf options name with
  | [] => some none
  | [value] => some (some value)
  | _ => none

/-- Field numbers with commas between them. -/
def fields? (value : String) : Option (List FieldId) :=
  (Text.splitAny "," value.toList).mapM fun cs => Decimal.readInt32? (String.ofList cs)

/-- The build that the options stand for, if they are all fit. -/
def build? (words : List String) : Option Command := do
  let options ← options? ["input", "output", "fields", "delimiter", "inner-delimiter"] words
  let input ← (← single? options "input")
  let output ← (← single? options "output")
  let delimiter ← single? options "delimiter"
  let inner ← single? options "inner-delimiter"
  let fields ← (valuesOf options "fields").mapM fields?
  -- the option itself has to be given; what it lists is never empty
  if fields.isEmpty then none
  else some (.build input output ⟨fields.flatten, delimiter.getD ",", inner⟩)

/-- The description that the options ask for. -/
def stats? (words : List String) : Option Command := do
  let options ← options? ["index"] words
  let dir ← single? options "index"
  some (.stats (dir.getD "./index"))

/-- The command that the words give. -/
def ofWords? : List String → Option Command
  | "build" :: words => build? words
  | "stats" :: words => stats? words
  | _ => none

end Command

end Recommend

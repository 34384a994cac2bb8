import Recommend.Text.Split

/-!
Tables over code points, written as text.

The entries of a line are divided by blanks.  An entry is a range, an equals sign and a
value.  A range is a code point in hexadecimal digits or two of them with a hyphen
between; a stroke and a number behind them take only every so many.
-/

namespace Recommend.Text

/-- The value of a hexadecimal digit, a small letter if it is one. -/
def hexDigitValue (c : Char) : Nat := if c.isDigit then c.toNat - 48 else c.toNat - 87

/-- The value of hexadecimal digits. -/
def hexNumber (cs : List Char) : Nat := cs.foldl (fun n c => 16 * n + hexDigitValue c) 0

/-- Numbers with plus signs between them. -/
def hexNumbers (cs : List Char) : List Nat :=
  if cs.isEmpty then [] else (splitBy (· == '+') cs).map hexNumber

/-- The code points from `first` to `last`, every `step`-th of them. -/
structure CodeRange where
  first : Nat
  last : Nat
  step : Nat
  deriving DecidableEq

namespace CodeRange

/-- Whether a code point is one of the range. -/
def contains (r : CodeRange) (n : Nat) : Bool :=
  r.first ≤ n && n ≤ r.last && (n - r.first) % r.step == 0

/-- The range that a text stands for. -/
def ofText (cs : List Char) : CodeRange :=
  match (splitBy (fun c => c == '-' || c == '/') cs).map hexNumber with
  | [first] => ⟨first, first, 1⟩
  | [first, last] => ⟨first, last, 1⟩
  | first :: last :: step :: _ => ⟨first, last, step⟩
  | [] => ⟨1, 0, 1⟩

end CodeRange

/-- Values of ranges of code points. -/
abbrev Table (α : Type) := List (CodeRange × α)

namespace Table

variable {α : Type}

/-- The entry that a text stands for. -/
def readEntry (value : List Char → α) (cs : List Char) : CodeRange × α :=
  (CodeRange.ofText (cs.takeWhile (· ≠ '=')), value (cs.dropWhile (· ≠ '=')).tail)

/-- The table that some lines stand for. -/
def ofLines (value : List Char → α) (lines : List String) : Table α :=
  lines.flatMap fun line => (splitBy (· == ' ') line.toList).map (readEntry value)

/-- The entry of a character. -/
def lookup? (t : Table α) (c : Char) : Option (CodeRange × α) :=
  t.find? fun e => e.1.contains c.toNat

end Table

end Recommend.Text

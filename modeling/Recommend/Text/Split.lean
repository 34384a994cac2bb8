/-!
Cutting text at separators.

A separator is any character of a set, each occurrence cuts, and adjacent separators
leave an empty piece between them: a text with `n` separators has `n + 1` pieces.  Paths
of files are cut in the same way, byte by byte.
-/

namespace Recommend.Text

/-- The pieces between the characters that satisfy `p`. -/
def splitBy {α : Type} (p : α → Bool) : List α → List (List α)
  | [] => [[]]
  | c :: cs =>
    if p c then [] :: splitBy p cs
    else
      match splitBy p cs with
      | [] => [[c]]
      | s :: ss => (c :: s) :: ss

/-- The pieces between characters that occur in `separators`. -/
def splitAny (separators : String) (cs : List Char) : List (List Char) :=
  splitBy (fun c => separators.toList.contains c) cs

/-- Even a text without a character has a piece, an empty one. -/
theorem splitBy_ne_nil {α : Type} (p : α → Bool) (cs : List α) : splitBy p cs ≠ [] := by
  cases cs with
  | nil => simp [splitBy]
  | cons c cs =>
    rw [splitBy]
    split
    · simp
    · split <;> simp

end Recommend.Text

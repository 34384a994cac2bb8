import Recommend.Text.CombiningClass
import Recommend.Text.Composition

/-!
The composed form of a text: the one among the texts of the same meaning in which as
much as possible is said by composites.

Every character is replaced by what it is made of, the marks behind each character are
brought into the order of their classes, and then pairs are put together again.  Hangul
syllables are made of their letters by arithmetic.
-/

namespace Recommend.Text

/-! ### Hangul syllables -/

namespace Hangul

/-- The first syllable. -/
def syllables : Nat := 0xac00

/-- The first of the letters that a syllable starts with. -/
def initials : Nat := 0x1100

/-- The first of the vowels of syllables. -/
def vowels : Nat := 0x1161

/-- One before the first final, so that zero stands for no final. -/
def finals : Nat := 0x11a7

/-- The letters of a syllable. -/
def letters? (c : Char) : Option (List Char) :=
  let n := c.toNat - syllables
  if syllables ≤ c.toNat ∧ n < 19 * 21 * 28 then
    let pair :=
      [Char.ofNat (initials + n / (21 * 28)), Char.ofNat (vowels + n % (21 * 28) / 28)]
    some (if n % 28 = 0 then pair else pair ++ [Char.ofNat (finals + n % 28)])
  else none

/-- The syllable of an initial and a vowel, or of a syllable without a final and a
final. -/
def compose? (a b : Char) : Option Char :=
  let i := a.toNat - initials
  let v := b.toNat - vowels
  let s := a.toNat - syllables
  let f := b.toNat - finals
  if initials ≤ a.toNat ∧ i < 19 ∧ vowels ≤ b.toNat ∧ v < 21 then
    some (Char.ofNat (syllables + (i * 21 + v) * 28))
  else if syllables ≤ a.toNat ∧ s < 19 * 21 * 28 ∧ s % 28 = 0 ∧ finals < b.toNat ∧
    f < 28 then
    some (Char.ofNat (a.toNat + f))
  else none

end Hangul

/-! ### Taking apart -/

/-- What a character is replaced by in one step; along a range of single characters, by
the successive ones. -/
def parts? (c : Char) : Option (List Char) :=
  match composites.lookup? c, replaced.lookup? c with
  | some (_, ns), _ => some (ns.map Char.ofNat)
  | none, some (range, [n]) => some [Char.ofNat (n + (c.toNat - range.first))]
  | none, some (_, ns) => some (ns.map Char.ofNat)
  | none, none => none

/-- What a character is made of.  Only the first of its parts is made of others in turn. -/
def decomposeChar : Nat → Char → List Char
  | 0, c => [c]
  | n + 1, c =>
    if c.toNat < 0xc0 then [c]
    else
      match Hangul.letters? c, parts? c with
      | some letters, _ => letters
      | none, some (a :: rest) => decomposeChar n a ++ rest
      | none, _ => [c]

/-- What the characters of a text are made of; no character takes more than four steps. -/
def decompose (cs : List Char) : List Char := cs.flatMap (decomposeChar 4)

/-! ### The order of marks -/

/-- Put a mark behind those of its class and of lower ones; the marks before it are
given last to first. -/
def insertMark (c : Char) : List Char → List Char
  | [] => [c]
  | d :: ds =>
    if combiningClass c < combiningClass d then d :: insertMark c ds else c :: d :: ds

/-- Bring the marks behind each character into the order of their classes. -/
def ordered (cs : List Char) : List Char :=
  (cs.foldl (fun done c =>
    if combiningClass c = 0 then c :: done else insertMark c done) []).reverse

/-! ### Putting together -/

/-- The composite of a pair. -/
def composite? (a b : Char) : Option Char :=
  match Hangul.compose? a b with
  | some c => some c
  | none =>
    (composites.find? fun e => e.2 == [a.toNat, b.toNat]).map fun e => Char.ofNat e.1.first

/-- Whether a mark of the same class or a higher one stands between a character and its
base. -/
def isBlocked (marks : List Char) (c : Char) : Bool :=
  match marks with
  | [] => false
  | m :: _ => combiningClass c ≤ combiningClass m

/-- Put together a base and what follows it.  The marks that stay behind the base are
given last to first. -/
def composeFrom (base : Char) (marks : List Char) : List Char → List Char
  | [] => base :: marks.reverse
  | c :: cs =>
    match isBlocked marks c, composite? base c with
    | false, some d => composeFrom d marks cs
    | _, _ =>
      if combiningClass c = 0 then base :: marks.reverse ++ composeFrom c [] cs
      else composeFrom base (c :: marks) cs

/-- Put together the pairs of a text whose marks are in order. -/
def compose : List Char → List Char
  | [] => []
  | c :: cs => if combiningClass c = 0 then composeFrom c [] cs else c :: compose cs

/-- The composed form: taken apart, put in order, and put together again. -/
def composed (cs : List Char) : List Char := compose (ordered (decompose cs))

end Recommend.Text

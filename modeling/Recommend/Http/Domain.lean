import Recommend.Http.DomainMapping
import Recommend.Http.Punycode
import Recommend.Text.Composed
import Recommend.Text.Direction
import Recommend.Text.Extender
import Recommend.Text.Joining
import Recommend.Text.SpacingMark

/-!
Domain names in ASCII.

A name is a list of labels with points between them.  Its characters are mapped to their
plain forms and composed, and then a label outside ASCII is written as `xn--` and its
Punycode.  A label that is given like that has to stand for one that could have been
given plainly.
-/

namespace Recommend.Http.Domain

open Text

/-- Characters of ASCII that no domain name holds. -/
def isForbidden (c : Char) : Bool :=
  c.toNat ≤ 32 || c.toNat == 127 || "#%/:<>?@[\\]^|".toList.contains c

/-- Whether all characters are ASCII. -/
def isAscii (cs : List Char) : Bool := cs.all fun c => c.toNat < 128

/-- What sets off labels in Punycode. -/
def marker : List Char := "xn--".toList

/-- Whether a label is given in Punycode. -/
def isMarked (label : List Char) : Bool := marker.isPrefixOf (label.map Char.toLower)

/-! ### Joiners -/

/-- Whether the character next to a non-joiner, apart from those that are passed over,
joins towards it. -/
def joinsAcross (side : Joining) (cs : List Char) : Bool :=
  match cs.dropWhile fun c => joining c == .transparent with
  | [] => false
  | c :: _ => joining c == side || joining c == .both

/-- Whether the joiners stand where they may: behind a mark that silences a vowel, or,
what keeps letters apart, between letters that would join.  The characters before are
given last to first. -/
def joinersFit : List Char → List Char → Bool
  | _, [] => true
  | before, c :: cs =>
    -- the combining class of the marks that silence a vowel
    let silenced := (before.head?.map combiningClass) == some 9
    let here := !isJoiner c || silenced ||
      (c == '\u200c' && joinsAcross .left before && joinsAcross .right cs)
    here && joinersFit (c :: before) cs

/-! ### Directions -/

/-- Whether a label is written from right to left in part. -/
def hasRightToLeft (label : List Char) : Bool :=
  label.any fun c => direction c == .rightToLeft || direction c == .arabicDigit

/-- The direction at the end of a label; marks go with what they stand on. -/
def finalDirection? (ds : List Direction) : Option Direction :=
  (ds.reverse.dropWhile (· == .mark)).head?

/-- Whether the directions of a label can be told apart from those of its neighbours, in
a name with a label that is written from right to left. -/
def directionsFit (label : List Char) : Bool :=
  let ds := label.map direction
  match ds with
  | [] => true
  -- what comes first decides which directions may follow, and which ones may come last
  | .leftToRight :: _ =>
    !ds.contains .rightToLeft && !ds.contains .arabicDigit
      && (finalDirection? ds == some .leftToRight || finalDirection? ds == some .digit)
  | .rightToLeft :: _ =>
    !ds.contains .leftToRight && !(ds.contains .digit && ds.contains .arabicDigit)
      && (finalDirection? ds == some .rightToLeft || finalDirection? ds == some .digit
        || finalDirection? ds == some .arabicDigit)
  -- a label starts with a letter of either direction
  | _ => false

/-! ### Labels -/

/-- The plain form of a name. -/
def plain (cs : List Char) : List Char := composed ((decompose cs).flatMap mapChar)

/-- Whether a label in plain form may stand in a name. -/
def isLabel (label : List Char) : Bool :=
  let isMark (c : Char) : Bool := isExtender c || isSpacingMark c
  -- a label does not start with a mark, which would stand on the point before it
  !label.any isRefused && !(label.head?.map isMark).getD false && joinersFit [] label

/-- Longer labels are not put into Punycode. -/
def encodedLimit : Nat := 1000

/-- Longer labels are not read as Punycode. -/
def decodedLimit : Nat := 2000

/-- A label with its written form. -/
structure Label where
  chars : List Char
  written : List Char

/-- The label that stands for itself or is given in Punycode. -/
def label? (cs : List Char) : Option Label :=
  if isMarked cs then do
    let digits := cs.drop marker.length
    let chars ← if digits.length ≤ decodedLimit then Punycode.decode? digits else none
    -- Punycode of a label that has no need of it, or of one not in plain form, is refused
    if isAscii chars || plain chars != chars || isMarked chars || !isLabel chars then none
    else some ⟨chars, cs⟩
  else if !isLabel cs then none
  else if isAscii cs then some ⟨cs, cs⟩
  else if cs.length ≤ encodedLimit then some ⟨cs, marker ++ Punycode.encode cs⟩
  else none

/-! ### Names -/

/-- A name with labels outside ASCII or in Punycode. -/
def general? (cs : List Char) : Option (List Char) := do
  let labels ← (splitBy (· == '.') (plain cs)).mapM label?
  let written := ['.'].intercalate (labels.map Label.written)
  if written.any isForbidden then none
  -- one label from right to left binds all labels to the rules of direction
  else if labels.any (fun l => hasRightToLeft l.chars) &&
    !labels.all (fun l => directionsFit l.chars) then none
  else some written

/-- Whether a name has only labels that stand for themselves. -/
def isSimple (cs : List Char) : Bool :=
  isAscii cs && (splitBy (· == '.') cs).all fun label => !isMarked label

/-- A domain name in ASCII, in small letters. -/
def ascii? (cs : List Char) : Option (List Char) :=
  -- the mappings of characters are needed for other names only
  if isSimple cs then
    if cs.any isForbidden then none else some (cs.map Char.toLower)
  else general? cs

end Recommend.Http.Domain

/-!
Labels of domain names in letters, digits and hyphens.

The ASCII characters come first, and a hyphen behind them if there are any.  Then the
others are told in the order of their code points, each by the number of steps from the
one before, where a step goes to the next place in the label or, past its end, to the
next code point.  The numbers are written in digits of base 36 whose limits adapt to the
numbers met so far.
-/

namespace Recommend.Http.Punycode

/-- The digit of a value below 36: the letters first, then the decimal digits. -/
def digitChar (d : Nat) : Char := Char.ofNat (if d < 26 then 97 + d else 22 + d)

/-- The value of a digit, of either case if it is a letter. -/
def digitValue? (c : Char) : Option Nat :=
  if c.isLower then some (c.toNat - 97)
  else if c.isUpper then some (c.toNat - 65)
  else if c.isDigit then some (c.toNat - 22)
  else none

/-- The limit below which the digit of weight `k / 36` is the last one. -/
def threshold (k bias : Nat) : Nat :=
  if k ≤ bias then 1 else if bias + 26 ≤ k then 26 else k - bias

theorem threshold_pos (k bias : Nat) : 0 < threshold k bias := by
  unfold threshold
  split
  · omega
  · split <;> omega

/-- Bring a number below the range of one digit, and count the digits. -/
def shrink (delta k : Nat) : Nat × Nat :=
  if 455 < delta then shrink (delta / 35) (k + 36) else (delta, k)
termination_by delta
decreasing_by omega

/-- The bias after a number has been met. -/
def adapt (delta points : Nat) (isFirst : Bool) : Nat :=
  -- the first number is large: it crosses all that lies between ASCII and the script
  let delta := if isFirst then delta / 700 else delta / 2
  let (delta, k) := shrink (delta + delta / points) 0
  k + 36 * delta / (delta + 38)

/-! ### Writing -/

/-- The digits of a number. -/
def digits (bias k n : Nat) : List Char :=
  let t := threshold k bias
  if n < t then [digitChar n]
  -- what is above the threshold is written in base `36 - t`, least digit first
  else digitChar (t + (n - t) % (36 - t)) :: digits bias (k + 36) ((n - t) / (36 - t))
termination_by n
decreasing_by
  have h := threshold_pos k bias
  have := Nat.div_le_self (n - threshold k bias) (36 - threshold k bias)
  omega

/-- How far a label has been told: what is written, the steps since the last number, the
bias, and the number of characters told. -/
structure Progress where
  written : List Char
  steps : Nat
  bias : Nat
  told : Nat

/-- Pass a place of the label while the code point `n` is told; `basic` characters were
there from the start. -/
def pass (basic n : Nat) (p : Progress) (c : Char) : Progress :=
  -- a smaller character is in its place already, and a larger one is not there yet
  if c.toNat < n then { p with steps := p.steps + 1 }
  else if c.toNat = n then
    { written := p.written ++ digits p.bias 36 p.steps
      steps := 0
      bias := adapt p.steps (p.told + 1) (p.told == basic)
      told := p.told + 1 }
  else p

/-- Tell the code points, given in ascending order; all below `n` have been told. -/
def tell (label : List Char) (basic : Nat) : List Nat → Nat → Progress → Progress
  | [], _, p => p
  | m :: ms, n, p =>
    -- every code point that is left out takes a step for each place there is
    let p := label.foldl (pass basic m) { p with steps := p.steps + (m - n) * (p.told + 1) }
    tell label basic ms (m + 1) { p with steps := p.steps + 1 }

/-- The code points outside ASCII, each once, in ascending order. -/
def codePoints (label : List Char) : List Nat :=
  (((label.map Char.toNat).filter (128 ≤ ·)).mergeSort fun a b => a ≤ b).eraseReps

/-- The Punycode of a label: its ASCII characters, and then where the others go. -/
def encode (label : List Char) : List Char :=
  let basic := label.filter fun c => c.toNat < 128
  -- the hyphen says that ASCII characters stand before it
  let start := if basic.isEmpty then [] else basic ++ ['-']
  (tell label basic.length (codePoints label) 128 ⟨start, 0, 72, basic.length⟩).written

/-! ### Reading -/

/-- Read a number; `weight` is that of the next digit and `n` the sum of those before. -/
def number? (bias : Nat) : Nat → Nat → Nat → List Char → Option (Nat × List Char)
  | _, _, _, [] => none
  | k, weight, n, c :: cs => do
    let d ← digitValue? c
    let t := threshold k bias
    if d < t then some (n + d * weight, cs)
    else number? bias (k + 36) (weight * (36 - t)) (n + d * weight) cs

/-- Whether there is a character with this code point. -/
def isCodePoint (n : Nat) : Bool := n < 0xd800 || (0xdfff < n && n < 0x110000)

/-- Read characters into a label: `n` is the code point and `i` the place at which the
steps start.  Every character takes a digit, so the number of digits is fuel enough. -/
def fill : Nat → Nat → Nat → Nat → List Char → List Char → Option (List Char)
  | _, _, _, _, label, [] => some label
  | 0, _, _, _, _, _ :: _ => none
  | fuel + 1, n, i, bias, label, cs => do
    let (steps, cs) ← number? bias 36 1 0 cs
    let points := label.length + 1
    -- the steps run round the label, and each time round is one code point further
    let n := n + (i + steps) / points
    let place := (i + steps) % points
    if isCodePoint n then
      fill fuel n (place + 1) (adapt steps points (i == 0))
        (label.insertIdx place (Char.ofNat n)) cs
    else none

/-- Split at the last hyphen, unless that comes first. -/
def splitBasic (cs : List Char) : List Char × List Char :=
  match cs.reverse.span (· ≠ '-') with
  -- read backwards, the first hyphen is the last one
  | (rest, _ :: basic) => if basic.isEmpty then ([], cs) else (basic.reverse, rest.reverse)
  | (_, []) => ([], cs)

/-- The label that is written like this, if there is one. -/
def decode? (cs : List Char) : Option (List Char) :=
  let (basic, rest) := splitBasic cs
  if basic.all fun c => c.toNat < 128 then fill rest.length 128 0 72 basic rest else none

end Recommend.Http.Punycode

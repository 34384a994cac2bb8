import Recommend.Number.Decimal
import Recommend.Text.Split

/-!
Numeric addresses of hosts.

A short address is a number of four bytes, written as four decimal parts; it may be
given in fewer parts, and in octal or hexadecimal ones.  A long address is eight groups
of two bytes in hexadecimal digits, and a run of zeros may be left out once.
-/

namespace Recommend.Http.Address

/-- The value of a hexadecimal digit of either case. -/
def hexDigit? (c : Char) : Option Nat :=
  if '0' ≤ c ∧ c ≤ '9' then some (c.toNat - 48)
  else if 'a' ≤ c ∧ c ≤ 'f' then some (c.toNat - 87)
  else if 'A' ≤ c ∧ c ≤ 'F' then some (c.toNat - 55)
  else none

/-- The value of digits in a base. -/
def inBase? (base : Nat) (cs : List Char) : Option Nat :=
  cs.foldlM (fun n c => do
    let d ← hexDigit? c
    if d < base then some (base * n + d) else none) 0

/-! ### Short addresses -/

/-- A part of a short address: hexadecimal after `0x`, octal after `0`, else decimal. -/
def part? : List Char → Option Nat
  | [] => none
  | '0' :: 'x' :: cs => inBase? 16 cs
  -- a zero alone is not the start of an octal number
  | ['0'] => some 0
  | '0' :: cs => inBase? 8 cs
  | cs => inBase? 10 cs

/-- The parts of a host between points; one point at the end does not count. -/
def hostParts (host : List Char) : List (List Char) :=
  let parts := Text.splitBy (· == '.') host
  -- the point at the end of a full name
  if parts.length > 1 && parts.getLast? == some [] then parts.dropLast else parts

/-- Whether the last part makes the host a numeric one. -/
def endsInNumber (host : List Char) : Bool :=
  match (hostParts host).getLast? with
  | none => false
  | some part =>
    -- digits that are too large, or no octal ones, make it numeric too, and then it
    -- is refused
    (!part.isEmpty && part.all Char.isDigit) ||
      (part.take 2 == ['0', 'x'] && (part? part).isSome)

/-- The value of a short address: every part but the last is a byte, and the last one
takes up the rest. -/
def short? (host : List Char) : Option Nat := do
  let parts ← (hostParts host).mapM part?
  match parts.reverse with
  | [] => none
  | last :: before =>
    -- `1.2` is `1.0.0.2`: the last part fills what the others leave
    if before.length ≤ 3 && before.all (· < 256) &&
      decide (last < Nat.pow 256 (4 - before.length)) then
      some (before.reverse.foldl (fun n b => 256 * n + b) 0 *
        Nat.pow 256 (4 - before.length) + last)
    else none

/-- A short address in four decimal parts. -/
def shortText (n : Nat) : List Char :=
  Decimal.natText (n / Nat.pow 256 3 % 256)
    ++ '.' :: Decimal.natText (n / Nat.pow 256 2 % 256)
    ++ '.' :: Decimal.natText (n / 256 % 256) ++ '.' :: Decimal.natText (n % 256)

/-! ### Long addresses -/

/-- A group: one to four hexadecimal digits. -/
def group? (cs : List Char) : Option Nat :=
  if cs.isEmpty || 4 < cs.length then none else inBase? 16 cs

/-- A byte in decimal digits without leading zeros. -/
def byte? (cs : List Char) : Option Nat := do
  let n ←
    if cs.isEmpty || (cs.head? == some '0' && 1 < cs.length) then none else inBase? 10 cs
  if n < 256 then some n else none

/-- The two groups that four decimal bytes make up. -/
def quad? (cs : List Char) : Option (List Nat) :=
  match (Text.splitBy (· == '.') cs).mapM byte? with
  | some [a, b, c, d] => some [256 * a + b, 256 * c + d]
  | _ => none

/-- Groups with colons between them.  The last ones of an address may be given as four
decimal bytes. -/
def groups? (isEnd : Bool) : List (List Char) → Option (List Nat)
  | [] => some []
  | [cs] =>
    match group? cs with
    | some n => some [n]
    -- only the very last group may have points in it
    | none => if isEnd then quad? cs else none
  | cs :: rest => do
    let n ← group? cs
    let ns ← groups? isEnd rest
    some (n :: ns)

/-- The groups of a text that may be empty. -/
def side? (isEnd : Bool) (cs : List Char) : Option (List Nat) :=
  if cs.isEmpty then some [] else groups? isEnd (Text.splitBy (· == ':') cs)

/-- Split at the first two colons in a row. -/
def cutDouble : List Char → List Char × Option (List Char)
  | [] => ([], none)
  | ':' :: ':' :: cs => ([], some cs)
  | c :: cs => ((c :: (cutDouble cs).1), (cutDouble cs).2)

/-- The eight groups of a long address; two colons in a row stand for one zero or more. -/
def long? (cs : List Char) : Option (List Nat) :=
  match cutDouble cs with
  | (all, none) => do
    let groups ← groups? true (Text.splitBy (· == ':') all)
    if groups.length = 8 then some groups else none
  | (before, some after) => do
    let before ← side? false before
    let after ← side? true after
    let given := before.length + after.length
    -- the colons stand for a group at least
    if given ≤ 7 then some (before ++ List.replicate (8 - given) 0 ++ after) else none

/-- The number of zeros at the beginning of each tail of a list. -/
def zeroRuns : List Nat → List Nat
  | [] => []
  | n :: ns => (if n = 0 then (zeroRuns ns).headD 0 + 1 else 0) :: zeroRuns ns

/-- A group in hexadecimal digits, without zeros in front. -/
def groupText (n : Nat) : List Char := Nat.toDigits 16 n

/-- Groups with colons between them. -/
def groupsText (groups : List Nat) : List Char := [':'].intercalate (groups.map groupText)

/-- A long address without the first of its longest runs of zeros, if one has two zeros
or more. -/
def longText (groups : List Nat) : List Char :=
  let runs := zeroRuns groups
  let longest := runs.foldl max 0
  if 2 ≤ longest then
    -- the first of them, if several are as long
    let start := runs.idxOf longest
    groupsText (groups.take start) ++ "::".toList ++
      groupsText (groups.drop (start + longest))
  else groupsText groups

end Recommend.Http.Address

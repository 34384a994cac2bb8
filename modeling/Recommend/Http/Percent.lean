import Recommend.Text.Bytes

/-!
Percent escapes: a percent sign and two hexadecimal digits stand for a byte.
-/

namespace Recommend.Http.Percent

/-- The value of a byte that is a hexadecimal digit. -/
def hexValue? (b : UInt8) : Option Nat :=
  let n := b.toNat
  if 48 ≤ n ∧ n ≤ 57 then some (n - 48)
  else if 65 ≤ n ∧ n ≤ 70 then some (n - 55)
  else if 97 ≤ n ∧ n ≤ 102 then some (n - 87)
  else none

/-- The byte that two digits stand for. -/
def pair? (a b : UInt8) : Option UInt8 := do
  let high ← hexValue? a
  let low ← hexValue? b
  some (UInt8.ofNat (16 * high + low))

/-- Replace the escapes; a percent sign that starts none stands for itself. -/
def decode : Bytes → Bytes
  | [] => []
  | [b] => [b]
  | [b, c] => [b, c]
  -- 37 is the percent sign
  | b :: c :: d :: bs =>
    if b = 37 then
      match pair? c d with
      | some e => e :: decode bs
      -- no two digits follow, so the sign stands for itself and the next byte is
      -- looked at
      | none => b :: decode (c :: d :: bs)
    else b :: decode (c :: d :: bs)

/-- The escape of a byte. -/
def escape (b : UInt8) : List Char :=
  ['%', (Nat.digitChar (b.toNat / 16)).toUpper, (Nat.digitChar (b.toNat % 16)).toUpper]

/-- Escape the bytes of the characters that may not stand for themselves, and of all
outside ASCII. -/
def encode (reserved : Char → Bool) (cs : List Char) : List Char :=
  cs.flatMap fun c =>
    -- one escape for each byte of the character
    if c.toNat < 32 || 127 ≤ c.toNat || reserved c then
      (Bytes.ofText c.toString).flatMap escape
    else [c]

end Recommend.Http.Percent

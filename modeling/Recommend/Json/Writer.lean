import Recommend.Json.Basic

/-!
JSON documents as text, compact or indented.

Strings escape the quote, the backslash and the control characters, and nothing else.
-/

namespace Recommend.Json

/-- One character of a string literal.  Controls without a short escape have four
hexadecimal digits. -/
def escapeChar (c : Char) : List Char :=
  match c with
  | '"' => ['\\', '"']
  | '\\' => ['\\', '\\']
  | '\x08' => ['\\', 'b']
  | '\x0c' => ['\\', 'f']
  | '\n' => ['\\', 'n']
  | '\r' => ['\\', 'r']
  | '\t' => ['\\', 't']
  | c =>
    if c.toNat < 0x20 then
      ['\\', 'u', '0', '0', Nat.digitChar (c.toNat / 16), Nat.digitChar (c.toNat % 16)]
    else [c]

/-- A string literal between quotes. -/
def literal (s : String) : List Char := '"' :: (s.toList.flatMap escapeChar ++ ['"'])

/-! ### Compact text -/

mutual

/-- The text of a document without any white space. -/
def chars : Json → List Char
  | .null => ['n', 'u', 'l', 'l']
  | .bool true => ['t', 'r', 'u', 'e']
  | .bool false => ['f', 'a', 'l', 's', 'e']
  | .number n => n.text
  | .text s => literal s
  | .array items => '[' :: (charsItems items ++ [']'])
  | .object members => '\x7b' :: (charsMembers members ++ ['\x7d'])

/-- Items with commas between them. -/
def charsItems : List Json → List Char
  | [] => []
  | [j] => j.chars
  | j :: js => j.chars ++ ',' :: charsItems js

/-- Members with commas between them. -/
def charsMembers : List (String × Json) → List Char
  | [] => []
  | [(name, j)] => literal name ++ ':' :: j.chars
  | (name, j) :: ms => literal name ++ ':' :: j.chars ++ ',' :: charsMembers ms

end

/-- The written form without white space. -/
def compact (j : Json) : String := String.ofList j.chars

/-! ### Indented text -/

/-- A line break and the indentation of a nesting depth. -/
def newline (depth : Nat) : List Char := '\n' :: List.replicate (2 * depth) ' '

mutual

/-- The text of a document with one item or member a line. -/
def prettyChars (depth : Nat) : Json → List Char
  | .array (j :: js) =>
    '[' :: (newline (depth + 1) ++ prettyItems (depth + 1) (j :: js) ++ newline depth ++
      [']'])
  | .object (m :: ms) =>
    '\x7b' :: (newline (depth + 1) ++ prettyMembers (depth + 1) (m :: ms) ++
      newline depth ++ ['\x7d'])
  -- empty containers stay on one line
  | .array [] => ['[', ']']
  | .object [] => ['\x7b', '\x7d']
  | .null => chars .null
  | .bool b => chars (.bool b)
  | .number n => n.text
  | .text s => literal s

/-- Items on lines of their own. -/
def prettyItems (depth : Nat) : List Json → List Char
  | [] => []
  | [j] => prettyChars depth j
  | j :: js => prettyChars depth j ++ ',' :: newline depth ++ prettyItems depth js

/-- Members on lines of their own. -/
def prettyMembers (depth : Nat) : List (String × Json) → List Char
  | [] => []
  | [(name, j)] => literal name ++ ':' :: ' ' :: prettyChars depth j
  | (name, j) :: ms =>
    literal name ++ ':' :: ' ' :: prettyChars depth j ++ ',' :: newline depth ++
      prettyMembers depth ms

end

/-- The text with an indentation of two spaces and no final line break. -/
def pretty (j : Json) : String := String.ofList (prettyChars 0 j)

end Recommend.Json

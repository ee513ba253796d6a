/-
  Quoted texts — a text shown between double quotes so that every character of it can be told
  apart.  A quote, a backslash and the common controls have short escapes; any other character
  that would not show as itself is written by its code point in hexadecimal.
-/
import FluentBuilders.Text.PrintTable

namespace FluentBuilders.Text

/-- Whether a character of a quoted text shows as itself. -/
def isShown (c : Char) : Bool :=
  if c.toNat < 0x80 then decide (0x20 ≤ c.toNat) && c.toNat != 0x7F
  else !inSpans attachingSpans c.toNat && !inSpans hiddenSpans c.toNat

/-- The hexadecimal digits of a number, small letters, without leading zeros. -/
def hexDigits (n : Nat) : List Char := Nat.toDigits 16 n

/-- One character of a quoted text. -/
def quotedChar (c : Char) : List Char :=
  if c = '"' then ['\\', '"']
  else if c = '\\' then ['\\', '\\']
  else if c = '\n' then ['\\', 'n']
  else if c = '\r' then ['\\', 'r']
  else if c = '\t' then ['\\', 't']
  else if c = '\x00' then ['\\', '0']
  else if isShown c then [c]
  else ['\\', 'u', '\x7b'] ++ hexDigits c.toNat ++ ['\x7d']

/-- A text between double quotes. -/
def quoted (s : String) : String :=
  String.ofList ('"' :: s.toList.flatMap quotedChar ++ ['"'])

end FluentBuilders.Text

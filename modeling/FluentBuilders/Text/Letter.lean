/-
  Letters and their case — the two letter properties and the full case mappings.

  A mapping takes one character to one or more: the sharp s becomes two letters in upper case,
  and the dotted capital I becomes an i with a combining dot in lower case.  Each character is
  mapped on its own; where it stands in a word makes no difference.  ASCII is decided before any
  table is looked at.
-/
import FluentBuilders.Text.LetterTable
import FluentBuilders.Text.CaseTable

namespace FluentBuilders.Text

/-- Whether a character has the property Lowercase. -/
def isLowercase (c : Char) : Bool :=
  if c.toNat < 0x80 then c.isLower else inSpans lowercaseSpans c.toNat

/-- Whether a character has the property Uppercase. -/
def isUppercase (c : Char) : Bool :=
  if c.toNat < 0x80 then c.isUpper else inSpans uppercaseSpans c.toNat

/-- A character in lower case. -/
def lowered (c : Char) : List Char :=
  if c.toNat < 0x80 then [c.toLower]
  else if c = '\u0130' then ['i', '\u0307']
  else [Char.ofNat (shifted lowerShifts c.toNat)]

/-- A character in upper case. -/
def raised (c : Char) : List Char :=
  if c.toNat < 0x80 then [c.toUpper]
  else match upperExpansions.lookup c.toNat with
    | some cs => cs.map Char.ofNat
    | none => [Char.ofNat (shifted upperShifts c.toNat)]

end FluentBuilders.Text

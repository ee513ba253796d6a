/-
  Words — the texts that the generated language takes for one identifier: a letter or an
  underscore, then letters, digits and connecting marks, in the sense of the Unicode standard.
-/
import FluentBuilders.Text.WordTable

namespace FluentBuilders.Text

/-- Whether a character may begin a word. -/
def isWordStart (c : Char) : Bool :=
  if c.toNat < 0x80 then c.isAlpha || c == '_' else inSpans wordStartSpans c.toNat

/-- Whether a character may stand inside a word. -/
def isWordPart (c : Char) : Bool :=
  if c.toNat < 0x80 then c.isAlphanum || c == '_'
  else inSpans wordStartSpans c.toNat || inSpans wordRestSpans c.toNat

/-- Whether a text is one word. -/
def isWord : List Char → Bool
  | [] => false
  | c :: r => isWordStart c && r.all isWordPart

end FluentBuilders.Text

/-
  Path texts — a path as a user writes it by hand.

  Such a path may contain blanks and comments between its tokens, raw words, and segments applied
  to types of any kind.  Whatever is left over makes the text no path.  Lifetimes are moved in front
  of the other arguments, where they are written.
-/
import FluentBuilders.Code.Grammar
import FluentBuilders.Code.TokenList
import FluentBuilders.Code.TokenText

namespace FluentBuilders.Code.Path

/-- The path that a text stands for, or why it is none. -/
def ofText (s : String) : Except Refusal Path :=
  match Token.ofText? s with
  | some ts => ofTokens ts
  | none => .error .noTokens

/-- The tokens of a path, run together.  Blanks within a token go too. -/
def compact (p : Path) : String :=
  String.ofList ((p.tokens.flatMap fun t => t.text.toList).filter (· != ' '))

end FluentBuilders.Code.Path

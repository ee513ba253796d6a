/-
  Refusals — why something is not code, in the words of a reader of the language.

  A reader goes from left to right and says what it wanted where it could not go on, and whether
  there was anything more at all.
-/

namespace FluentBuilders.Code

/-- What a reader can want next. -/
inductive Want
  | identifier
  | integer
  | literal
  | lifetime
  | expression
  /-- A block, or a loop. -/
  | loop
  /-- A bracket of any kind. -/
  | delimiter
  | parentheses
  | squareBrackets
  | curlyBraces
  /-- A sign or a word of the language. -/
  | sign (text : String)
  deriving DecidableEq, Repr

/-- What is wanted, in words. -/
def Want.text : Want → String
  | .identifier => "identifier"
  | .integer => "integer"
  | .literal => "literal"
  | .lifetime => "lifetime"
  | .expression => "an expression"
  | .loop => "loop or block expression"
  | .delimiter => "delimiter"
  | .parentheses => "parentheses"
  | .squareBrackets => "square brackets"
  | .curlyBraces => "curly braces"
  | .sign s => "`" ++ s ++ "`"

/-- Why something is not code. -/
inductive Refusal
  /-- The text has no tokens, because a comment or a bracket is left open or a character belongs to
      nothing. -/
  | noTokens
  /-- Something else stands where one of several things is wanted, or nothing does. -/
  | expected (wants : List Want) (atEnd : Bool)
  /-- A reserved word stands for an identifier. -/
  | reserved (word : String)
  /-- Arguments are read as two comparisons. -/
  | comparisons
  /-- A type that stands for its traits names none. -/
  | objectWithoutTrait
  /-- A type that is only known by its traits has none. -/
  | unknownWithoutTrait
  /-- A trait is waived and at the same time meant for several lifetimes. -/
  | boundWaiver
  /-- Names that a type may depend on stand where no type is known only by its traits. -/
  | capture
  /-- A cast is followed by what cannot follow it. -/
  | castLink (what : String)
  /-- A number that stands for a field has a suffix. -/
  | suffixedIndex
  /-- A way out of a loop is followed by a label that belongs to what follows. -/
  | looseLabel
  /-- A range has a closed end and does not say which. -/
  | openRange (atEnd : Bool)
  /-- A range with one end only stands in a list of patterns. -/
  | halfRange
  /-- Something is left over, in front of a mark if one is given. -/
  | leftOver (mark : Option Char)
  deriving DecidableEq, Repr

namespace Refusal

/-- Nothing but one thing was wanted. -/
def wanted (w : Want) : Refusal := .expected [w] false

/-- Nothing but a sign was wanted. -/
def wantedSign (s : String) : Refusal := .wanted (.sign s)

/-- Several things that are wanted, in words. -/
def wantsText : List Want → String
  | [] => "unexpected token"
  | [a] => "expected " ++ a.text
  | [a, b] => "expected " ++ a.text ++ " or " ++ b.text
  | ws => "expected one of: " ++ String.intercalate ", " (ws.map Want.text)

/-- What stands in front of a refusal at the end of a source. -/
def endPrefix (atEnd : Bool) : String := if atEnd then "unexpected end of input, " else ""

/-- A refusal in words. -/
def message : Refusal → String
  | .noTokens => "cannot parse string into token stream"
  | .expected wants atEnd => endPrefix atEnd ++ wantsText wants
  | .reserved w => "expected identifier, found keyword `" ++ w ++ "`"
  | .comparisons => "comparison operators cannot be chained"
  | .objectWithoutTrait => "at least one trait is required for an object type"
  | .unknownWithoutTrait => "at least one trait must be specified"
  | .boundWaiver => "`for<...>` binder not allowed with `?` trait polarity modifier"
  | .capture => "`use<...>` precise capturing syntax is not allowed here"
  | .castLink what => "casts cannot be followed by " ++ what
  | .suffixedIndex => "expected unsuffixed integer"
  | .looseLabel => "parentheses required"
  | .openRange atEnd => endPrefix atEnd ++ "expected range upper bound"
  | .halfRange => "range pattern is not allowed unparenthesized inside slice pattern"
  | .leftOver none => "unexpected token"
  | .leftOver (some c) => "unexpected token, expected `" ++ String.singleton c ++ "`"

/-- What may begin a type. -/
def typeWants : List Want :=
  [.sign "for", .parentheses, .sign "fn", .sign "unsafe", .sign "extern", .identifier, .sign "::",
   .sign "<", .sign "dyn", .squareBrackets, .sign "*", .sign "&", .sign "!", .sign "impl",
   .sign "_", .lifetime]

/-- What may follow a binder in front of a type. -/
def boundTypeWants : List Want :=
  [.identifier, .sign "fn", .sign "unsafe", .sign "extern", .sign "super", .sign "self",
   .sign "Self", .sign "crate"]

/-- What may begin a pattern. -/
def patternWants : List Want :=
  [.identifier, .sign "::", .sign "<", .sign "_", .literal, .sign "const", .sign "ref", .sign "mut",
   .sign "&", .parentheses, .squareBrackets, .sign "..", .sign "const"]

/-- What may be an end of a range in a pattern. -/
def rangeWants : List Want :=
  [.literal, .identifier, .sign "::", .sign "<", .sign "self", .sign "Self", .sign "super",
   .sign "crate", .sign "const"]

/-- What may be a piece of an import. -/
def importWants : List Want :=
  [.identifier, .sign "self", .sign "super", .sign "crate", .sign "try", .sign "*", .curlyBraces]

end Refusal

end FluentBuilders.Code

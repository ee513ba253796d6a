/-
  Tokens — what code is made of, before any grammar.

  An identifier, a keyword and a literal are one token each, and so is every punctuation character
  and every bracket: the path separator is two tokens.  A mark that makes up one sign with the mark
  behind it is joint to it, which tells the separator from two colons.
-/

namespace FluentBuilders.Code

/-- A token. -/
inductive Token
  | word (text : String)
  | mark (c : Char) (joint : Bool := false)
  | literal (text : String)
  deriving DecidableEq, Repr

namespace Token

/-- A token as it is written. -/
def text : Token → String
  | .word s => s
  | .mark c _ => String.singleton c
  | .literal s => s

/-- A token list as one line, with a blank between tokens. -/
def line (ts : List Token) : String := String.intercalate " " (ts.map text)

/-- The marks of a sign. -/
def sign : List Char → List Token
  | [] => []
  | [c] => [.mark c]
  | c :: d :: r => .mark c true :: sign (d :: r)

/-- The marks of a sign that is given as a text. -/
def marks (s : String) : List Token := sign s.toList

/-- Token lists with a mark between neighbours, and behind the last if `last` says so. -/
def sepBy (c : Char) (last : Bool) : List (List Token) → List Token
  | [] => []
  | [ts] => ts ++ (if last then [.mark c] else [])
  | ts :: us :: r => ts ++ .mark c :: sepBy c last (us :: r)

/-- Tokens between a pair of brackets. -/
def between (a b : Char) (ts : List Token) : List Token := .mark a :: ts ++ [.mark b]

/-- The bracket that closes what a bracket opens. -/
def closing? : Char → Option Char
  | '(' => some ')'
  | '[' => some ']'
  | '\x7b' => some '\x7d'
  | _ => none

/-- Whether a character is a closing bracket. -/
def isClosing (c : Char) : Bool := c == ')' || c == ']' || c == '\x7d'

end Token

end FluentBuilders.Code

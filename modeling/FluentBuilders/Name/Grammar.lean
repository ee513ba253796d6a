/-
  Names and paths — which texts a descriptor may use where a name is declared or a type is named.

  A plain word is an ASCII letter or underscore followed by letters, digits and underscores.  An
  identifier is a plain word other than the five that name a place in the module tree or a hole.
  A path is an optional leading `::` and plain words joined by `::`; those five are allowed there.

  `split` cuts a path at each `::` from the left; `lastSegment` looks for the last `::` from the
  right.  On paths the two agree; on a text with three colons in a row they do not.
-/
import FluentBuilders.Text.Word

namespace FluentBuilders.Name

/-! ## Words -/

/-- The characters that begin a plain word. -/
def isStart (c : Char) : Bool := c.isAlpha || c == '_'

/-- The characters inside a plain word. -/
def isPart (c : Char) : Bool := c.isAlphanum || c == '_'

/-- Whether a text is a plain word. -/
def isPlain : List Char → Bool
  | [] => false
  | c :: r => isStart c && r.all isPart

/-- The words that name a place rather than a thing, and the hole.  They cannot be escaped. -/
def placeWords : List String := ["self", "Self", "super", "crate", "_"]

/-- The words of the generated language that are not free as names. -/
def keywords : List String :=
  ["as", "break", "const", "continue", "crate", "else", "enum", "extern", "false", "fn", "for",
   "if", "impl", "in", "let", "loop", "match", "mod", "move", "mut", "pub", "ref", "return",
   "static", "struct", "super", "trait", "true", "type", "unsafe", "use", "where", "while",
   "async", "await", "dyn", "try", "abstract", "become", "box", "do", "final", "macro",
   "override", "priv", "typeof", "unsized", "virtual", "yield", "gen", "self", "Self"]

/-- Whether a name has to be escaped where it is written. -/
def isEscaped (s : String) : Bool :=
  keywords.contains s && !placeWords.contains s

/-- Whether a text can name a declared thing. -/
def isIdentifier (s : String) : Bool :=
  isPlain s.toList && !placeWords.contains s

/-! ## Paths -/

/-- The pieces of a text between its separators `::`, found from the left. -/
def pieces : List Char → List (List Char)
  | [] => [[]]
  | ':' :: ':' :: r => [] :: pieces r
  | c :: r =>
    match pieces r with
    | [] => [[c]]
    | p :: ps => (c :: p) :: ps

/-- Whether a text begins with a separator, and the text after it. -/
def stripLeading : List Char → Bool × List Char
  | ':' :: ':' :: r => (true, r)
  | cs => (false, cs)

/-- A path taken apart: whether it is absolute, and its segments. -/
def split (s : String) : Bool × List String :=
  let (leading, rest) := stripLeading s.toList
  (leading, (pieces rest).map String.ofList)

/-- Whether a text is a path. -/
def isPath (s : String) : Bool :=
  (split s).2.all (isPlain ·.toList)

/-- The characters in front of the first separator. -/
def beforeSeparator : List Char → List Char
  | [] => []
  | ':' :: ':' :: _ => []
  | c :: r => c :: beforeSeparator r

/-- What follows the last separator of a text. -/
def lastSegment (s : String) : String :=
  String.ofList (beforeSeparator s.toList.reverse).reverse

/-- Two paths, or a path and a name, joined. -/
def join (parent child : String) : String := parent ++ "::" ++ child

end FluentBuilders.Name

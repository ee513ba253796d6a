/-
  Reserved words — what a word may stand for where the generated language reads it.

  A word written raw is always free.  Of the reserved words five may still be segments of a path,
  and all but one of these only without arguments.
-/
import FluentBuilders.Code.Tree

namespace FluentBuilders.Code

/-- The words of the language that can name nothing as they are. -/
def reservedWords : List String :=
  ["_", "abstract", "as", "async", "await", "become", "box", "break", "const", "continue", "crate",
   "do", "dyn", "else", "enum", "extern", "false", "final", "fn", "for", "if", "impl", "in", "let",
   "loop", "macro", "match", "mod", "move", "mut", "override", "priv", "pub", "ref", "return",
   "Self", "self", "static", "struct", "super", "trait", "true", "try", "type", "typeof", "unsafe",
   "unsized", "use", "virtual", "where", "while", "yield"]

namespace Ident

/-- The identifier that a word stands for. -/
def ofWord (w : String) : Ident :=
  if w.startsWith "r#" then ⟨String.ofList (w.toList.drop 2), true⟩ else ⟨w, false⟩

/-- Whether an identifier names something as it is written. -/
def isFree (i : Ident) : Bool := i.raw || !reservedWords.contains i.word

/-- Whether an identifier is a segment to which nothing can be applied. -/
def isBareSegment (i : Ident) : Bool := !i.raw && ["super", "self", "crate", "try"].contains i.word

/-- Whether an identifier is a segment that may be applied to types. -/
def isSegment (i : Ident) : Bool := i.isFree || i == ⟨"Self", false⟩

/-- Whether an identifier is the hole that stands for any type. -/
def isHole (i : Ident) : Bool := i == ⟨"_", false⟩

/-- Whether an identifier may begin a path that stands for a type. -/
def isTypeStart (i : Ident) : Bool := i != ⟨"try", false⟩

end Ident

end FluentBuilders.Code

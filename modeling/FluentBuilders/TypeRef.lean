/-
  Type references — a named type applied to arguments, possibly nullable.

  The name is a path in any spelling.  A nullable type is the option type of what it would be
  otherwise.
-/
import FluentBuilders.Name.Grammar

namespace FluentBuilders

/-- A type: its name, its arguments, and whether it admits the absent value. -/
structure TypeRef where
  name : String
  arguments : List TypeRef := []
  nullable : Bool := false
  deriving Repr, BEq, Inhabited

namespace TypeRef

/-- The last segment of the name, however the path to it is spelled. -/
def simpleName (t : TypeRef) : String := Name.lastSegment t.name

/-- The type that does not admit the absent value. -/
def required (t : TypeRef) : TypeRef := { t with nullable := false }

/-- A type applied to type parameters. -/
def applied (name : String) (parameters : List String) : TypeRef :=
  { name, arguments := parameters.map fun p => { name := p } }

mutual

/-- Whether a name occurs in a type, its arguments included. -/
def mentions (name : String) : TypeRef → Bool
  | ⟨n, arguments, _⟩ => n == name || mentionsAny name arguments

/-- Whether a name occurs in one of several types. -/
def mentionsAny (name : String) : List TypeRef → Bool
  | [] => false
  | t :: ts => mentions name t || mentionsAny name ts

end

mutual

/-- The full spelling of a type. -/
def text : TypeRef → String
  | ⟨name, arguments, nullable⟩ =>
    let base := if arguments.isEmpty then name else name ++ "<" ++ textList arguments ++ ">"
    if nullable then "Option<" ++ base ++ ">" else base

/-- The spellings of several types, separated by commas. -/
def textList : List TypeRef → String
  | [] => ""
  | [t] => text t
  | t :: u :: us => text t ++ ", " ++ textList (u :: us)

end

mutual

/-- The first name in a type that is not a path. -/
def badName? : TypeRef → Option String
  | ⟨name, arguments, _⟩ =>
    if Name.isPath name then badNameIn? arguments else some name

/-- The first name in several types that is not a path. -/
def badNameIn? : List TypeRef → Option String
  | [] => none
  | t :: ts => badName? t <|> badNameIn? ts

end

end TypeRef

end FluentBuilders

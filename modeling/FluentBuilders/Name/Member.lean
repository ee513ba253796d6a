/-
  Names of generated things — the fixed convention that callers of a generated builder rely on.

  The builder of a class is the class name with `Builder` appended, a collection scope is the
  parameter in Pascal case with `Collection` appended, and the entry function is the display name
  of the class or its decapitalized name.  The members of a parameter carry its name.
-/
import FluentBuilders.Text.Blank
import FluentBuilders.Text.Case

namespace FluentBuilders.Name

open FluentBuilders.Text

/-- The builder of a class. -/
def builder (className : String) : String := className ++ "Builder"

/-- The module that holds a builder. -/
def moduleOf (builderName : String) : String := snakeCase builderName

/-- The scope type in which the elements of a collection parameter are added. -/
def scope (parameter : String) : String := pascalCase parameter ++ "Collection"

/-- The text of a name without blanks around it, if anything is left. -/
def trimmed? (name : String) : Option String :=
  match trimBlanks name.toList with
  | [] => none
  | cs => some (String.ofList cs)

/-- The entry function of a class. -/
def entry (display : Option String) (className : String) : String :=
  match display.bind trimmed? with
  | some name => name
  | none => decapitalized className

/-- The chained setter of a parameter. -/
def setter (parameter : String) : String := "with_" ++ parameter

/-- The assigning setter of a parameter. -/
def mutator (parameter : String) : String := "set_" ++ parameter

/-- The function that adds one element to an inline collection. -/
def insert (parameter : String) : String := "add_" ++ parameter

/-- The field that holds the elements added to an inline collection. -/
def storage (parameter : String) : String := parameter ++ "_items"

end FluentBuilders.Name

/-
  Case conversions of names — snake case, Pascal case, and the decapitalized form.

  Snake case looks at the characters as they are given: an underscore goes between a lower-case
  letter and an upper-case one, separators become underscores, and everything is then written in
  lower case.
  Pascal case raises the first character and each one after a separator, and lowers a character
  whose neighbour on the left is not a lower-case letter.
-/
import FluentBuilders.Text.Letter

namespace FluentBuilders.Text

/-- The characters that separate the words of a name. -/
def isSeparator (c : Char) : Bool :=
  c == ' ' || c == '-' || c == '_'

/-- Snake case, one character: `last` is the character before it. -/
def snakeStep (last : Option Char) (c : Char) : List Char :=
  if isSeparator c then ['_']
  else if last.any isLowercase && isUppercase c then '_' :: lowered c
  else lowered c

/-- Snake case of the characters that follow `last`. -/
def snakeFrom : Option Char → List Char → List Char
  | _, [] => []
  | last, c :: r => snakeStep last c ++ snakeFrom (some c) r

/-- The name in snake case. -/
def snakeCase (s : String) : String :=
  String.ofList (snakeFrom none s.toList)

/-- Pascal case of the characters that follow `last`; `up` says that the next one is raised. -/
def pascalFrom : Bool → Option Char → List Char → List Char
  | _, _, [] => []
  | true, _, c :: r => raised c ++ pascalFrom false (some c) r
  | false, last, c :: r =>
    if isSeparator c then pascalFrom true (some c) r
    else if last.any isLowercase then c :: pascalFrom false (some c) r
    else lowered c ++ pascalFrom false (some c) r

/-- The name in Pascal case. -/
def pascalCase (s : String) : String :=
  String.ofList (pascalFrom true none s.toList)

/-- The name with its first character in lower case. -/
def decapitalized (s : String) : String :=
  match s.toList with
  | [] => ""
  | c :: r => String.ofList (lowered c ++ r)

end FluentBuilders.Text

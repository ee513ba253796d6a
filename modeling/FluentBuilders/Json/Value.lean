/-
  JSON values and their compact text.

  An object keeps its members in the order in which they were written.  The compact text has no
  blanks; a string is written with the short escapes for the quote, the backslash and the five
  common controls, with a four-digit escape for any other control, and with everything else raw.
-/
import FluentBuilders.Number.Shortest

namespace FluentBuilders

/-- A number of a JSON text: a whole number of 64 bits, or a double. -/
inductive Json.Number
  | whole (value : Int)
  | double (value : Binary64)
  deriving DecidableEq, Repr

/-- A JSON value. -/
inductive Json
  | null
  | bool (value : Bool)
  | number (value : Json.Number)
  | text (value : String)
  | list (items : List Json)
  | object (members : List (String × Json))
  deriving Repr, Inhabited

namespace Json

/-! ## Numbers and strings -/

/-- The decimal text of a whole number. -/
def wholeText (n : Int) : List Char :=
  if n < 0 then '-' :: Nat.toDigits 10 n.natAbs else Nat.toDigits 10 n.natAbs

/-- The text of a number. -/
def Number.print : Number → List Char
  | .whole n => wholeText n
  | .double x => x.text.toList

/-- One of the sixteen hexadecimal digits, small letters. -/
def hexDigit (n : Nat) : Char :=
  if n < 10 then Char.ofNat (0x30 + n) else Char.ofNat (0x57 + n)

/-- One character inside a string. -/
def escaped (c : Char) : List Char :=
  if c = '"' then ['\\', '"']
  else if c = '\\' then ['\\', '\\']
  else if c = '\x08' then ['\\', 'b']
  else if c = '\t' then ['\\', 't']
  else if c = '\n' then ['\\', 'n']
  else if c = '\x0c' then ['\\', 'f']
  else if c = '\r' then ['\\', 'r']
  else if c.toNat < 0x20 then
    ['\\', 'u', '0', '0', hexDigit (c.toNat / 16), hexDigit (c.toNat % 16)]
  else [c]

/-- A string between its quotes. -/
def printText (s : String) : List Char :=
  '"' :: s.toList.flatMap escaped ++ ['"']

/-! ## Values -/

mutual

/-- The compact text of a value. -/
def print : Json → List Char
  | .null => ['n', 'u', 'l', 'l']
  | .bool true => ['t', 'r', 'u', 'e']
  | .bool false => ['f', 'a', 'l', 's', 'e']
  | .number n => n.print
  | .text s => printText s
  | .list items => '[' :: printItems items
  | .object members => '\x7b' :: printMembers members

/-- The items of a list and its closing bracket. -/
def printItems : List Json → List Char
  | [] => [']']
  | [v] => print v ++ [']']
  | v :: w :: r => print v ++ ',' :: printItems (w :: r)

/-- The members of an object and its closing brace. -/
def printMembers : List (String × Json) → List Char
  | [] => ['\x7d']
  | [(k, v)] => printText k ++ ':' :: print v ++ ['\x7d']
  | (k, v) :: m :: r => printText k ++ ':' :: print v ++ ',' :: printMembers (m :: r)

end

/-- The compact text of a value as a string. -/
def compact (v : Json) : String := String.ofList v.print

/-! ## Access -/

/-- The first member of an object with a key. -/
def get? (v : Json) (key : String) : Option Json :=
  match v with
  | .object members => members.lookup key
  | _ => none

/-- A whole number. -/
def ofNat (n : Nat) : Json := .number (.whole n)

/-- A string, or null. -/
def ofText? : Option String → Json
  | some s => .text s
  | none => .null

end Json

end FluentBuilders

/-
  Faults — what can be wrong with a JSON document, and where.

  A fault is a cause at an offset: the number of bytes in front of the place where reading
  stopped.  Lines are counted from one and columns from zero, so the column is the number of bytes
  since the last line break.
-/
import FluentBuilders.Json.Value
import FluentBuilders.Text.Quoted

namespace FluentBuilders.Json

/-- What stands in a document where something else was wanted. -/
inductive Found
  | null
  | flag (value : Bool)
  | number (value : Number)
  | text (value : String)
  | sequence
  | map
  deriving DecidableEq, Repr

/-- Why a document cannot be read. -/
inductive Cause
  /-- The text ends where a value should be. -/
  | valueCut
  /-- The text ends inside an object. -/
  | objectCut
  /-- The text ends inside a list. -/
  | listCut
  /-- The text ends inside a string. -/
  | stringCut
  | noValue
  | noIdent
  | noColon
  | noCommaOrBracket
  | noCommaOrBrace
  | keyNotString
  | trailingComma
  | trailingCharacters
  | badNumber
  | numberTooLarge
  | badEscape
  | loneSurrogate
  | escapeCut
  | badCodePoint
  | controlCharacter
  | tooDeep
  | wrongType (found : Found) (expected : String)
  | wrongInteger (found : Int) (expected : String)
  | wrongLength (found : Nat) (form : String) (size : Nat)
  | unknownVariant (found : String) (known : List String)
  | missingField (key : String)
  | duplicateField (key : String)
  deriving DecidableEq, Repr

/-- A cause and the number of bytes in front of it. -/
structure Fault where
  offset : Nat
  cause : Cause
  deriving DecidableEq, Repr

/-! ## Wording -/

/-- A word between the marks used for code in messages. -/
def ticked (s : String) : String := "`" ++ s ++ "`"

/-- What was found, in words. -/
def Found.describe : Found → String
  | .null => "null"
  | .flag b => "boolean " ++ ticked (if b then "true" else "false")
  | .number (.whole n) => "integer " ++ ticked (String.ofList (wholeText n))
  | .number (.double x) => "floating point " ++ ticked x.text
  | .text s => "string " ++ Text.quoted s
  | .sequence => "sequence"
  | .map => "map"

/-- A cause in words. -/
def Cause.message : Cause → String
  | .valueCut => "EOF while parsing a value"
  | .objectCut => "EOF while parsing an object"
  | .listCut => "EOF while parsing a list"
  | .stringCut => "EOF while parsing a string"
  | .noValue => "expected value"
  | .noIdent => "expected ident"
  | .noColon => "expected " ++ ticked ":"
  | .noCommaOrBracket => "expected " ++ ticked "," ++ " or " ++ ticked "]"
  | .noCommaOrBrace => "expected " ++ ticked "," ++ " or " ++ ticked "\x7d"
  | .keyNotString => "key must be a string"
  | .trailingComma => "trailing comma"
  | .trailingCharacters => "trailing characters"
  | .badNumber => "invalid number"
  | .numberTooLarge => "number out of range"
  | .badEscape => "invalid escape"
  | .loneSurrogate => "lone leading surrogate in hex escape"
  | .escapeCut => "unexpected end of hex escape"
  | .badCodePoint => "invalid unicode code point"
  | .controlCharacter => "control character (\\u0000-\\u001F) found while parsing a string"
  | .tooDeep => "recursion limit exceeded"
  | .wrongType found expected => "invalid type: " ++ found.describe ++ ", expected " ++ expected
  | .wrongInteger n expected =>
    "invalid value: integer " ++ ticked (String.ofList (wholeText n)) ++ ", expected " ++ expected
  | .wrongLength n form size =>
    "invalid length " ++ toString n ++ ", expected " ++ form ++ " with " ++ toString size
      ++ (if size = 1 then " element" else " elements")
  | .unknownVariant found known =>
    "unknown variant " ++ ticked found ++ ", expected one of "
      ++ String.intercalate ", " (known.map ticked)
  | .missingField key => "missing field " ++ ticked key
  | .duplicateField key => "duplicate field " ++ ticked key

/-! ## Positions -/

/-- A line and a column. -/
structure Position where
  line : Nat
  column : Nat
  deriving DecidableEq, Repr

/-- The position after the first `offset` bytes of a text. -/
def Position.after (bytes : List UInt8) (offset : Nat) : Position :=
  (bytes.take offset).foldl
    (fun p b => if b == 0x0A then ⟨p.line + 1, 0⟩ else ⟨p.line, p.column + 1⟩) ⟨1, 0⟩

/-- A cause with its position, in words. -/
def Cause.messageAt (c : Cause) (p : Position) : String :=
  c.message ++ " at line " ++ toString p.line ++ " column " ++ toString p.column

end FluentBuilders.Json

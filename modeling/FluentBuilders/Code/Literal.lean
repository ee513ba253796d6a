/-
  Literals — texts, bytes and numbers as they are written in code.

  Each reader takes the characters from the beginning of a literal and gives those behind it, or
  nothing if no such literal begins there.  A word directly behind a literal is its suffix and
  belongs to it.
-/
import FluentBuilders.Text.Word

namespace FluentBuilders.Code.Literal

open Text

/-! ## Suffixes -/

/-- What follows the word at the beginning of a text, if there is one. -/
def afterWord? : List Char → Option (List Char)
  | c :: r => if isWordStart c then some (r.dropWhile isWordPart) else none
  | [] => none

/-- What follows the suffix of a literal. -/
def afterSuffix (cs : List Char) : List Char := (afterWord? cs).getD cs

/-- The rest of a text, if no word goes on there. -/
def wordBreak : List Char → Option (List Char)
  | c :: r => if isWordPart c then none else some (c :: r)
  | [] => some []

/-! ## Escapes -/

/-- What may stand between the quotes of a literal. -/
structure Quoting where
  /-- Characters beyond ASCII, by themselves and by number. -/
  wide : Bool
  /-- Bytes beyond ASCII, by number. -/
  bytes : Bool
  /-- The character with the number zero. -/
  zero : Bool
  deriving DecidableEq, Repr

namespace Quoting

/-- Text. -/
def text : Quoting := ⟨true, false, true⟩

/-- Bytes. -/
def binary : Quoting := ⟨false, true, true⟩

/-- Text that ends at its first zero. -/
def terminated : Quoting := ⟨true, true, false⟩

/-- Whether a character may stand for itself. -/
def admits (q : Quoting) (c : Char) : Bool :=
  (q.wide || c.toNat < 0x80) && (q.zero || c.toNat != 0)

end Quoting

/-- The value of a hexadecimal digit. -/
def hexDigit? (c : Char) : Option Nat :=
  if c.isDigit then some (c.toNat - '0'.toNat)
  else if 'a' ≤ c && c ≤ 'f' then some (c.toNat - 'a'.toNat + 10)
  else if 'A' ≤ c && c ≤ 'F' then some (c.toNat - 'A'.toNat + 10)
  else none

/-- What follows two digits that give a byte. -/
def afterByteNumber (q : Quoting) : List Char → Option (List Char)
  | a :: b :: r => do
    let high ← hexDigit? a
    let low ← hexDigit? b
    if (q.bytes || high < 8) && (q.zero || high != 0 || low != 0) then some r else none
  | _ => none

/-- Whether a number is that of a character. -/
def isScalar (n : Nat) : Bool := n < 0xD800 || 0xDFFF < n && n < 0x110000

/-- What follows up to six digits that give a character, and the brace behind them.  Between digits
there may be low lines. -/
def afterCharNumber (q : Quoting) (digits value : Nat) : List Char → Option (List Char)
  | [] => none
  | c :: r =>
    if c == '_' && digits != 0 then afterCharNumber q digits value r
    else if c == '\x7d' && digits != 0 then
      if isScalar value && (q.zero || value != 0) then some r else none
    else
      match hexDigit? c with
      | some d =>
        if digits < 6 then afterCharNumber q (digits + 1) (16 * value + d) r else none
      | none => none

/-- What follows the blanks at the beginning of a line that goes on with a text. -/
def afterIndent : List Char → Option (List Char)
  | [] => none
  | '\r' :: '\n' :: r => afterIndent r
  | '\r' :: _ => none
  | c :: r => if c == ' ' || c == '\t' || c == '\n' then afterIndent r else some (c :: r)

/-- What follows an escape for one character, from behind its backslash. -/
def afterEscape (q : Quoting) : List Char → Option (List Char)
  | 'x' :: r => afterByteNumber q r
  | 'u' :: '\x7b' :: r => if q.wide then afterCharNumber q 0 0 r else none
  | '0' :: r => if q.zero then some r else none
  | c :: r => if ['n', 'r', 't', '\\', '\'', '"'].contains c then some r else none
  | [] => none

/-! ## Quotes -/

/-- What follows the closing quote of a text, from behind the opening one.  Each step takes one from
the given number of steps. -/
def afterQuoted (q : Quoting) : Nat → List Char → Option (List Char)
  | 0, _ => none
  | _ + 1, [] => none
  | _ + 1, '"' :: r => some (afterSuffix r)
  | n + 1, '\r' :: '\n' :: r => afterQuoted q n r
  | _ + 1, '\r' :: _ => none
  | n + 1, '\\' :: '\n' :: r => afterIndent r >>= afterQuoted q n
  | n + 1, '\\' :: '\r' :: '\n' :: r => afterIndent r >>= afterQuoted q n
  | n + 1, '\\' :: r => afterEscape q r >>= afterQuoted q n
  | n + 1, c :: r => if q.admits c then afterQuoted q n r else none

/-- What follows the quote that closes a raw text, which has as many hash marks behind it. -/
def afterRawQuote (q : Quoting) (hashes : List Char) : List Char → Option (List Char)
  | [] => none
  | '\r' :: '\n' :: r => afterRawQuote q hashes r
  | '\r' :: _ => none
  | c :: r =>
    if c == '"' && hashes.isPrefixOf r then some (afterSuffix (r.drop hashes.length))
    else if q.admits c then afterRawQuote q hashes r
    else none

/-- The greatest number of hash marks around a raw text. -/
def maxHashes : Nat := 255

/-- What follows a raw text, from its hash marks on. -/
def afterRaw (q : Quoting) (cs : List Char) : Option (List Char) :=
  let hashes := cs.takeWhile (· == '#')
  match cs.drop hashes.length with
  | '"' :: r => if hashes.length ≤ maxHashes then afterRawQuote q hashes r else none
  | _ => none

/-- What follows the closing quote of one character, from behind the opening one. -/
def afterChar (q : Quoting) : List Char → Option (List Char)
  | '\\' :: r =>
    match afterEscape q r with
    | some ('\'' :: rest) => some (afterSuffix rest)
    | _ => none
  | c :: '\'' :: r => if q.admits c then some (afterSuffix r) else none
  | _ => none

/-! ## Numbers -/

/-- Whether a character goes on with a number. -/
def isDigitPart (c : Char) : Bool := c.isDigit || c == '_'

/-- What follows the power of ten of a number, from behind its letter, if there is one. -/
def afterPower (signed valued : Bool) : List Char → Option (List Char)
  | [] => if valued then some [] else none
  | c :: r =>
    if (c == '+' || c == '-') && !valued then if signed then none else afterPower true false r
    else if c.isDigit then afterPower signed true r
    else if c == '_' then afterPower signed valued r
    else if valued then some (c :: r)
    else none

/-- What follows the power of ten that begins here.  Where the letter begins none, a number with a
point ends in front of it. -/
def afterTens (pointed : Bool) (cs : List Char) : Option (List Char) :=
  match afterPower false false cs.tail with
  | some r => some r
  | none => if pointed then some cs else none

/-- What follows the digits of a number with a point or a power of ten. -/
def afterFraction (cs : List Char) : Option (List Char) :=
  match cs.dropWhile isDigitPart with
  | '.' :: r =>
    if r.head?.any fun c => c == '.' || isWordStart c then none
    else
      match r.dropWhile isDigitPart with
      | 'e' :: s => afterTens true ('e' :: s)
      | 'E' :: s => afterTens true ('E' :: s)
      | s => some s
  | 'e' :: s => afterTens false ('e' :: s)
  | 'E' :: s => afterTens false ('E' :: s)
  | _ => none

/-- What follows digits to some base.  A decimal digit that is too great is a mistake. -/
def afterDigits (base : Nat) (seen : Bool) : List Char → Option (List Char)
  | [] => if seen then some [] else none
  | c :: r =>
    let stop := if seen then some (c :: r) else none
    if c == '_' then if !seen && base == 10 then none else afterDigits base seen r
    else
      match hexDigit? c with
      | some d =>
        if d < base then afterDigits base true r else if c.isDigit then none else stop
      | none => stop

/-- What follows the digits of a whole number. -/
def afterWhole : List Char → Option (List Char)
  | '0' :: 'x' :: r => afterDigits 16 false r
  | '0' :: 'o' :: r => afterDigits 8 false r
  | '0' :: 'b' :: r => afterDigits 2 false r
  | cs => afterDigits 10 false cs

/-- What follows a number. -/
def afterNumber : List Char → Option (List Char)
  | [] => none
  | c :: r =>
    if c.isDigit then
      (afterFraction (c :: r) >>= fun s => wordBreak (afterSuffix s))
        <|> (afterWhole (c :: r) >>= fun s => wordBreak (afterSuffix s))
    else none

/-! ## All of them -/

/-- What follows a literal. -/
def after? (cs : List Char) : Option (List Char) :=
  let quoted (q : Quoting) (r : List Char) := afterQuoted q (r.length + 1) r
  match cs with
  | '"' :: r => quoted .text r
  | 'r' :: r => afterRaw .text r
  | 'b' :: '"' :: r => quoted .binary r
  | 'b' :: 'r' :: r => afterRaw .binary r
  | 'b' :: '\'' :: r => afterChar .binary r
  | 'c' :: '"' :: r => quoted .terminated r
  | 'c' :: 'r' :: r => afterRaw .terminated r
  | '\'' :: r => afterChar .text r
  | cs => afterNumber cs

end FluentBuilders.Code.Literal

/-
  Located trees — a JSON text taken apart once, with the offset of every part.

  A reader of a document goes from left to right and stops at the first thing that is wrong, and
  what is wrong depends on what it wanted: a reader that needs a value is stricter about strings
  and numbers than one that only passes over it, and it names a surplus comma differently.  A
  tree therefore holds what either reader would meet: each string and number carries both
  verdicts, and a list or an object ends with what was found in place of its next part.

  Where both readers must stop, nothing that follows in the tree is ever looked at.
-/
import FluentBuilders.Json.Fault
import FluentBuilders.Text.Utf8

namespace FluentBuilders.Json

/-! ## Trees -/

/-- A string or number as both readers see it. -/
structure Lexeme (α : Type) where
  /-- What a reader that needs the value gets. -/
  read : Except Fault α
  /-- What stops a reader that passes over it. -/
  skip : Option Fault
  /-- The offset behind it. -/
  stop : Nat
  deriving Repr

mutual

/-- A value and where it begins. -/
inductive Tree
  /-- The text ends here. -/
  | absent (start : Nat)
  /-- No value begins here, or one of the three words is misspelt. -/
  | junk (start : Nat) (fault : Fault)
  | null (start stop : Nat)
  | bool (start : Nat) (value : Bool) (stop : Nat)
  | number (start : Nat) (lexeme : Lexeme Number)
  | text (start : Nat) (lexeme : Lexeme String)
  | list (start : Nat) (items : Items)
  | object (start : Nat) (members : Members)

/-- The rest of a list, from the place where an item or the bracket may stand. -/
inductive Items
  | close (offset : Nat)
  /-- The text ends. -/
  | cut (offset : Nat)
  /-- After an item, neither a comma nor the bracket. -/
  | junk (offset : Nat)
  /-- After a comma, the bracket. -/
  | surplusComma (offset : Nat)
  /-- After a comma, the text ends. -/
  | commaCut (offset : Nat)
  | item (value : Tree) (rest : Items)

/-- The rest of an object, from the place where a member or the brace may stand. -/
inductive Members
  | close (offset : Nat)
  /-- The text ends. -/
  | cut (offset : Nat)
  /-- Something that is no string stands where a key should. -/
  | noKey (found : Tree)
  /-- After a member, neither a comma nor the brace. -/
  | junk (offset : Nat)
  /-- After a comma, the brace. -/
  | surplusComma (offset : Nat)
  /-- After a comma, the text ends. -/
  | commaCut (offset : Nat)
  /-- A key that is not followed by a colon.  `after` is where the colon should be, `closed` says
      that the brace stands there. -/
  | noColon (key : Lexeme String) (after : Nat) (closed : Bool) (fault : Fault)
  /-- A key, its colon at `colon`, its value, and the rest from `next` on. -/
  | member (key : Lexeme String) (colon : Nat) (value : Tree) (next : Nat) (rest : Members)

end

/-- Where a value begins. -/
def Tree.start : Tree → Nat
  | .absent s | .junk s _ | .null s _ | .bool s _ _ | .number s _ | .text s _ | .list s _
  | .object s _ => s

/-! ## Cursors -/

/-- The unread part of a text and the number of bytes in front of it. -/
structure Cursor where
  offset : Nat
  rest : List UInt8
  deriving DecidableEq, Repr

namespace Cursor

/-- How much is left to read. -/
def size (c : Cursor) : Nat := c.rest.length

/-- The offset behind the next byte, or the end of the text. -/
def peeked (c : Cursor) : Nat :=
  match c.rest with
  | [] => c.offset
  | _ :: _ => c.offset + 1

/-- The blanks of JSON. -/
def isJsonBlank (b : UInt8) : Bool := b == 0x20 || b == 0x0A || b == 0x09 || b == 0x0D

/-- The first byte that is not blank, found in a text at an offset. -/
def pastBlanks (offset : Nat) : List UInt8 → Cursor
  | [] => ⟨offset, []⟩
  | b :: r => if isJsonBlank b then pastBlanks (offset + 1) r else ⟨offset, b :: r⟩

/-- Passes over blanks. -/
def skipBlanks (c : Cursor) : Cursor := pastBlanks c.offset c.rest

theorem size_pastBlanks (k : Nat) (l : List UInt8) : (pastBlanks k l).size ≤ l.length := by
  induction l generalizing k with
  | nil => simp [pastBlanks, size]
  | cons b r ih =>
    unfold pastBlanks
    split
    · exact Nat.le_succ_of_le (ih (k + 1))
    · simp [size]

theorem size_skipBlanks (c : Cursor) : c.skipBlanks.size ≤ c.size :=
  size_pastBlanks c.offset c.rest

end Cursor

/-! ## Strings -/

/-- The value of a hexadecimal digit. -/
def hexValue? (b : UInt8) : Option Nat :=
  let n := b.toNat
  if 0x30 ≤ n && n < 0x3A then some (n - 0x30)
  else if 0x41 ≤ n && n < 0x47 then some (n - 0x37)
  else if 0x61 ≤ n && n < 0x67 then some (n - 0x57)
  else none

/-- The value of four hexadecimal digits. -/
def hexFour? (a b c d : UInt8) : Option Nat := do
  let w ← hexValue? a
  let x ← hexValue? b
  let y ← hexValue? c
  let z ← hexValue? d
  some (((w * 16 + x) * 16 + y) * 16 + z)

/-- The byte that a short escape stands for. -/
def shortEscape? (b : UInt8) : Option UInt8 :=
  if b == 0x22 || b == 0x5C || b == 0x2F then some b
  else if b == 0x62 then some 0x08
  else if b == 0x66 then some 0x0C
  else if b == 0x6E then some 0x0A
  else if b == 0x72 then some 0x0D
  else if b == 0x74 then some 0x09
  else none

/-- Passes over a string from behind its opening quote. -/
def passText (k : Nat) : List UInt8 → Except Fault Cursor
  | [] => .error ⟨k, .stringCut⟩
  | b :: r =>
    if b == 0x22 then .ok ⟨k + 1, r⟩
    else if b == 0x5C then
      match r with
      | [] => .error ⟨k + 1, .stringCut⟩
      | e :: r =>
        if e == 0x75 then
          match r with
          | w :: x :: y :: z :: r =>
            if (hexFour? w x y z).isSome then passText (k + 6) r else .error ⟨k + 6, .badEscape⟩
          | r => .error ⟨k + 2 + r.length, .stringCut⟩
        else if (shortEscape? e).isSome then passText (k + 2) r
        else .error ⟨k + 2, .badEscape⟩
    else if b.toNat < 0x20 then .error ⟨k, .controlCharacter⟩
    else passText (k + 1) r

/-- The content of a string as bytes, escapes resolved, and the offset behind its closing quote. -/
structure TextBytes where
  bytes : List UInt8
  stop : Nat
  deriving DecidableEq, Repr

/-- The content with bytes in front of it. -/
def TextBytes.after (front : List UInt8) (t : TextBytes) : TextBytes :=
  { t with bytes := front ++ t.bytes }

/-- The bytes of the character with a code point. -/
def charBytes (n : Nat) : List UInt8 := Text.Utf8.encodeChar (Char.ofNat n)

/-- The content of a string from behind its opening quote. -/
def textBytes (k : Nat) : List UInt8 → Except Fault TextBytes
  | [] => .error ⟨k, .stringCut⟩
  | b :: r =>
    if b == 0x22 then .ok ⟨[], k + 1⟩
    else if b == 0x5C then
      match r with
      | [] => .error ⟨k + 1, .stringCut⟩
      | e :: r =>
        if e == 0x75 then
          match r with
          | w :: x :: y :: z :: r =>
            match hexFour? w x y z with
            | none => .error ⟨k + 6, .badEscape⟩
            | some n =>
              if 0xDC00 ≤ n && n < 0xE000 then .error ⟨k + 6, .loneSurrogate⟩
              else if 0xD800 ≤ n && n < 0xDC00 then
                match r with
                | [] => .error ⟨k + 6, .stringCut⟩
                | s :: r =>
                  if s != 0x5C then .error ⟨k + 7, .escapeCut⟩
                  else match r with
                    | [] => .error ⟨k + 7, .stringCut⟩
                    | u :: r =>
                      if u != 0x75 then .error ⟨k + 8, .escapeCut⟩
                      else match r with
                        | w :: x :: y :: z :: r =>
                          match hexFour? w x y z with
                          | none => .error ⟨k + 12, .badEscape⟩
                          | some m =>
                            if 0xDC00 ≤ m && m < 0xE000 then
                              .after (charBytes (0x10000 + (n - 0xD800) * 0x400 + (m - 0xDC00)))
                                <$> textBytes (k + 12) r
                            else .error ⟨k + 12, .loneSurrogate⟩
                        | r => .error ⟨k + 8 + r.length, .stringCut⟩
              else .after (charBytes n) <$> textBytes (k + 6) r
          | r => .error ⟨k + 2 + r.length, .stringCut⟩
        else match shortEscape? e with
          | some c => .after [c] <$> textBytes (k + 2) r
          | none => .error ⟨k + 2, .badEscape⟩
    else if b.toNat < 0x20 then .error ⟨k + 1, .controlCharacter⟩
    else .after [b] <$> textBytes (k + 1) r

/-- The text that a string's content spells.  Bytes that are no text are found when the string is
    closed; the fault lies as far in front of that place as there are bytes from the first that
    begins no character on, whatever escapes they come from. -/
def TextBytes.spell (t : TextBytes) : Except Fault String :=
  match Text.Utf8.decode t.bytes with
  | .ok cs => .ok (String.ofList cs)
  | .error i => .error ⟨t.stop - (t.bytes.length - i), .badCodePoint⟩

/-- A string from behind its opening quote, and the cursor behind it. -/
def scanText (c : Cursor) : Lexeme String × Cursor :=
  let read := textBytes c.offset c.rest >>= TextBytes.spell
  match passText c.offset c.rest with
  | .ok d => (⟨read, none, d.offset⟩, d)
  | .error f => (⟨read, some f, f.offset⟩, ⟨f.offset, []⟩)

/-! ## Numbers -/

/-- Whether a byte is a decimal digit. -/
def isDigit (b : UInt8) : Bool := 0x30 ≤ b.toNat && b.toNat < 0x3A

/-- The value of a decimal digit. -/
def digitValue (b : UInt8) : Nat := b.toNat - 0x30

/-- The greatest whole number that is kept as such. -/
def maxWhole : Nat := 0xFFFFFFFFFFFFFFFF

/-- The digits of a number that fit into 64 bits, and how many follow them. -/
def leadingDigits (value : Nat) : List UInt8 → Nat × Nat
  | [] => (value, 0)
  | d :: r =>
    if maxWhole < value * 10 + digitValue d then (value, (d :: r).length)
    else leadingDigits (value * 10 + digitValue d) r

/-- The digits of a fraction that still fit behind a value, and how many they are. -/
def fractionDigits (value count : Nat) : List UInt8 → Nat × Nat
  | [] => (value, count)
  | d :: r =>
    if maxWhole < value * 10 + digitValue d then (value, count)
    else fractionDigits (value * 10 + digitValue d) (count + 1) r

/-- The greatest exponent that is counted. -/
def maxCounted : Nat := 0x7FFFFFFF

/-- The value of an exponent, or the number of its digits up to the one that makes it too large. -/
def exponentDigits (value count : Nat) : List UInt8 → Except Nat Nat
  | [] => .ok value
  | d :: r =>
    if maxCounted < value * 10 + digitValue d then .error (count + 1)
    else exponentDigits (value * 10 + digitValue d) (count + 1) r

/-- The parts of a number's text. -/
structure NumberText where
  negative : Bool
  whole : List UInt8
  fraction : Option (List UInt8)
  /-- The sign of the exponent, its digits, and the offset of the first of them. -/
  exponent : Option (Bool × List UInt8 × Nat)
  deriving DecidableEq, Repr

/-- The double that the digits and the place of the last one stand for. -/
def doubleAt (negative : Bool) (digits : Nat) (place : Int) (stop : Nat) : Except Fault Number :=
  match Binary64.scaled negative digits place with
  | some x => .ok (.double x)
  | none => .error ⟨stop, .numberTooLarge⟩

/-- The value of a number's text, which ends at `stop`. -/
def NumberText.value (t : NumberText) (stop : Nat) : Except Fault Number :=
  let (digits, surplus) := leadingDigits 0 t.whole
  if t.fraction.isNone && t.exponent.isNone && surplus == 0
      && (!t.negative || (0 < digits && digits ≤ 0x8000000000000000)) then
    .ok (.whole (if t.negative then -(digits : Int) else digits))
  else
    let (digits, places) := fractionDigits digits 0 (t.fraction.getD [])
    let place : Int := surplus - places
    match t.exponent with
    | none => doubleAt t.negative digits place stop
    | some (negative, ds, first) =>
      match exponentDigits 0 0 ds with
      | .ok e => doubleAt t.negative digits (if negative then place - e else place + e) stop
      | .error n =>
        if digits != 0 && !negative then .error ⟨first + n, .numberTooLarge⟩
        else .ok (.double ⟨t.negative, 0, Binary64.minExponent⟩)

/-- A number whose text is wrong at a place where both readers stop, and for the same cause
    unless the text ends there. -/
def badNumber (c : Cursor) : Lexeme Number × Cursor :=
  let cause := if c.rest.isEmpty then .valueCut else .badNumber
  (⟨.error ⟨c.peeked, cause⟩, some ⟨c.peeked, .badNumber⟩, c.peeked⟩, ⟨c.peeked, []⟩)

/-- The digits at a cursor, and the cursor behind them. -/
def takeDigits (c : Cursor) : List UInt8 × Cursor :=
  let ds := c.rest.takeWhile isDigit
  (ds, ⟨c.offset + ds.length, c.rest.dropWhile isDigit⟩)

/-- A number from its exponent mark on, after its other digits. -/
def scanExponent (t : NumberText) (c : Cursor) : Lexeme Number × Cursor :=
  match c.rest with
  | b :: r =>
    if b == 0x65 || b == 0x45 then
      let (negative, c) : Bool × Cursor := match r with
        | s :: r' =>
          if s == 0x2D then (true, ⟨c.offset + 2, r'⟩)
          else if s == 0x2B then (false, ⟨c.offset + 2, r'⟩)
          else (false, ⟨c.offset + 1, r⟩)
        | [] => (false, ⟨c.offset + 1, []⟩)
      let (ds, d) := takeDigits c
      if ds.isEmpty then badNumber c
      else
        let t := { t with exponent := some (negative, ds, c.offset) }
        (⟨t.value d.offset, none, d.offset⟩, d)
    else (⟨t.value c.offset, none, c.offset⟩, c)
  | [] => (⟨t.value c.offset, none, c.offset⟩, c)

/-- A number from its decimal point on, after its whole digits. -/
def scanFraction (t : NumberText) (c : Cursor) : Lexeme Number × Cursor :=
  match c.rest with
  | b :: r =>
    if b == 0x2E then
      let (ds, d) := takeDigits ⟨c.offset + 1, r⟩
      if ds.isEmpty then badNumber ⟨c.offset + 1, r⟩
      else scanExponent { t with fraction := some ds } d
    else scanExponent t c
  | [] => scanExponent t c

/-- A number from its first digit on. -/
def scanDigits (negative : Bool) (c : Cursor) : Lexeme Number × Cursor :=
  let (ds, d) := takeDigits c
  match ds with
  | [] => badNumber c
  | z :: rest =>
    if z == 0x30 && !rest.isEmpty then badNumber ⟨c.offset + 1, rest⟩
    else scanFraction ⟨negative, ds, none, none⟩ d

/-- A number. -/
def scanNumber (c : Cursor) : Lexeme Number × Cursor :=
  match c.rest with
  | b :: r => if b == 0x2D then scanDigits true ⟨c.offset + 1, r⟩ else scanDigits false c
  | [] => badNumber c

/-! ## Words -/

/-- The rest of one of the three words: the cursor behind it, or where it goes wrong. -/
def scanWord (k : Nat) : (word text : List UInt8) → Except Fault Cursor
  | [], r => .ok ⟨k, r⟩
  | _ :: _, [] => .error ⟨k, .valueCut⟩
  | w :: ws, b :: r => if w == b then scanWord (k + 1) ws r else .error ⟨k + 1, .noIdent⟩

end FluentBuilders.Json

/-
  UTF-8 — characters as bytes and back.

  The reader takes the shortest form of each character only, no surrogates and nothing beyond
  the last code point.  When the bytes are no text it says where: the index of the first byte of
  the first sequence that is not a character.
-/

namespace FluentBuilders.Text.Utf8

/-- The bytes of one character. -/
def encodeChar (c : Char) : List UInt8 :=
  let n := c.toNat
  if n < 0x80 then [UInt8.ofNat n]
  else if n < 0x800 then [UInt8.ofNat (0xC0 + n / 0x40), UInt8.ofNat (0x80 + n % 0x40)]
  else if n < 0x10000 then
    [UInt8.ofNat (0xE0 + n / 0x1000), UInt8.ofNat (0x80 + n / 0x40 % 0x40),
     UInt8.ofNat (0x80 + n % 0x40)]
  else
    [UInt8.ofNat (0xF0 + n / 0x40000), UInt8.ofNat (0x80 + n / 0x1000 % 0x40),
     UInt8.ofNat (0x80 + n / 0x40 % 0x40), UInt8.ofNat (0x80 + n % 0x40)]

/-- The bytes of a text. -/
def encode (cs : List Char) : List UInt8 := cs.flatMap encodeChar

/-- The six bits that a continuation byte carries. -/
def tail? (b : UInt8) : Option Nat :=
  if 0x80 ≤ b.toNat && b.toNat < 0xC0 then some (b.toNat - 0x80) else none

/-- A character of two bytes. -/
def char2? (a b : UInt8) : Option Char := do
  let y ← tail? b
  if 0xC2 ≤ a.toNat && a.toNat < 0xE0 then some (Char.ofNat ((a.toNat - 0xC0) * 0x40 + y))
  else none

/-- A character of three bytes. -/
def char3? (a b c : UInt8) : Option Char := do
  let y ← tail? b
  let z ← tail? c
  let n := (a.toNat - 0xE0) * 0x1000 + y * 0x40 + z
  if 0xE0 ≤ a.toNat && a.toNat < 0xF0 && 0x800 ≤ n && (n < 0xD800 || 0xE000 ≤ n) then
    some (Char.ofNat n)
  else none

/-- A character of four bytes. -/
def char4? (a b c d : UInt8) : Option Char := do
  let x ← tail? b
  let y ← tail? c
  let z ← tail? d
  let n := (a.toNat - 0xF0) * 0x40000 + x * 0x1000 + y * 0x40 + z
  if 0xF0 ≤ a.toNat && a.toNat < 0xF5 && 0x10000 ≤ n && n < 0x110000 then some (Char.ofNat n)
  else none

/-- The characters of a byte sequence whose first byte has the given index, or the index of the
    first byte that begins no character. -/
def decodeFrom (index : Nat) : List UInt8 → Except Nat (List Char)
  | [] => .ok []
  | a :: r =>
    if a.toNat < 0x80 then (Char.ofNat a.toNat :: ·) <$> decodeFrom (index + 1) r
    else match r with
      | [] => .error index
      | b :: r =>
        match char2? a b with
        | some ch => (ch :: ·) <$> decodeFrom (index + 2) r
        | none => match r with
          | [] => .error index
          | c :: r =>
            match char3? a b c with
            | some ch => (ch :: ·) <$> decodeFrom (index + 3) r
            | none => match r with
              | [] => .error index
              | d :: r =>
                match char4? a b c d with
                | some ch => (ch :: ·) <$> decodeFrom (index + 4) r
                | none => .error index

/-- The characters of a byte sequence, or the index of the first byte that begins none. -/
def decode (bytes : List UInt8) : Except Nat (List Char) := decodeFrom 0 bytes

end FluentBuilders.Text.Utf8

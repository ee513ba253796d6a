/-
  Columns — how many columns of a terminal a text takes.

  A character takes one column, two or none, and some sequences take fewer than their characters
  do one by one: an emoji built from others, two letters that are drawn as one.  What a character
  adds is decided by what stands behind it, so a text is measured from its end, and `Behind` is all
  that the characters in front have to know.
-/
import FluentBuilders.Text.ColumnTable

namespace FluentBuilders.Text

/-! ## What stands behind a character -/

/-- A character that may join with those in front of it. -/
inductive Joint
  | none
  | lineFeed
  | skinTone
  | emoji
  | alef
  | lamed
  | ya
  | vowelYa
  | consonant
  | boundConsonant
  | fallingTone
  | orkhonI
  | subscript
  | vowelE
  | vowelAi
  deriving DecidableEq, Repr

/-- Whether the joint holds across marks that are never drawn. -/
def Joint.isFar : Joint → Bool
  | .none | .lineFeed | .skinTone | .emoji => false
  | _ => true

/-- The style that a mark asks of the character in front of it. -/
inductive Style
  | text
  | emoji
  deriving DecidableEq, Repr

/-- What stands behind a character: the joint, whether a joiner leads to it, and a mark of style
that is not yet used up. -/
structure Behind where
  joint : Joint
  joined : Bool := false
  style : Option Style := none
  deriving DecidableEq, Repr

namespace Behind

/-- Nothing that matters. -/
def nothing : Behind := { joint := .none }

/-- A mark of style in front of what there is. -/
def withStyle (s : Style) (b : Behind) : Behind :=
  if b.joint.isFar || s == .emoji && b.joint == .emoji && b.joined then { b with style := some s }
  else { nothing with style := some s }

/-- What is left where a mark of style finds no use. -/
def withoutStyle (b : Behind) : Behind :=
  if b.style.isNone then b
  else if b.joint.isFar then { b with style := none }
  else nothing

/-- What there is, behind a joiner. -/
def withJoiner (b : Behind) : Behind :=
  match b.joint with
  | .skinTone | .emoji => { joint := .emoji, joined := true }
  | j => if j.isFar then { b with joined := true } else nothing

end Behind

/-! ## Characters by themselves -/

/-- The columns that a character takes by itself. -/
def columnsOf (c : Char) : Nat :=
  if c.toNat < 0xA1 then 1
  else if inSpans markSpans c.toNat then 0
  else if inSpans wideSpans c.toNat then 2
  else 1

/-- Whether a character is never drawn and lets letters join across it. -/
def isUndrawn (n : Nat) : Bool :=
  n == 0x34F || n == 0x17B4 || n == 0x17B5 || 0x180B ≤ n && n ≤ 0x180D || n == 0x180F
    || 0xFE00 ≤ n && n ≤ 0xFE0F || 0xE0100 ≤ n && n ≤ 0xE01EF

/-- Whether Arabic letters join across a character. -/
def isTransparent (n : Nat) : Bool := inSpans markSpans n && !inSpans barrierSpans n

/-- Whether a character is the Arabic letter lam or a variant of it. -/
def isLam (n : Nat) : Bool :=
  n == 0x644 || 0x6B5 ≤ n && n ≤ 0x6B8 || n == 0x76A || n == 0x8A6 || n == 0x8C7

/-- Whether a character is the Arabic letter alef or a variant of it. -/
def isAlef (n : Nat) : Bool :=
  [0x622, 0x623, 0x625, 0x627, 0x671, 0x672, 0x673, 0x675, 0x773, 0x774].contains n

/-- Whether a character is a Tifinagh consonant. -/
def isTifinagh (n : Nat) : Bool := 0x2D31 ≤ n && n ≤ 0x2D65 || n == 0x2D6F

/-- Whether a character is a Khmer letter that can stand below another. -/
def isSubscript (n : Nat) : Bool :=
  0x1780 ≤ n && n ≤ 0x1782 || 0x1784 ≤ n && n ≤ 0x1787 || 0x1789 ≤ n && n ≤ 0x178C
    || 0x178E ≤ n && n ≤ 0x1793 || 0x1795 ≤ n && n ≤ 0x1798 || 0x179B ≤ n && n ≤ 0x179D
    || [0x17A0, 0x17A2, 0x17A7, 0x17AB, 0x17AC, 0x17AF].contains n

/-- Whether an emoji of its own accord has a style as text that takes one column. -/
def isNarrowAsText (n : Nat) : Bool :=
  inSpans styledSpans n && inSpans emojiSpans n && !(0x1F200 ≤ n && n ≤ 0x1F2FF)

/-- The joint that a character offers to those in front of it. -/
def jointOf (n : Nat) : Joint :=
  if n < 0xA1 then .none
  else if 0x1F3FB ≤ n && n ≤ 0x1F3FF then .skinTone
  else if inSpans emojiSpans n then .emoji
  else if isAlef n then .alef
  else if n == 0x5DC then .lamed
  else if n == 0x1A10 then .ya
  else if isTifinagh n then .consonant
  else if n == 0xA4FC || n == 0xA4FD then .fallingTone
  else if n == 0x10C03 then .orkhonI
  else if isSubscript n then .subscript
  else if n == 0x16D67 then .vowelE
  else if n == 0x16D68 then .vowelAi
  else .none

/-! ## Characters in a text -/

/-- What a character that joins with those behind it adds to their columns, and what it leaves to
those in front of it; nothing if it does not join. -/
def joining (n : Nat) (b : Behind) : Option (Int × Behind) :=
  match b.joint, b.joined with
  | .alef, false =>
    if isLam n then some (0, .nothing)
    else if isTransparent n then some (0, b)
    else none
  | .lamed, true => if n == 0x5D0 then some (0, .nothing) else none
  | .subscript, _ => if n == 0x17D2 then some (-1, .nothing) else none
  | .ya, true => if n == 0x1A17 then some (0, { joint := .vowelYa }) else none
  | .vowelYa, _ => if n == 0x1A15 then some (0, .nothing) else none
  | .consonant, joined =>
    if n == 0x2D7F then some (1, { joint := .boundConsonant })
    else if joined && isTifinagh n then some (0, .nothing)
    else none
  | .boundConsonant, _ => if isTifinagh n then some (-1, .nothing) else none
  | .fallingTone, _ => if 0xA4F8 ≤ n && n ≤ 0xA4FB then some (0, .nothing) else none
  | .orkhonI, true => if n == 0x10C32 then some (0, .nothing) else none
  | .vowelE, _ =>
    if n == 0x16D63 || n == 0x16D69 then some (0, .nothing)
    else if n == 0x16D67 then some (0, { joint := .vowelAi })
    else if n == 0x16D68 then some (1, { joint := .vowelE })
    else none
  | .vowelAi, _ => if n == 0x16D63 then some (0, .nothing) else none
  | .skinTone, _ => if inSpans skinSpans n then some (0, { joint := .emoji }) else none
  | .emoji, true =>
    if 0x1F3FB ≤ n && n ≤ 0x1F3FF then some (0, { joint := .skinTone })
    else if inSpans emojiSpans n then some (0, { joint := .emoji })
    else none
  | _, _ => none

/-- What a character adds to the columns of the characters behind it, and what it leaves to those
in front of it, marks of style apart. -/
def adding (n : Nat) (b : Behind) : Int × Behind :=
  if n == 0xFE0F then (0, b.withStyle .emoji)
  else if n == 0xFE0E then (0, b.withStyle .text)
  else if b.style == some .text && isNarrowAsText n then (1, .nothing)
  else
    let b := b.withoutStyle
    if n == 0x200D then (0, b.withJoiner)
    else if b.joint.isFar && isUndrawn n then (0, b)
    else (joining n b).getD (columnsOf (Char.ofNat n), { joint := jointOf n })

/-- What a character adds to the columns of the characters behind it, and what it leaves to those
in front of it. -/
def step (c : Char) (b : Behind) : Int × Behind :=
  let styled := b.style == some .emoji
  if styled && inSpans styledSpans c.toNat then
    (if b.joint == .emoji && b.joined then 0 else 2, { joint := .emoji })
  else if c == '\n' then (1, { joint := .lineFeed })
  else if c == '\r' && b.joint == .lineFeed then (0, .nothing)
  else if c.toNat < 0xA1 then (1, .nothing)
  else adding c.toNat (if styled then b.withoutStyle else b)

/-- The columns that a text takes. -/
def columns (s : String) : Nat :=
  (s.toList.foldr
    (fun c (n, b) => let (k, before) := step c b; (n + k, before)) (0, Behind.nothing)).1.toNat

end FluentBuilders.Text

/-
  Sources — which bytes a located tree was taken from.

  The grammar of JSON, written as relations between bytes, the offset of the first of them, and the
  part of a tree that they spell.  Nothing here is about scanning: no relation says in which order
  the bytes are looked at or where a reader would stop.

  What stands between the quotes of a string need not be text, and a number need not fit anywhere:
  those are questions for a reader that wants the value, not for the grammar.
-/
import FluentBuilders.Json.Scanner

namespace FluentBuilders.Json

/-- Blanks only. -/
def Blanks (l : List UInt8) : Prop := ∀ b ∈ l, Cursor.isJsonBlank b = true

/-! ## Strings -/

/-- What may stand between the quotes of a string. -/
inductive Content : List UInt8 → Prop
  | nil : Content []
  /-- A byte that stands for itself. -/
  | plain {b : UInt8} {r : List UInt8} (hc : 0x20 ≤ b.toNat) (hq : b ≠ 0x22) (he : b ≠ 0x5C)
      (h : Content r) : Content (b :: r)
  /-- An escape of one letter or mark. -/
  | short {e : UInt8} {r : List UInt8} (he : (shortEscape? e).isSome = true) (h : Content r) :
      Content (0x5C :: e :: r)
  /-- An escape of four hexadecimal digits. -/
  | code {w x y z : UInt8} {r : List UInt8} (hx : (hexFour? w x y z).isSome = true)
      (h : Content r) : Content (0x5C :: 0x75 :: w :: x :: y :: z :: r)

/-- The string with this content, which begins at an offset. -/
def textLexeme (k : Nat) (w : List UInt8) : Lexeme String where
  read := textBytes k (w ++ [0x22]) >>= TextBytes.spell
  skip := none
  stop := k + w.length + 1

/-! ## Numbers -/

/-- Decimal digits, at least one. -/
def Digits (ds : List UInt8) : Prop := ds ≠ [] ∧ ∀ d ∈ ds, isDigit d = true

/-- The digits in front of the point: no zero in front of others. -/
def Whole (ds : List UInt8) : Prop := Digits ds ∧ (ds.head? = some 0x30 → ds.length = 1)

/-- The point and the digits behind it. -/
inductive FractionSource : List UInt8 → Option (List UInt8) → Prop
  | absent : FractionSource [] none
  | present {ds : List UInt8} (h : Digits ds) : FractionSource (0x2E :: ds) (some ds)

/-- The mark of an exponent. -/
def IsExponentMark (b : UInt8) : Prop := b = 0x65 ∨ b = 0x45

/-- The exponent with its sign. -/
inductive ExponentSource : Nat → List UInt8 → Option (Bool × List UInt8 × Nat) → Prop
  | absent {k : Nat} : ExponentSource k [] none
  | plain {k : Nat} {b : UInt8} {ds : List UInt8} (hb : IsExponentMark b) (h : Digits ds) :
      ExponentSource k (b :: ds) (some (false, ds, k + 1))
  | plus {k : Nat} {b : UInt8} {ds : List UInt8} (hb : IsExponentMark b) (h : Digits ds) :
      ExponentSource k (b :: 0x2B :: ds) (some (false, ds, k + 2))
  | minus {k : Nat} {b : UInt8} {ds : List UInt8} (hb : IsExponentMark b) (h : Digits ds) :
      ExponentSource k (b :: 0x2D :: ds) (some (true, ds, k + 2))

/-- A number from its first digit on. -/
inductive DigitsSource : Bool → Nat → List UInt8 → NumberText → Prop
  | mk {negative : Bool} {k : Nat} {ds f e : List UInt8} {fraction : Option (List UInt8)}
      {exponent : Option (Bool × List UInt8 × Nat)} (hd : Whole ds) (hf : FractionSource f fraction)
      (he : ExponentSource (k + ds.length + f.length) e exponent) :
      DigitsSource negative k (ds ++ (f ++ e)) ⟨negative, ds, fraction, exponent⟩

/-- A number. -/
inductive NumberSource : Nat → List UInt8 → NumberText → Prop
  | positive {k : Nat} {w : List UInt8} {t : NumberText} (h : DigitsSource false k w t) :
      NumberSource k w t
  | negative {k : Nat} {w : List UInt8} {t : NumberText} (h : DigitsSource true (k + 1) w t) :
      NumberSource k (0x2D :: w) t

/-- The number with this text, which ends at an offset. -/
def numberLexeme (t : NumberText) (stop : Nat) : Lexeme Number := ⟨t.value stop, none, stop⟩

/-! ## Values -/

mutual

/-- The bytes of a value. -/
inductive Tree.Source : Nat → List UInt8 → Tree → Prop
  | null {k : Nat} : Tree.Source k [0x6E, 0x75, 0x6C, 0x6C] (.null k (k + 4))
  | yes {k : Nat} : Tree.Source k [0x74, 0x72, 0x75, 0x65] (.bool k true (k + 4))
  | no {k : Nat} : Tree.Source k [0x66, 0x61, 0x6C, 0x73, 0x65] (.bool k false (k + 5))
  | number {k : Nat} {w : List UInt8} {t : NumberText} (h : NumberSource k w t) :
      Tree.Source k w (.number k (numberLexeme t (k + w.length)))
  | text {k : Nat} {w : List UInt8} (h : Content w) :
      Tree.Source k (0x22 :: (w ++ [0x22])) (.text k (textLexeme (k + 1) w))
  | list {k : Nat} {w : List UInt8} {items : Items} (h : Items.Source (k + 1) w items) :
      Tree.Source k (0x5B :: w) (.list k items)
  | object {k : Nat} {w : List UInt8} {members : Members} (h : Members.Source (k + 1) w members) :
      Tree.Source k (0x7B :: w) (.object k members)

/-- The bytes of a list from behind its bracket. -/
inductive Items.Source : Nat → List UInt8 → Items → Prop
  | close {k : Nat} {a : List UInt8} (ha : Blanks a) :
      Items.Source k (a ++ [0x5D]) (.close (k + a.length))
  | item {k : Nat} {a w r : List UInt8} {v : Tree} {rest : Items} (ha : Blanks a)
      (hv : Tree.Source (k + a.length) w v)
      (hr : Items.MoreSource (k + a.length + w.length) r rest) :
      Items.Source k (a ++ (w ++ r)) (.item v rest)

/-- The bytes of a list from behind an item. -/
inductive Items.MoreSource : Nat → List UInt8 → Items → Prop
  | close {k : Nat} {a : List UInt8} (ha : Blanks a) :
      Items.MoreSource k (a ++ [0x5D]) (.close (k + a.length))
  /-- After a comma there is an item. -/
  | comma {k : Nat} {a w : List UInt8} {v : Tree} {rest : Items} (ha : Blanks a)
      (h : Items.Source (k + a.length + 1) w (.item v rest)) :
      Items.MoreSource k (a ++ 0x2C :: w) (.item v rest)

/-- The bytes of an object from behind its brace. -/
inductive Members.Source : Nat → List UInt8 → Members → Prop
  | close {k : Nat} {a : List UInt8} (ha : Blanks a) :
      Members.Source k (a ++ [0x7D]) (.close (k + a.length))
  | member {k : Nat} {a w : List UInt8} {members : Members} (ha : Blanks a)
      (h : Members.KeySource (k + a.length + 1) w members) :
      Members.Source k (a ++ 0x22 :: w) members

/-- The bytes of an object from behind the opening quote of a key. -/
inductive Members.KeySource : Nat → List UInt8 → Members → Prop
  | mk {k : Nat} {key a b w r : List UInt8} {v : Tree} {rest : Members} (hk : Content key)
      (ha : Blanks a) (hb : Blanks b)
      (hv : Tree.Source (k + key.length + 1 + a.length + 1 + b.length) w v)
      (hr : Members.MoreSource (k + key.length + 1 + a.length + 1 + b.length + w.length) r rest) :
      Members.KeySource k (key ++ 0x22 :: (a ++ 0x3A :: (b ++ (w ++ r))))
        (.member (textLexeme k key) (k + key.length + 1 + a.length) v
          (Cursor.skipBlanks
            ⟨k + key.length + 1 + a.length + 1 + b.length + w.length, r⟩).offset rest)

/-- The bytes of an object from behind a member. -/
inductive Members.MoreSource : Nat → List UInt8 → Members → Prop
  | close {k : Nat} {a : List UInt8} (ha : Blanks a) :
      Members.MoreSource k (a ++ [0x7D]) (.close (k + a.length))
  /-- After a comma there is a member. -/
  | comma {k : Nat} {a b w : List UInt8} {members : Members} (ha : Blanks a) (hb : Blanks b)
      (h : Members.KeySource (k + a.length + 1 + b.length + 1) w members) :
      Members.MoreSource k (a ++ 0x2C :: (b ++ 0x22 :: w)) members

end

end FluentBuilders.Json

/-
  Spans of code points — how a property of characters is written down.

  A property such as "is a letter" holds on thousands of code points that lie close together or
  alternate with others, so it is a list of spans: a first and a last code point and the stride
  between members.  A case mapping is the same thing with a distance added.
-/

namespace FluentBuilders.Text

/-- The code points `first`, `first + stride`, … up to `last`. -/
structure Span where
  first : Nat
  last : Nat
  stride : Nat
  deriving DecidableEq, Repr

/-- Whether a code point belongs to the span. -/
def Span.contains (s : Span) (n : Nat) : Bool :=
  decide (s.first ≤ n) && decide (n ≤ s.last) && (n - s.first) % s.stride == 0

/-- Whether a code point belongs to one of the spans. -/
def inSpans (spans : List Span) (n : Nat) : Bool :=
  spans.any (·.contains n)

/-- Code points that all move by the same distance when their case changes. -/
structure Shift where
  span : Span
  distance : Int
  deriving DecidableEq, Repr

/-- Where the shifts take a code point; one that none of them covers stays. -/
def shifted (shifts : List Shift) (n : Nat) : Nat :=
  match shifts.find? (·.span.contains n) with
  | some s => (n + s.distance).toNat
  | none => n

end FluentBuilders.Text

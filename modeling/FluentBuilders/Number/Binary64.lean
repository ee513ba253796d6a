/-
  Double-precision numbers — the finite binary floating-point values with 53 bits, held exactly.

  A value is a sign, a natural mantissa and a binary exponent.  Every operation computes the exact
  ratio and rounds once, to nearest with ties to the even mantissa, so nothing here depends on the
  machine's floating point.

  `scaled` is how the descriptor reader turns decimal digits into a value: the digits are rounded
  to a double first and then multiplied or divided by a rounded power of ten, in steps of at most
  308 places.  That is not always the double closest to the decimal text; it is the rule.
-/

namespace FluentBuilders

/-- A finite double: `±mantissa · 2 ^ exponent`. -/
structure Binary64 where
  negative : Bool
  mantissa : Nat
  exponent : Int
  deriving DecidableEq, Repr

namespace Binary64

/-- The exponent of the smallest positive double, and of every double below the normal range. -/
def minExponent : Int := -1074

/-- The exponent of the largest doubles. -/
def maxExponent : Int := 971

/-- The least mantissa of 53 bits, which every double above the smallest range reaches. -/
def leastNormal : Nat := 0x10000000000000

/-- The quotient rounded to the nearest number, a half to the even one. -/
def roundedQuotient (num den : Nat) : Nat :=
  let q := num / den
  let r := num % den
  if 2 * r > den || (2 * r == den && q % 2 == 1) then q + 1 else q

/-- A ratio with both terms scaled so that its quotient is in units of `2 ^ exponent`. -/
def inUnits (num den : Nat) (exponent : Int) : Nat × Nat :=
  if 0 ≤ exponent then (num, den * Nat.pow 2 exponent.toNat)
  else (num * Nat.pow 2 (-exponent).toNat, den)

/-- The exponent at which a ratio has a quotient of 53 bits, or the least one. -/
def exponentFor (num den : Nat) : Int :=
  let guess : Int := (num.log2 : Int) - den.log2 - 52
  let (a, b) := inUnits num den guess
  max minExponent (if a / b < leastNormal then guess - 1 else guess)

/-- The double nearest to a ratio, unless it lies beyond the largest one. -/
def nearest? (negative : Bool) (num den : Nat) : Option Binary64 :=
  if num = 0 then some ⟨negative, 0, minExponent⟩
  else
    let e := exponentFor num den
    let (a, b) := inUnits num den e
    let m := roundedQuotient a b
    let (m, e) := if m = 2 * leastNormal then (leastNormal, e + 1) else (m, e)
    if e ≤ maxExponent then some ⟨negative, m, e⟩ else none

/-- The magnitude of a double as a ratio. -/
def ratio (x : Binary64) : Nat × Nat :=
  if 0 ≤ x.exponent then (x.mantissa * Nat.pow 2 x.exponent.toNat, 1)
  else (x.mantissa, Nat.pow 2 (-x.exponent).toNat)

/-- The double nearest to `x · 10 ^ places`, where the power of ten is itself rounded first. -/
def raisedBy? (x : Binary64) (places : Nat) : Option Binary64 := do
  let power ← nearest? false (Nat.pow 10 places) 1
  nearest? x.negative (x.ratio.1 * power.ratio.1) (x.ratio.2 * power.ratio.2)

/-- The double nearest to `x / 10 ^ places`, where the power of ten is itself rounded first. -/
def loweredBy (x : Binary64) (places : Nat) : Binary64 :=
  match nearest? false (Nat.pow 10 places) 1 with
  | some power =>
    (nearest? x.negative (x.ratio.1 * power.ratio.2) (x.ratio.2 * power.ratio.1)).getD x
  | none => x

/-- The longest step by a power of ten. -/
def maxPlaces : Nat := 308

/-- Lowers a double by many places, step by step, until it is zero. -/
def loweredBySteps (x : Binary64) (places : Nat) : Binary64 :=
  if places ≤ maxPlaces then x.loweredBy places
  else if x.mantissa = 0 then x
  else (x.loweredBy maxPlaces).loweredBySteps (places - maxPlaces)
termination_by places
decreasing_by simp only [maxPlaces] at *; omega

/-- The value of `digits · 10 ^ places`, unless it is too large. -/
def scaled (negative : Bool) (digits : Nat) (places : Int) : Option Binary64 := do
  let x ← nearest? negative digits 1
  if 0 ≤ places then
    if places.toNat ≤ maxPlaces then x.raisedBy? places.toNat
    else if x.mantissa = 0 then some x
    else none
  else some (x.loweredBySteps (-places).toNat)

end Binary64

end FluentBuilders

/-
  The shortest decimal text of a double — the fewest digits that still lie closer to the value
  than to any other double, and of those the nearest to it.

  The reals that round to a double form an interval around it, whose ends belong to it when the
  mantissa is even.  For one digit, two digits and so on, the value's two neighbours on the
  decimal grid of that many digits are tried; the first grid with a neighbour inside wins.
  Seventeen digits always suffice.

  The text is positional while the decimal point stays near the digits, with at least one digit
  after the point; beyond that the point follows the first digit and a signed exponent is written.
-/
import FluentBuilders.Number.Binary64

namespace FluentBuilders.Binary64

/-- The interval of a positive double: lower end, value and upper end over one denominator. -/
structure Interval where
  lower : Nat
  value : Nat
  upper : Nat
  denominator : Nat
  closed : Bool
  deriving DecidableEq, Repr

/-- The reals that round to the double. -/
def interval (x : Binary64) : Interval :=
  let narrow := x.mantissa == leastNormal && decide (minExponent < x.exponent)
  let unit := (x.exponent - 2)
  let factor := if 0 ≤ unit then Nat.pow 2 unit.toNat else 1
  { lower := (4 * x.mantissa - if narrow then 1 else 2) * factor
    value := 4 * x.mantissa * factor
    upper := (4 * x.mantissa + 2) * factor
    denominator := if 0 ≤ unit then 1 else Nat.pow 2 (-unit).toNat
    closed := x.mantissa % 2 == 0 }

/-- The number of decimal digits of a natural number. -/
def digitCount (n : Nat) : Nat := (Nat.toDigits 10 n).length

/-- The power of ten of the first decimal digit of a positive ratio. -/
def leadingPlace (num den : Nat) : Int :=
  if den ≤ num then (digitCount (num / den) : Int) - 1
  else -(digitCount ((den + num - 1) / num - 1) : Int)

/-- Whether `count · 10 ^ place` lies in the interval. -/
def Interval.holds (i : Interval) (count : Nat) (place : Int) : Bool :=
  let (num, den) := if 0 ≤ place then (count * Nat.pow 10 place.toNat, 1)
    else (count, Nat.pow 10 (-place).toNat)
  let n := num * i.denominator
  if i.closed then decide (i.lower * den ≤ n) && decide (n ≤ i.upper * den)
  else decide (i.lower * den < n) && decide (n < i.upper * den)

/-- The neighbour of the value on the grid of `10 ^ place` that lies in the interval, the nearer
    one if both do and the even one if they are equally near. -/
def Interval.onGrid? (i : Interval) (place : Int) : Option Nat :=
  let (num, den) := if 0 ≤ place then (i.value, i.denominator * Nat.pow 10 place.toNat)
    else (i.value * Nat.pow 10 (-place).toNat, i.denominator)
  let below := num / den
  let rest := num % den
  let above := below + 1
  match i.holds below place && decide (0 < below), decide (0 < rest) && i.holds above place with
  | true, true =>
    if 2 * rest < den || (2 * rest == den && below % 2 == 0) then some below else some above
  | true, false => some below
  | false, true => some above
  | false, false => none

/-- The shortest decimal digits of a positive double, and the place of the last of them. -/
def Interval.shortest (i : Interval) : Nat × Int :=
  let first := leadingPlace i.value i.denominator
  let found := (List.range 17).findSome? fun (n : Nat) =>
    (i.onGrid? (first - (n : Int))).map fun count => (count, first - (n : Int))
  found.getD (0, 0)

/-- Decimal digits without the zeros at their end. -/
def withoutTrailingZeros (digits : List Char) : List Char :=
  (digits.reverse.dropWhile (· == '0')).reverse

/-- Digits with the decimal point after `point` of them. -/
def positional (digits : List Char) (point : Int) : List Char :=
  if point ≤ 0 then ['0', '.'] ++ List.replicate (-point).toNat '0' ++ digits
  else if digits.length ≤ point.toNat then
    digits ++ List.replicate (point.toNat - digits.length) '0' ++ ['.', '0']
  else digits.take point.toNat ++ '.' :: digits.drop point.toNat

/-- Digits with the point after the first of them, and an exponent. -/
def exponential (digits : List Char) (point : Int) : List Char :=
  let exponent := point - 1
  let mark := if 0 ≤ exponent then '+' else '-'
  digits.take 1 ++ (if digits.length ≤ 1 then [] else '.' :: digits.drop 1)
    ++ 'e' :: mark :: Nat.toDigits 10 exponent.natAbs

/-- The least and the greatest position of the point in positional text. -/
def positionalRange (point : Int) : Bool :=
  decide (-5 < point) && decide (point ≤ 16)

/-- The shortest text that reads back as the double. -/
def text (x : Binary64) : String :=
  let magnitude :=
    if x.mantissa = 0 then ['0', '.', '0']
    else
      let (count, place) := x.interval.shortest
      let digits := Nat.toDigits 10 count
      let point := place + digits.length
      let kept := withoutTrailingZeros digits
      if positionalRange point then positional kept point else exponential kept point
  String.ofList (if x.negative then '-' :: magnitude else magnitude)

end FluentBuilders.Binary64

import AccessorUpgrade.Numeral.Decimal

/-!
# Shortest decimals

The fewest decimal digits that are read back as a given double, and of those the nearest to it. For
each number of digits the two neighbours of the double on that decimal grid are tried; if any point
of the grid is read back as the double, one of these is.
-/

namespace AccessorUpgrade.Numeral

/-- The reals that round to a double, in quarters of its last binary place: from `low` to `high`
around `middle`, each times `2 ^ place`. The ends belong to it when `closed`. -/
structure RoundingInterval where
  low : Nat
  middle : Nat
  high : Nat
  place : Int
  closed : Bool

/-- The rounding interval of a positive double. Below a power of two the doubles lie twice as
close. -/
def Double.interval (x : Double) : RoundingInterval where
  low :=
    if x.mantissa == Nat.pow 2 (Double.precision - 1) && Double.leastExponent < x.exponent then
      4 * x.mantissa - 1
    else
      4 * x.mantissa - 2
  middle := 4 * x.mantissa
  high := 4 * x.mantissa + 2
  place := x.exponent - 2
  closed := x.mantissa % 2 == 0

/-- The decimal place of the first digit of a positive fraction. -/
def leadingDecimalPlace (num den : Nat) : Int :=
  if den ≤ num then
    ((Nat.toDigits 10 (num / den)).length : Int) - 1
  else
    -(((List.range 400).find? (fun j => den ≤ num * Nat.pow 10 j)).getD 400 : Int)

/-- The point nearest to the middle of the interval among the multiples of `10 ^ power` that lie in
it, if any; of two equally near ones the even one. -/
def RoundingInterval.onGrid (i : RoundingInterval) (power : Int) : Option Decimal :=
  let (num, den) := scaledFraction 1 1 i.place
  -- A multiple `c` of the grid is compared with `x` in the interval as `c · unit` with `x · scale`.
  let unit := if 0 ≤ power then den * Nat.pow 10 power.toNat else den
  let scale := if 0 ≤ power then num else num * Nat.pow 10 (-power).toNat
  let lower := i.middle * scale / unit
  let inside (c : Nat) : Bool :=
    if i.closed then i.low * scale ≤ c * unit && c * unit ≤ i.high * scale
    else i.low * scale < c * unit && c * unit < i.high * scale
  match inside lower, inside (lower + 1) with
  | true, true => some ⟨roundHalfEven (i.middle * scale) unit, power⟩
  | true, false => some ⟨lower, power⟩
  | false, true => some ⟨lower + 1, power⟩
  | false, false => none

/-- A decimal without trailing zeros among its digits. -/
def Decimal.stripped : Nat → Decimal → Decimal
  | 0, d => d
  | steps + 1, d =>
    if d.digits != 0 && d.digits % 10 == 0 then
      Decimal.stripped steps ⟨d.digits / 10, d.power + 1⟩
    else
      d

/-- Seventeen digits tell all doubles apart. -/
def greatestDigitCount : Nat := 17

/-- The shortest decimal that is read back as a double. -/
def Double.shortest (x : Double) : Decimal :=
  if x.mantissa == 0 then
    ⟨0, 0⟩
  else
    let interval := x.interval
    let (num, den) := scaledFraction x.mantissa 1 x.exponent
    let first := leadingDecimalPlace num den
    let grids := (List.range greatestDigitCount).map fun (n : Nat) => first - n
    let found := (grids.findSome? interval.onGrid).getD ⟨0, 0⟩
    found.stripped (greatestDigitCount + 1)

/-- Which decimals are written with plain digits, by the place of the point relative to the first
digit; all others get an exponent. -/
structure DecimalLayout where
  leastPlace : Int
  greatestPlace : Int

/-- A decimal in a layout. A point and at least one digit on either side stand in every positional
form; an exponent follows the letter `e` and its sign. -/
def DecimalLayout.write (layout : DecimalLayout) (d : Decimal) : List Char :=
  let digits := Nat.toDigits 10 d.digits
  let point : Int := digits.length + d.power
  if layout.leastPlace < point && point ≤ layout.greatestPlace then
    if 0 ≤ d.power then
      digits ++ List.replicate d.power.toNat '0' ++ ['.', '0']
    else if 0 < point then
      digits.take point.toNat ++ '.' :: digits.drop point.toNat
    else
      ['0', '.'] ++ List.replicate (-point).toNat '0' ++ digits
  else
    let fraction := match digits.tail with
      | [] => []
      | rest => '.' :: rest
    let exponent := point - 1
    let sign := if exponent < 0 then '-' else '+'
    digits.take 1 ++ fraction ++ 'e' :: sign :: Nat.toDigits 10 exponent.natAbs

end AccessorUpgrade.Numeral

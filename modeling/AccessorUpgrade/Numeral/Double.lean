/-!
# Double-precision numbers

Non-negative double-precision numbers as exact pairs `mantissa · 2 ^ exponent`, and rounding to
them. All arithmetic is on natural numbers and integers, so a result depends on nothing but the
rule: the nearest double, and of two equally near ones the one with the even mantissa.
-/

namespace AccessorUpgrade.Numeral

/-- The number `mantissa · 2 ^ exponent`. -/
structure Double where
  mantissa : Nat
  exponent : Int
deriving DecidableEq, Repr, Inhabited

/-- Bits of a mantissa. -/
def Double.precision : Nat := 53

/-- The exponent of the smallest positive double. -/
def Double.leastExponent : Int := -1074

/-- The exponent of the largest doubles. -/
def Double.greatestExponent : Int := 971

/-- The quotient rounded to the nearest natural number, a half to the even neighbour. -/
def roundHalfEven (num den : Nat) : Nat :=
  let quotient := num / den
  let remainder := 2 * (num % den)
  if remainder < den || (remainder == den && quotient % 2 == 0) then quotient else quotient + 1

/-- `num · 2 ^ exponent / den` as a fraction of natural numbers. -/
def scaledFraction (num den : Nat) (exponent : Int) : Nat × Nat :=
  if 0 ≤ exponent then (num * Nat.pow 2 exponent.toNat, den)
  else (num, den * Nat.pow 2 (-exponent).toNat)

/-- The binary place of the first bit of a positive fraction. -/
def leadingPlace (num den : Nat) : Int :=
  let estimate : Int := (Nat.log2 num : Int) - Nat.log2 den
  let (num, den) := scaledFraction num den (-estimate)
  if den ≤ num then estimate else estimate - 1

/-- The double nearest to a fraction, or nothing when it lies beyond the largest double. -/
def Double.nearest (num den : Nat) : Option Double :=
  if num == 0 then
    some ⟨0, 0⟩
  else
    let place := max Double.leastExponent (leadingPlace num den - (Double.precision - 1))
    let (scaledNum, scaledDen) := scaledFraction num den (-place)
    let mantissa := roundHalfEven scaledNum scaledDen
    -- A mantissa that rounds up to the next power of two takes one binary place more.
    let carried := mantissa == Nat.pow 2 Double.precision
    let rounded : Double :=
      if carried then ⟨Nat.pow 2 (Double.precision - 1), place + 1⟩ else ⟨mantissa, place⟩
    if Double.greatestExponent < rounded.exponent then none else some rounded

/-- The product of two doubles, rounded. -/
def Double.times (x y : Double) : Option Double :=
  let (num, den) := scaledFraction (x.mantissa * y.mantissa) 1 (x.exponent + y.exponent)
  Double.nearest num den

/-- The quotient of two doubles, rounded. -/
def Double.over (x y : Double) : Option Double :=
  let (num, den) := scaledFraction x.mantissa y.mantissa (x.exponent - y.exponent)
  Double.nearest num den

/-- The greatest power of ten that is a finite double. -/
def greatestTenPower : Int := 308

/-- The double nearest to a power of ten. -/
def Double.tenPower (n : Nat) : Option Double := Double.nearest (Nat.pow 10 n) 1

/-- A double times a power of ten, the power itself a double and the product or quotient rounded.
Powers below `10 ^ -308` are taken in steps. -/
def Double.timesTenPower (x : Double) (power : Int) : Option Double :=
  if x.mantissa == 0 then
    some x
  else if greatestTenPower < power then
    none
  else if 0 ≤ power then do
    x.times (← Double.tenPower power.toNat)
  else if -greatestTenPower ≤ power then do
    x.over (← Double.tenPower (-power).toNat)
  else do
    let y ← x.over (← Double.tenPower greatestTenPower.toNat)
    y.timesTenPower (power + greatestTenPower)
termination_by (-power).toNat
decreasing_by simp only [greatestTenPower] at *; omega

/-- The double that a decimal `significand · 10 ^ power` is read as: the nearest double to the
significand, times the power of ten. -/
def Double.ofDecimal (significand : Nat) (power : Int) : Option Double := do
  (← Double.nearest significand 1).timesTenPower power

end AccessorUpgrade.Numeral

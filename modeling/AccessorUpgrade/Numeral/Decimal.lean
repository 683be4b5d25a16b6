import AccessorUpgrade.Numeral.Double

/-!
# Decimals

Decimal numbers as exact pairs `digits · 10 ^ power`, the literals they are written as, and the
double nearest to each.
-/

namespace AccessorUpgrade.Numeral

/-- The number `digits · 10 ^ power`. -/
structure Decimal where
  digits : Nat
  power : Int
deriving DecidableEq, Repr

/-- The number that decimal digits stand for. -/
def natOfDigits (digits : List Char) : Nat :=
  digits.foldl (fun n c => 10 * n + (c.toNat - '0'.toNat)) 0

/-- A text without its sign, and whether the sign is a minus. -/
def splitSign : List Char → Bool × List Char
  | '-' :: rest => (true, rest)
  | '+' :: rest => (false, rest)
  | s => (false, s)

/-- A literal with a sign. -/
structure SignedDecimal where
  negative : Bool
  magnitude : Decimal
deriving DecidableEq, Repr

/-- The integer that a text is, in digits with a sign or without. -/
def integer? (s : List Char) : Option Int :=
  let (negative, digits) := splitSign s
  if digits.isEmpty || !digits.all Char.isDigit then none
  else some (if negative then -natOfDigits digits else natOfDigits digits)

/-- The exponent that a text is, its mark before it; zero if there is no text. -/
def exponent? : List Char → Option Int
  | [] => some 0
  | mark :: rest => if mark == 'e' || mark == 'E' then integer? rest else none

/-- The decimal that a text is: digits with a sign or without, among them perhaps a point, and
perhaps an exponent. The point may come first or last, but not alone. -/
def SignedDecimal.parse? (s : List Char) : Option SignedDecimal :=
  let (negative, s) := splitSign s
  let whole := s.takeWhile Char.isDigit
  let rest := s.dropWhile Char.isDigit
  let fraction := if rest.head? == some '.' then (rest.drop 1).takeWhile Char.isDigit else []
  let rest := if rest.head? == some '.' then (rest.drop 1).dropWhile Char.isDigit else rest
  if whole.isEmpty && fraction.isEmpty then none
  else
    (exponent? rest).map fun exponent =>
      ⟨negative, natOfDigits (whole ++ fraction), exponent - fraction.length⟩

/-- Powers of ten beyond this are out of the range of doubles, however few digits there are. -/
def Decimal.powerLimit : Int := 400

/-- The double nearest to a decimal, or nothing when it lies beyond the largest double. -/
def Decimal.nearestDouble (d : Decimal) : Option Double :=
  if d.digits == 0 then some ⟨0, 0⟩
  else if powerLimit < d.power then none
  -- A number of `b` bits is less than ten to the `b`.
  else if d.power + (Nat.log2 d.digits + 1) < -powerLimit then some ⟨0, 0⟩
  else if 0 ≤ d.power then Double.nearest (d.digits * Nat.pow 10 d.power.toNat) 1
  else Double.nearest d.digits (Nat.pow 10 (-d.power).toNat)

end AccessorUpgrade.Numeral

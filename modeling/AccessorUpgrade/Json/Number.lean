import AccessorUpgrade.Json.Basic
import AccessorUpgrade.Numeral.Shortest

/-!
# Number literals

A number literal is read character by character. Its digits go into a significand of 64 bits; a
digit that no longer fits is dropped, and before the point it counts as a power of ten. A literal
without point, exponent and dropped digits is an integer; minus zero, and negative numbers below the
least 64-bit integer, are doubles.
-/

namespace AccessorUpgrade.Json

/-- Where in the grammar of number literals a reader stands. -/
inductive Literal.Part where
  | sign
  | zero
  | whole
  | point
  | fraction
  | exponentMark
  | exponentSign
  | exponent
deriving DecidableEq, Repr

/-- A number literal as far as it has been read. -/
structure Literal where
  negative : Bool
  part : Literal.Part
  significand : Nat
  /-- The power of ten of the significand's last digit, the written exponent aside. -/
  power : Int
  /-- Whether a digit of the current part has been dropped. -/
  dropping : Bool
  /-- Whether the literal can only be a double. -/
  isReal : Bool
  exponentNegative : Bool
  exponent : Nat
deriving DecidableEq, Repr

namespace Literal

/-- The value of a decimal digit. -/
def digitValue (c : Char) : Nat := c.toNat - '0'.toNat

/-- A literal that starts with a minus sign. -/
def ofSign : Literal := ⟨true, .sign, 0, 0, false, false, false, 0⟩

/-- The literal with its first digit read. -/
def firstDigit (l : Literal) (c : Char) : Literal :=
  { l with part := if c == '0' then .zero else .whole, significand := digitValue c }

/-- A literal that starts with a digit. -/
def ofDigit (c : Char) : Literal := firstDigit ⟨false, .zero, 0, 0, false, false, false, 0⟩ c

/-- Whether the significand has room for one more digit. -/
def hasRoom (l : Literal) (c : Char) : Bool :=
  !l.dropping && l.significand * 10 + digitValue c < 0x10000000000000000

/-- One more digit before the point. -/
def wholeDigit (l : Literal) (c : Char) : Literal :=
  if l.hasRoom c then
    { l with significand := l.significand * 10 + digitValue c }
  else
    { l with dropping := true, isReal := true, power := l.power + 1 }

/-- One more digit after the point. -/
def fractionDigit (l : Literal) (c : Char) : Literal :=
  if l.hasRoom c then
    { l with significand := l.significand * 10 + digitValue c, power := l.power - 1 }
  else
    { l with dropping := true }

/-- One more digit of the exponent. -/
def exponentDigit (l : Literal) (c : Char) : Literal :=
  { l with part := .exponent, exponent := l.exponent * 10 + digitValue c }

/-- What a character does to a literal. -/
inductive Next where
  | continues (l : Literal)
  /-- The literal is complete, and the character comes after it. -/
  | ends
  | malformed

/-- The literal at a point or at an exponent mark, or its end. -/
def afterWhole (l : Literal) (c : Char) : Next :=
  if c == '.' then .continues { l with part := .point, dropping := false, isReal := true }
  else if c == 'e' || c == 'E' then .continues { l with part := .exponentMark, isReal := true }
  else .ends

/-- Reads one character. -/
def next (l : Literal) (c : Char) : Next :=
  match l.part with
  | .sign => if c.isDigit then .continues (l.firstDigit c) else .malformed
  | .zero => if c.isDigit then .malformed else l.afterWhole c
  | .whole => if c.isDigit then .continues (l.wholeDigit c) else l.afterWhole c
  | .point =>
    if c.isDigit then .continues { l.fractionDigit c with part := .fraction } else .malformed
  | .fraction =>
    if c.isDigit then .continues (l.fractionDigit c)
    else if c == 'e' || c == 'E' then .continues { l with part := .exponentMark }
    else .ends
  | .exponentMark =>
    if c.isDigit then .continues (l.exponentDigit c)
    else if c == '+' then .continues { l with part := .exponentSign }
    else if c == '-' then .continues { l with part := .exponentSign, exponentNegative := true }
    else .malformed
  | .exponentSign => if c.isDigit then .continues (l.exponentDigit c) else .malformed
  | .exponent => if c.isDigit then .continues (l.exponentDigit c) else .ends

/-- Whether the literal may end here. -/
def complete (l : Literal) : Bool :=
  match l.part with
  | .zero | .whole | .fraction | .exponent => true
  | .sign | .point | .exponentMark | .exponentSign => false

/-- The value of a literal; a number beyond the largest double has none. -/
def value (l : Literal) : Json :=
  let exponent : Int := if l.exponentNegative then -l.exponent else l.exponent
  if l.isReal || (l.negative && (l.significand == 0 || 0x8000000000000000 < l.significand)) then
    match Numeral.Double.ofDecimal l.significand (l.power + exponent) with
    | some magnitude => .number (.real l.negative magnitude)
    | none => .unreadable
  else if l.negative then
    .number (.integer (-l.significand))
  else
    .number (.integer l.significand)

end Literal

/-- A decimal as JSON. One beyond the range of doubles has no number there, and is null. -/
def ofDecimal (d : Numeral.SignedDecimal) : Json :=
  d.magnitude.nearestDouble.elim .null fun magnitude => .number (.real d.negative magnitude)

/-- Doubles are written with plain digits from `0.00001` to sixteen digits before the point. -/
def numberLayout : Numeral.DecimalLayout := ⟨-5, 16⟩

/-- The text of a number. -/
def Number.write : Number → List Char
  | .integer n => if n < 0 then '-' :: Nat.toDigits 10 n.natAbs else Nat.toDigits 10 n.natAbs
  | .real negative magnitude =>
    let digits :=
      if magnitude.mantissa == 0 then ['0', '.', '0'] else numberLayout.write magnitude.shortest
    if negative then '-' :: digits else digits

end AccessorUpgrade.Json

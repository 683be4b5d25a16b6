import AccessorUpgrade.Json.Number
import AccessorUpgrade.Text.Hex

/-!
# Plain values in TOML

Truth values, numbers, dates and times: the values that are neither quoted nor bracketed.
-/

namespace AccessorUpgrade.Toml

/-! ## Numbers -/

/-- The digits of a run in which single underscores may stand between digits. -/
def digitRun (isDigit : Char → Bool) : List Char → Option (List Char)
  | [] => none
  | [c] => if isDigit c then some [c] else none
  | c :: '_' :: rest => if isDigit c then (digitRun isDigit rest).map (c :: ·) else none
  | c :: rest => if isDigit c then (digitRun isDigit rest).map (c :: ·) else none

/-- The integers that TOML has: those of 64 bits with a sign. -/
def integer? (n : Int) : Option Json :=
  if -0x8000000000000000 ≤ n && n < 0x8000000000000000 then some (.number (.integer n)) else none

/-- The value of digits in a base. -/
def valueInBase (base : Nat) (digits : List Char) : Nat :=
  digits.foldl (fun n c => base * n + (Text.hexValue? c).getD 0) 0

/-- Whether a character is a digit in a base of at most sixteen. -/
def isDigitIn (base : Nat) (c : Char) : Bool := (Text.hexValue? c).any (· < base)

/-- An integer with the mark of its base. -/
def prefixed? : List Char → Option Json
  | '0' :: mark :: rest => do
    let base ← [('x', 16), ('o', 8), ('b', 2)].lookup mark
    integer? (valueInBase base (← digitRun (isDigitIn base) rest))
  | _ => none

/-- The digits before a point or an exponent. Zero does not stand before others. -/
def wholeRun (s : List Char) : Option (List Char) :=
  match digitRun Char.isDigit s with
  | some ('0' :: _ :: _) => none
  | digits => digits

/-- An exponent without underscores, its mark and sign included; nothing for no text. -/
def exponentRun : List Char → Option (List Char)
  | [] => some []
  | mark :: sign :: rest =>
    if sign == '+' || sign == '-' then (digitRun Char.isDigit rest).map (mark :: sign :: ·)
    else (digitRun Char.isDigit (sign :: rest)).map (mark :: ·)
  | [_] => none

/-- Whether a character starts an exponent. -/
def isExponentMark (c : Char) : Bool := c == 'e' || c == 'E'

/-- The literal of a number without sign, without its underscores. -/
def numberRun (s : List Char) : Option (List Char) := do
  let mantissa := s.takeWhile (!isExponentMark ·)
  let exponent ← exponentRun (s.dropWhile (!isExponentMark ·))
  let whole ← wholeRun (mantissa.takeWhile (· != '.'))
  match mantissa.dropWhile (· != '.') with
  | [] => return whole ++ exponent
  | _ :: fraction => return whole ++ '.' :: (← digitRun Char.isDigit fraction) ++ exponent

/-- A decimal that lies in the range of doubles. -/
def real? (d : Numeral.SignedDecimal) : Option Json :=
  match Json.ofDecimal d with
  | .null => none
  | value => some value

/-- A number in decimal digits. -/
def decimal? (s : List Char) : Option Json := do
  let (negative, magnitude) := Numeral.splitSign s
  let literal ← numberRun magnitude
  let signed := if negative then '-' :: literal else literal
  match Numeral.integer? signed with
  | some n => integer? n
  | none => real? (← Numeral.SignedDecimal.parse? signed)

/-- Numbers that are none in JSON: infinity and what is not a number. -/
def isUnbounded (s : List Char) : Bool :=
  let word := (Numeral.splitSign s).2
  word == "inf".toList || word == "nan".toList

/-! ## Dates and times -/

/-- The number that two digits stand for. -/
def twoDigits? (s : List Char) : Option Nat :=
  if s.length == 2 && s.all Char.isDigit then some (Numeral.natOfDigits s) else none

/-- Whether two digits stand for a number from `least` to `most`. -/
def isBetween (least most : Nat) (s : List Char) : Bool :=
  (twoDigits? s).any fun n => least ≤ n && n ≤ most

/-- The number of days in a month of a year. -/
def daysIn (year month : Nat) : Nat :=
  if month == 2 then
    if year % 4 == 0 && (year % 100 != 0 || year % 400 == 0) then 29 else 28
  else if [4, 6, 9, 11].contains month then 30
  else 31

/-- Whether a text is a date: year, month and day. -/
def isDate (s : List Char) : Bool :=
  match s with
  | a :: b :: c :: d :: '-' :: e :: f :: '-' :: day =>
    let year := [a, b, c, d]
    year.all Char.isDigit && isBetween 1 12 [e, f] &&
      isBetween 1 (daysIn (Numeral.natOfDigits year) (Numeral.natOfDigits [e, f])) day
  | _ => false

/-- Whether a text is a time: hour, minute, second and perhaps a fraction of the second. -/
def isTime (s : List Char) : Bool :=
  match s with
  | a :: b :: ':' :: c :: d :: ':' :: e :: f :: fraction =>
    isBetween 0 23 [a, b] && isBetween 0 59 [c, d] && isBetween 0 60 [e, f] &&
      match fraction with
      | [] => true
      | point :: digits => point == '.' && !digits.isEmpty && digits.all Char.isDigit
  | _ => false

/-- Whether a text is the distance from universal time. -/
def isOffset (s : List Char) : Bool :=
  match s with
  | [mark] => mark == 'Z' || mark == 'z'
  | sign :: a :: b :: ':' :: minutes =>
    (sign == '+' || sign == '-') && isBetween 0 23 [a, b] && isBetween 0 59 minutes
  | _ => false

/-- Whether a text is a time, perhaps with an offset. -/
def isTimeWithOffset (s : List Char) : Bool :=
  let startsOffset (c : Char) := ['Z', 'z', '+', '-'].contains c
  let offset := s.dropWhile (!startsOffset ·)
  isTime (s.takeWhile (!startsOffset ·)) && (offset.isEmpty || isOffset offset)

/-- Whether a text is a date, a time, or both. -/
def isMoment (s : List Char) : Bool :=
  isTime s || isDate s ||
    match s.drop 10 with
    | mark :: time => ['T', 't', ' '].contains mark && isDate (s.take 10) && isTimeWithOffset time
    | [] => false

/-! ## Values -/

/-- Whether a character may stand in a plain value. -/
def isPlainChar (c : Char) : Bool := c.isAlphanum || ['+', '-', '_', '.', ':'].contains c

/-- The characters of the plain value that a text starts with, and what follows. A blank may stand
between a date and a time. -/
def plainRun (s : List Char) : List Char × List Char :=
  let first := s.takeWhile isPlainChar
  match s.dropWhile isPlainChar with
  | ' ' :: c :: rest =>
    if isDate first && c.isDigit then
      (first ++ ' ' :: (c :: rest).takeWhile isPlainChar, (c :: rest).dropWhile isPlainChar)
    else (first, ' ' :: c :: rest)
  | rest => (first, rest)

/-- A plain value. A date is an object, and a number that JSON does not have is null. -/
def plain? (s : List Char) : Option Json :=
  if s == "true".toList then some (.bool true)
  else if s == "false".toList then some (.bool false)
  else if isUnbounded s then some .null
  else if isMoment s then some (.record [("date", .string (String.ofList s))])
  else (prefixed? s).or (decimal? s)

end AccessorUpgrade.Toml

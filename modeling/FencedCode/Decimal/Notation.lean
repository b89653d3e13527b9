import FencedCode.Decimal.Shortest

/-!
# Numbers as text

Scripts write a number with the fewest digits that read back, with a given number of places, with a
given number of digits, or in another base.  Positional notation ends below 10^-6 and at 10^21.
-/

namespace FencedCode.Decimal

/-- Rounds a quotient to the nearest whole number.  A tie goes up, or to the even neighbour. -/
def roundQuotient (evenTies : Bool) (numerator denominator : Nat) : Nat :=
  let below := numerator / denominator
  let twice := 2 * (numerator % denominator)
  if twice > denominator || (twice == denominator && (!evenTies || below % 2 == 1)) then below + 1
  else below

/-- Puts a point behind the first `places` of some digits. -/
def withPoint (digits : List Char) (places : Nat) : List Char :=
  if digits.length ≤ places then digits
  else digits.take places ++ '.' :: digits.drop places

/-- An exponent with its sign. -/
def exponentChars (exponent : Int) : List Char :=
  (if exponent < 0 then '-' else '+') :: (toString exponent.natAbs).toList

/-- Digits with a point behind the first of them, and an exponent. -/
def scientificChars (digits : List Char) (exponent : Int) : List Char :=
  withPoint digits 1 ++ 'e' :: exponentChars exponent

/-- Digits with the point where it belongs, `point` digits from the left. -/
def positionalChars (digits : List Char) (point : Int) : List Char :=
  if point ≤ 0 then '0' :: '.' :: List.replicate (-point).toNat '0' ++ digits
  else
    let missing := point.toNat - digits.length
    withPoint (digits ++ List.replicate missing '0') point.toNat

/-- Writes a double: what is no number by name, and a number by the text of its size. -/
def signed (value : Float) (size : Dyadic → List Char) : String :=
  match Dyadic.ofFloat? value with
  | none => if value.isNaN then "NaN" else if value < 0 then "-Infinity" else "Infinity"
  | some exact => .ofList (if value < 0 then '-' :: size exact else size exact)

/-- The digits of a number and the place of its point. -/
def shortestChars (value : Dyadic) : List Char × Int :=
  if value.significand = 0 then (['0'], 1)
  else
    let decimal := shortest value
    (decimal.chars, decimal.point)

/-- A number in the fewest digits that read back. -/
def naturalText (value : Float) : String :=
  signed value fun exact =>
    let (digits, point) := shortestChars exact
    if -6 < point ∧ point ≤ 21 then positionalChars digits point
    else scientificChars digits (point - 1)

/-- A number with a number of places behind the point. -/
def fixedText (value : Float) (places : Nat) : String :=
  if value.abs < 1e21 then
    signed value fun exact =>
      let (numerator, denominator) := exact.quotient
      let digits := (toString (roundQuotient false (numerator * Nat.pow 10 places) denominator)).toList
      let padded := List.replicate (places + 1 - digits.length) '0' ++ digits
      withPoint padded (padded.length - places)
  else naturalText value

/-- A number other than zero rounded to a number of digits, with the place of the point. -/
def roundDigits (evenTies : Bool) (value : Dyadic) (count : Nat) : List Char × Int :=
  let (numerator, denominator) := value.quotient
  let point := pointOf numerator denominator
  let power : Int := count - point
  let digits := roundQuotient evenTies (numerator * Nat.pow 10 power.toNat)
    (denominator * Nat.pow 10 (-power).toNat)
  if digits = Nat.pow 10 count then ((toString (Nat.pow 10 (count - 1))).toList, point + 1)
  else ((toString digits).toList, point)

/-- A number of digits of a number, with the place of the point. -/
def countedDigits (evenTies : Bool) (value : Dyadic) (count : Nat) : List Char × Int :=
  if value.significand = 0 then (List.replicate count '0', 1) else roundDigits evenTies value count

/-- A number with an exponent, and with a number of places behind the point if one is given. -/
def exponentialText (value : Float) (places : Option Nat) : String :=
  signed value fun exact =>
    let (digits, point) := match places with
      | some places => countedDigits true exact (places + 1)
      | none => shortestChars exact
    scientificChars digits (point - 1)

/-- A number with a number of digits. -/
def precisionText (value : Float) (count : Nat) : String :=
  signed value fun exact =>
    let (digits, point) := countedDigits false exact count
    if -6 < point ∧ point ≤ count then positionalChars digits point
    else scientificChars digits (point - 1)

/-- The digit of a value below 36. -/
def digitChar (value : Nat) : Char := if value < 10 then .ofNat (48 + value) else .ofNat (87 + value)

/-- A natural number in a base. -/
def natDigits (base value : Nat) : List Char :=
  go (value.log2 + 1) value []
where
  /-- Puts the digits of a number in front of those that follow. -/
  go : Nat → Nat → List Char → List Char
    | 0, _, digits => digits
    | limit + 1, value, digits =>
      let digits := digitChar (value % base) :: digits
      if value < base then digits else go limit (value / base) digits

/-- A whole number in a base. -/
def intText (base : Nat) (value : Int) : String :=
  let digits := natDigits base value.natAbs
  .ofList (if value < 0 then '-' :: digits else digits)

/-- The distance from a positive double to the next greater one, halved. -/
def halfGap (value : Float) : Float :=
  max (0.5 * (Float.ofBits (value.toBits + 1) - value)) (Float.ofBits 1)

/-- Adds one to the last of some digits, which are given from the right; says whether the one is
carried beyond the first of them. -/
def increment (base : Nat) : List Nat → List Nat × Bool
  | [] => ([], true)
  | digit :: rest => if digit + 1 < base then ((digit + 1) :: rest, false) else increment base rest

/-- The digits of a fraction in a base, from the right, as many as tell the double apart; and
whether rounding carries into the whole part. -/
def fractionDigits (base : Nat) :
    (limit : Nat) → (fraction gap : Float) → (digits : List Nat) → List Nat × Bool
  | 0, _, _, digits => (digits, false)
  | limit + 1, fraction, gap, digits =>
    let scaled := fraction * base.toFloat
    let gap := gap * base.toFloat
    let digit := scaled.floor.toUInt64.toNat
    let rest := scaled - digit.toFloat
    let digits := digit :: digits
    if (rest > 0.5 || (rest == 0.5 && digit % 2 == 1)) && rest + gap > 1 then increment base digits
    else if rest ≥ gap then fractionDigits base limit rest gap digits
    else (digits, false)

/-- The digits of a whole number in a base.  Those that lie beyond the precision of the double are
zeros. -/
def wholeDigits (base : Nat) : (limit : Nat) → Float → List Char
  | 0, _ => []
  | limit + 1, whole =>
    if whole < 9007199254740992 then natDigits base whole.toUInt64.toNat
    else wholeDigits base limit (whole / base.toFloat) ++ ['0']

/-- A number in a base from 2 to 36. -/
def radixText (base : Nat) (value : Float) : String :=
  signed value fun _ =>
    let size := value.abs
    let fraction := size - size.floor
    let gap := halfGap size
    let (digits, carry) :=
      if fraction ≥ gap then fractionDigits base 1100 fraction gap [] else ([], false)
    let whole := size.floor + if carry then 1 else 0
    wholeDigits base 1100 whole
      ++ if digits.isEmpty then [] else '.' :: digits.reverse.map digitChar

end FencedCode.Decimal

import ScriptHost.Double.Numeral

/-!
# Writing doubles

A double is written with the fewest digits that read back to it, and of those with the ones
nearest to it.

* `Magnitude.shortest` : the decimal that is written.
* `Double.text` : the plain form, always positional, an integral number without a point.
* `Double.inspect` : the form that shows that a number is a double: a point or an exponent.
-/

namespace ScriptHost

/-- A decimal `coefficient * 10 ^ exponent`. -/
structure Decimal where
  coefficient : Nat
  exponent : Int
deriving DecidableEq

/-- Significant digits, with the place of the point counted from the first of them. -/
structure Digits where
  digits : List Char
  point : Int

namespace Decimal

/-- The digits of a decimal, without the zeros at the end. -/
def significant (d : Decimal) : Digits :=
  let written := Nat.toDigits 10 d.coefficient
  { digits := (written.reverse.dropWhile (· = '0')).reverse
    point := written.length + d.exponent }

end Decimal

namespace Digits

def zeros (n : Int) : List Char := List.replicate n.toNat '0'

/-- Positional notation. An integral number has no point. -/
def positional (d : Digits) : List Char :=
  if d.point ≤ 0 then '0' :: '.' :: (zeros (-d.point) ++ d.digits)
  else if d.digits.length ≤ d.point then d.digits ++ zeros (d.point - d.digits.length)
  else d.digits.take d.point.toNat ++ '.' :: d.digits.drop d.point.toNat

/-- Positional notation that always has a point. -/
def positionalPointed (d : Digits) : List Char :=
  if d.digits.length ≤ d.point then d.positional ++ ['.', '0'] else d.positional

/-- One digit, a point if more follow, the others, and the exponent. -/
def exponential (d : Digits) : List Char :=
  d.digits.take 1 ++ (if d.digits.length ≤ 1 then [] else '.' :: d.digits.drop 1)
    ++ 'e' :: (toString (d.point - 1)).toList

end Digits

namespace Magnitude

/-- A magnitude as a quotient of a mantissa, possibly times a power of two, by a power of two. -/
def quotient (x : Magnitude) : Nat × Nat :=
  (x.mantissa * 2 ^ (x.exponent - 1074), 2 ^ (1074 - x.exponent))

/-- Whether a magnitude is at least a power of ten. -/
def reaches (x : Magnitude) (power : Int) : Bool :=
  let (numerator, denominator) := x.quotient
  denominator * 10 ^ power.toNat ≤ numerator * 10 ^ (-power).toNat

/-- How many digits stand before the point; not positive for numbers below one tenth. The number of
bits gives it up to one, as `1233 / 4096` is close to the logarithm of two. -/
def scale (x : Magnitude) : Int :=
  let bits : Int := Nat.log2 x.mantissa + x.exponent - 1074
  let guess := bits * 1233 / 4096
  if x.reaches (guess + 1) then guess + 2 else if x.reaches guess then guess + 1 else guess

/-- The two decimals around a magnitude with a given last place, the nearer one first, and the upper
one first when both are equally near. -/
def neighbours (x : Magnitude) (place : Int) : List Decimal :=
  let (numerator, denominator) := x.quotient
  let numerator := numerator * 10 ^ (-place).toNat
  let denominator := denominator * 10 ^ place.toNat
  let below : Decimal := ⟨numerator / denominator, place⟩
  let above : Decimal := ⟨numerator / denominator + 1, place⟩
  if 2 * (numerator % denominator) < denominator then [below, above] else [above, below]

/-- Whether a decimal is read as a magnitude. -/
def isReadFrom (x : Magnitude) (d : Decimal) : Bool :=
  Magnitude.ofDecimal? d.coefficient d.exponent == some x

/-- The magnitude as a decimal, exactly. -/
def exactDecimal (x : Magnitude) : Decimal := ⟨x.scaled * 5 ^ 1074, -1074⟩

/-- The decimal with the fewest digits that reads back, and of those the nearest. -/
def shortest (x : Magnitude) : Decimal :=
  let scale := x.scale
  let found? := (List.range 17).findSome? fun (n : Nat) =>
    (x.neighbours (scale - (n + 1))).find? x.isReadFrom
  found?.getD x.exactDecimal

/-- Positional text of a magnitude. -/
def text (x : Magnitude) : List Char :=
  if x.isZero then ['0'] else x.shortest.significant.positional

/-- Whether inspection uses the exponent form: below `10 ^ -4` and from `10 ^ 16` on. -/
def isExtreme (x : Magnitude) : Bool :=
  x.scaled * 10 ^ 4 < 2 ^ 1074 || 10 ^ 16 * 2 ^ 1074 ≤ x.scaled

/-- Text of a magnitude with a point or an exponent. -/
def inspect (x : Magnitude) : List Char :=
  if x.isZero then ['0', '.', '0']
  else if x.isExtreme then x.shortest.significant.exponential
  else x.shortest.significant.positionalPointed

end Magnitude

namespace Double

/-- A double's text, with the form of magnitudes left open. -/
def write (magnitude : Magnitude → List Char) : Double → List Char
  | .nan => ['N', 'a', 'N']
  | .infinite false => ['i', 'n', 'f']
  | .infinite true => ['-', 'i', 'n', 'f']
  | .finite false size => magnitude size
  | .finite true size => '-' :: magnitude size

/-- The plain text of a double. -/
def text (x : Double) : String := String.ofList (x.write Magnitude.text)

/-- The text of a double in inspected values. -/
def inspect (x : Double) : String := String.ofList (x.write Magnitude.inspect)

end Double

end ScriptHost

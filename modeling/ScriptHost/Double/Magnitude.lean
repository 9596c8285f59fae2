import ScriptHost.Text.Digits

/-!
# Magnitudes of double-precision numbers

A magnitude is a non-negative finite double: a mantissa times a power of two, counted in units of
`2 ^ -1074`, the distance between the smallest doubles. Each magnitude has one representation, so
equality of magnitudes is equality of numbers.

* `Magnitude.scaled` : the number of units a magnitude stands for.
* `Magnitude.nearest?` : the magnitude nearest to a quotient, halves to the even mantissa.
-/

namespace ScriptHost

/-- The mantissas and exponents that represent a magnitude: the mantissa fills its 53 bits unless
the exponent is the least one. -/
def CanonicalParts (mantissa exponent : Nat) : Prop :=
  mantissa < 2 ^ 53 ∧ exponent ≤ 2045 ∧ (exponent = 0 ∨ 2 ^ 52 ≤ mantissa)

instance (mantissa exponent : Nat) : Decidable (CanonicalParts mantissa exponent) :=
  inferInstanceAs (Decidable (_ ∧ _ ∧ _))

/-- The number `mantissa * 2 ^ exponent` in units of `2 ^ -1074`. -/
structure Magnitude where
  mantissa : Nat
  exponent : Nat
  canonical : CanonicalParts mantissa exponent
deriving DecidableEq

namespace Magnitude

/-- The number of units of `2 ^ -1074`. -/
def scaled (x : Magnitude) : Nat := x.mantissa * 2 ^ x.exponent

def zero : Magnitude := ⟨0, 0, by decide⟩

def isZero (x : Magnitude) : Bool := x.mantissa == 0

instance : Inhabited Magnitude := ⟨zero⟩

/-! ## Words

The exponent and the mantissa overlap by the leading bit of the mantissa, so that one sum gives
the 63 low bits of the double's word. -/

/-- The low 63 bits of the double's word. -/
def word (x : Magnitude) : Nat := x.exponent * 2 ^ 52 + x.mantissa

/-- The magnitude with the given low bits; none for the words of infinity and of no number. -/
def ofWord? (word : Nat) : Option Magnitude :=
  let field := word / 2 ^ 52
  let fraction := word % 2 ^ 52
  let mantissa := if field = 0 then fraction else 2 ^ 52 + fraction
  if h : CanonicalParts mantissa (field - 1) then some ⟨mantissa, field - 1, h⟩ else none

/-! ## Rounding -/

/-- A quotient rounded to the nearest integer, a half to the even one. -/
def roundHalfEven (numerator denominator : Nat) : Nat :=
  let whole := numerator / denominator
  let rest := numerator % denominator
  if denominator < 2 * rest ∨ (2 * rest = denominator ∧ whole % 2 = 1) then whole + 1 else whole

/-- The least exponent at which a mantissa of 53 bits reaches the given number of units. -/
def exponentFor (units : Nat) : Nat := Nat.log2 units + 1 - 53

/-- The magnitude nearest to `numerator / denominator` units; none when that is past the
greatest one. -/
def nearest? (numerator denominator : Nat) : Option Magnitude :=
  let exponent := exponentFor (numerator / denominator)
  let mantissa := roundHalfEven numerator (denominator * 2 ^ exponent)
  if h : CanonicalParts mantissa exponent then some ⟨mantissa, exponent, h⟩
  else if h : CanonicalParts (mantissa / 2) (exponent + 1) then some ⟨mantissa / 2, exponent + 1, h⟩
  else none

end Magnitude

end ScriptHost

import ScriptHost.Double
import ScriptHost.Text.Digits

/-!
# Reading doubles

A numeral has an optional sign, decimal digits with an optional point, and an optional exponent.
Digits of the exponent are counted as long as it is below `2 ^ 16`.

* `Numeral.parse?` : the numeral that a whole text writes.
* `Double.parse?` : the nearest double to the numeral, infinite when that is out of range.
-/

namespace ScriptHost

/-- A decimal `coefficient * 10 ^ exponent` with a sign. -/
structure Numeral where
  negative : Bool
  coefficient : Nat
  exponent : Int

namespace Numeral

/-- A sign at the front, and what follows it. -/
def splitSign : List Char → Bool × List Char
  | '-' :: rest => (true, rest)
  | '+' :: rest => (false, rest)
  | text => (false, text)

/-- An exponent with one more digit. An exponent from `2 ^ 16` on takes no more digits. -/
def countDigit (exponent : Nat) (digit : Char) : Nat :=
  if exponent < 2 ^ 16 then exponent * 10 + Text.digitValue digit else exponent

/-- The exponent part, which must be empty or a mark, an optional sign and digits. -/
def parseExponent? : List Char → Option Int
  | [] => some 0
  | mark :: rest =>
    if mark = 'e' ∨ mark = 'E' then
      let (negative, digits) := splitSign rest
      if digits ≠ [] ∧ digits.all Char.isDigit then
        let size : Nat := digits.foldl countDigit 0
        some (if negative then -(size : Int) else size)
      else none
    else none

/-- The digits after a point, if there is one, and what follows them. -/
def splitFraction : List Char → List Char × List Char
  | '.' :: rest => (rest.takeWhile Char.isDigit, rest.dropWhile Char.isDigit)
  | text => ([], text)

/-- The numeral without its sign. At least one digit stands before or after the point. -/
def parseUnsigned? (negative : Bool) (text : List Char) : Option Numeral :=
  let whole := text.takeWhile Char.isDigit
  let (fraction, rest) := splitFraction (text.dropWhile Char.isDigit)
  if whole = [] ∧ fraction = [] then none
  else (parseExponent? rest).map fun exponent =>
    { negative, coefficient := Text.decimalValue (whole ++ fraction)
      exponent := exponent - fraction.length }

/-- The numeral that the whole text writes. -/
def parse? (text : List Char) : Option Numeral :=
  let (negative, rest) := splitSign text
  parseUnsigned? negative rest

end Numeral

/-- The magnitude nearest to `coefficient * 10 ^ exponent`; none when that is past the greatest
one. Powers that are out of all proportion are settled before they are computed. -/
def Magnitude.ofDecimal? (coefficient : Nat) (exponent : Int) : Option Magnitude :=
  if coefficient = 0 then some .zero
  else if 400 < exponent then none
  else if exponent + Nat.log2 coefficient + 401 < 0 then some .zero
  else Magnitude.nearest? (coefficient * 10 ^ exponent.toNat * 2 ^ 1074) (10 ^ (-exponent).toNat)

namespace Double

/-- The double nearest to a numeral. -/
def ofNumeral (numeral : Numeral) : Double :=
  match Magnitude.ofDecimal? numeral.coefficient numeral.exponent with
  | some size => .finite numeral.negative size
  | none => .infinite numeral.negative

/-- The double that a text of digits, signs, point and exponent mark writes. -/
def parse? (text : List Char) : Option Double := (Numeral.parse? text).map ofNumeral

end Double

end ScriptHost

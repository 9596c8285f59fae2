import ScriptHost.Double.Magnitude

/-!
# Double-precision numbers

Doubles are given by what they stand for: no number, an infinity, or a magnitude with a sign.
There is one value for "no number", and zero has two signs.

* `Double.word`, `Double.ofWord` : the 64-bit form.
* `Double.ofInt`, `Double.add`, `Double.sub`, `Double.mul`, `Double.div` : exact results, rounded
  once.
* `Double.compare` : the numerical order, undefined on what is not a number.
-/

namespace ScriptHost

inductive Double
  | nan
  | infinite (negative : Bool)
  | finite (negative : Bool) (size : Magnitude)
deriving DecidableEq, Inhabited

namespace Double

/-! ## Words -/

/-- The 64-bit word of a double. -/
def word : Double → UInt64
  | .nan => 0x7ff8000000000000
  | .infinite negative => UInt64.ofNat ((if negative then 2 ^ 63 else 0) + 2047 * 2 ^ 52)
  | .finite negative size => UInt64.ofNat ((if negative then 2 ^ 63 else 0) + size.word)

/-- The double of a 64-bit word; all words that are not numbers give the same one. -/
def ofWord (word : UInt64) : Double :=
  let negative := decide (2 ^ 63 ≤ word.toNat)
  let low := word.toNat % 2 ^ 63
  match Magnitude.ofWord? low with
  | some size => .finite negative size
  | none => if low = 2047 * 2 ^ 52 then .infinite negative else .nan

/-! ## Rounded results -/

def zero : Double := .finite false .zero

/-- The nearest double to a signed quotient of units, infinite past the greatest magnitude. -/
def ofQuotient (negative : Bool) (numerator denominator : Nat) : Double :=
  match Magnitude.nearest? numerator denominator with
  | some size => .finite negative size
  | none => .infinite negative

/-- The units in one. -/
def unitsInOne : Nat := 2 ^ 1074

def ofInt (n : Int) : Double := ofQuotient (decide (n < 0)) (n.natAbs * unitsInOne) 1

def isZero : Double → Bool
  | .finite _ size => size.isZero
  | _ => false

def neg : Double → Double
  | .nan => .nan
  | .infinite negative => .infinite (!negative)
  | .finite negative size => .finite (!negative) size

/-- The units a signed magnitude stands for. -/
def signedUnits (negative : Bool) (size : Magnitude) : Int :=
  if negative then -(size.scaled : Int) else size.scaled

/-- The sum, rounded once. A sum of zero is negative only when both terms are. -/
def add : Double → Double → Double
  | .nan, _ => .nan
  | _, .nan => .nan
  | .infinite l, .infinite r => if l = r then .infinite l else .nan
  | .infinite l, .finite _ _ => .infinite l
  | .finite _ _, .infinite r => .infinite r
  | .finite l x, .finite r y =>
    let sum := signedUnits l x + signedUnits r y
    if sum = 0 then .finite (l && r) .zero
    else ofQuotient (decide (sum < 0)) sum.natAbs 1

def sub (x y : Double) : Double := add x y.neg

/-- The product, rounded once. -/
def mul : Double → Double → Double
  | .nan, _ => .nan
  | _, .nan => .nan
  | .infinite l, .infinite r => .infinite (l != r)
  | .infinite l, .finite r y => if y.isZero then .nan else .infinite (l != r)
  | .finite l x, .infinite r => if x.isZero then .nan else .infinite (l != r)
  | .finite l x, .finite r y => ofQuotient (l != r) (x.scaled * y.scaled) unitsInOne

/-- The quotient, rounded once. -/
def div : Double → Double → Double
  | .nan, _ => .nan
  | _, .nan => .nan
  | .infinite _, .infinite _ => .nan
  | .infinite l, .finite r _ => .infinite (l != r)
  | .finite l _, .infinite r => .finite (l != r) .zero
  | .finite l x, .finite r y =>
    if y.isZero then (if x.isZero then .nan else .infinite (l != r))
    else ofQuotient (l != r) (x.scaled * unitsInOne) y.scaled

/-! ## Order -/

/-- The place on the number line in units, with the infinities beyond every magnitude. -/
def position? : Double → Option Int
  | .nan => none
  | .infinite negative => some (if negative then -(2 ^ 2099 : Nat) else (2 ^ 2099 : Nat))
  | .finite negative size => some (signedUnits negative size)

/-- The numerical order; what is not a number compares with nothing, and zeros are equal. -/
def compare (x y : Double) : Option Ordering :=
  match x.position?, y.position? with
  | some p, some q => some (Ord.compare p q)
  | _, _ => none

end Double

end ScriptHost

/-!
# Decimal digits

A number is written in powers of ten. Powers of natural numbers are the built-in ones, also where an
algebra of monoids offers its own.

* `decimalValue` : the natural number that decimal digits write.
* `decimalValue_eq_foldl` : each digit counts ten times what the next one counts.
* `decimalValue_toDigits` : the digits of a number write it.
-/

namespace ScriptHost

@[default_instance 20000]
instance (priority := 2000) builtInPow : Pow Nat Nat := instPowNat

namespace Text

/-- Digits of a base, the last one first, joined in pairs to digits of its square. -/
def pairDigits (base : Nat) : List Nat → List Nat
  | low :: high :: rest => (low + base * high) :: pairDigits base rest
  | rest => rest

theorem length_pairDigits_le (base : Nat) (digits : List Nat) :
    (pairDigits base digits).length ≤ digits.length := by
  fun_induction pairDigits base digits with
  | case1 low high rest ih =>
    simp only [List.length_cons]
    omega
  | case2 rest => exact Nat.le_refl _

/-- The number that digits of a base write, the last one first. Digits are joined in pairs until one
is left, which keeps the factors of every product equally long. -/
def valueOfDigits (base : Nat) : List Nat → Nat
  | [] => 0
  | [digit] => digit
  | low :: high :: rest =>
    valueOfDigits (base * base) ((low + base * high) :: pairDigits base rest)
termination_by digits => digits.length
decreasing_by
  have := length_pairDigits_le base rest
  simp only [List.length_cons]
  omega

/-- The number a digit stands for. -/
def digitValue (digit : Char) : Nat := digit.toNat - '0'.toNat

/-- The natural number that decimal digits write; the empty text writes zero. -/
def decimalValue (digits : List Char) : Nat := valueOfDigits 10 (digits.reverse.map digitValue)

/-! ## One digit at a time -/

theorem foldr_pairDigits (base : Nat) (digits : List Nat) :
    (pairDigits base digits).foldr (fun digit value => digit + base * base * value) 0 =
      digits.foldr (fun digit value => digit + base * value) 0 := by
  fun_induction pairDigits base digits with
  | case1 low high rest ih =>
    rw [List.foldr_cons, ih, List.foldr_cons, List.foldr_cons]
    simp only [Nat.mul_add, Nat.mul_assoc, Nat.add_assoc]
  | case2 rest h =>
    match rest, h with
    | [], _ => rfl
    | [digit], _ => simp
    | low :: high :: rest, h => exact absurd rfl (h low high rest)

theorem valueOfDigits_eq_foldr (base : Nat) (digits : List Nat) :
    valueOfDigits base digits = digits.foldr (fun digit value => digit + base * value) 0 := by
  fun_induction valueOfDigits base digits with
  | case1 => rfl
  | case2 base digit => simp
  | case3 base low high rest ih => exact ih.trans (foldr_pairDigits base (low :: high :: rest))

theorem decimalValue_eq_foldl (digits : List Char) :
    decimalValue digits =
      digits.foldl (fun value digit => value * 10 + digitValue digit) 0 := by
  rw [decimalValue, valueOfDigits_eq_foldr, List.foldr_map, List.foldr_reverse]
  congr
  funext value digit
  omega

theorem decimalValue_eq_ofDigitChars (digits : List Char) :
    decimalValue digits = Nat.ofDigitChars 10 digits 0 := by
  rw [decimalValue_eq_foldl, Nat.ofDigitChars_eq_foldl]
  congr
  funext value digit
  rw [Nat.mul_comm]
  rfl

/-- The digits of a number write it. -/
@[simp]
theorem decimalValue_toDigits (n : Nat) : decimalValue (Nat.toDigits 10 n) = n := by
  rw [decimalValue_eq_ofDigitChars, Nat.ofDigitChars_ten_toDigits]

theorem decimalValue_append_zeros (digits : List Char) (count : Nat) :
    decimalValue (digits ++ List.replicate count '0') = decimalValue digits * 10 ^ count := by
  rw [decimalValue_eq_ofDigitChars, decimalValue_eq_ofDigitChars, Nat.ofDigitChars_append,
    Nat.ofDigitChars_replicate_zero, Nat.mul_comm]

theorem decimalValue_zeros_append (digits : List Char) (count : Nat) :
    decimalValue (List.replicate count '0' ++ digits) = decimalValue digits := by
  rw [decimalValue_eq_ofDigitChars, decimalValue_eq_ofDigitChars, Nat.ofDigitChars_append,
    Nat.ofDigitChars_replicate_zero, Nat.mul_zero]

end Text

end ScriptHost

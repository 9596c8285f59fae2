import ScriptHost.Double.Text
import ScriptHost.Proofs.Double.Rounding
import Mathlib.Data.List.TakeWhile

/-!
# Doubles are read back from their text

The search for a short decimal keeps only decimals that read back, and falls back on all digits,
which read back too. Neither the zeros that are dropped from a decimal nor those that positional
notation puts in change what is read.

* `Magnitude.isReadFrom_shortest` : the decimal that is written reads back.
* `Numeral.parseUnsigned?_positional` : positional notation writes the number of its digits.
* `Double.parse?_text` : a number reads back from its text.
* `Double.text_finite` : the text of a finite double has digits, a point at most, and a sign.
-/

namespace ScriptHost

/-! ## Numerals -/

namespace Numeral

theorem splitSign_of_isDigit {text : List Char} (h : ∀ c ∈ text.head?, c.isDigit) :
    splitSign text = (false, text) := by
  match text, h with
  | [], _ => rfl
  | c :: rest, h =>
    have hc : c.isDigit := h c rfl
    unfold splitSign
    split
    · rename_i heq
      cases heq
      exact absurd hc (by decide)
    · rename_i heq
      cases heq
      exact absurd hc (by decide)
    · rfl

theorem parse?_of_isDigit {text : List Char} (h : ∀ c ∈ text.head?, c.isDigit) :
    parse? text = parseUnsigned? false text := by
  unfold parse?
  rw [splitSign_of_isDigit h]

theorem parseUnsigned?_whole {digits : List Char} (hne : digits ≠ [])
    (hd : ∀ c ∈ digits, c.isDigit) (negative : Bool) :
    parseUnsigned? negative digits = some ⟨negative, Text.decimalValue digits, 0⟩ := by
  have htake : digits.takeWhile Char.isDigit = digits := List.takeWhile_eq_self_iff.mpr hd
  have hdrop : digits.dropWhile Char.isDigit = [] := List.dropWhile_eq_nil_iff.mpr hd
  simp [parseUnsigned?, htake, hdrop, splitFraction, parseExponent?, hne]

theorem parseUnsigned?_pointed {whole : List Char} (hne : whole ≠ [])
    (hw : ∀ c ∈ whole, c.isDigit) (fraction : List Char) (hf : ∀ c ∈ fraction, c.isDigit)
    (negative : Bool) :
    parseUnsigned? negative (whole ++ '.' :: fraction) =
      some ⟨negative, Text.decimalValue (whole ++ fraction), -fraction.length⟩ := by
  have htake : (whole ++ '.' :: fraction).takeWhile Char.isDigit = whole := by
    rw [List.takeWhile_append_of_pos hw, List.takeWhile_cons_of_neg (by decide), List.append_nil]
  have hdrop : (whole ++ '.' :: fraction).dropWhile Char.isDigit = '.' :: fraction := by
    rw [List.dropWhile_append_of_pos hw, List.dropWhile_cons_of_neg (by decide)]
  have hftake : fraction.takeWhile Char.isDigit = fraction := List.takeWhile_eq_self_iff.mpr hf
  have hfdrop : fraction.dropWhile Char.isDigit = [] := List.dropWhile_eq_nil_iff.mpr hf
  simp [parseUnsigned?, htake, hdrop, splitFraction, hftake, hfdrop, parseExponent?, hne]

end Numeral

/-! ## Positional notation -/

namespace Digits

theorem isDigit_of_mem_zeros {n : Int} {c : Char} (h : c ∈ zeros n) : c.isDigit := by
  rw [(List.mem_replicate.mp h).2]
  decide

/-- Every character of positional notation is a digit or a point, and the first is a digit. -/
theorem positional_chars {s : Digits} (hd : ∀ c ∈ s.digits, c.isDigit) :
    (∀ c ∈ s.positional, c.isDigit ∨ c = '.') ∧
      ∃ c rest, s.positional = c :: rest ∧ c.isDigit := by
  unfold positional
  split
  · refine ⟨?_, '0', _, rfl, by decide⟩
    intro c hc
    rcases List.mem_cons.mp hc with rfl | hc
    · exact Or.inl (by decide)
    · rcases List.mem_cons.mp hc with rfl | hc
      · exact Or.inr rfl
      · rcases List.mem_append.mp hc with hc | hc
        · exact Or.inl (isDigit_of_mem_zeros hc)
        · exact Or.inl (hd c hc)
  · rename_i hpoint
    split
    · rename_i hlen
      have hall : ∀ c ∈ s.digits ++ zeros (s.point - s.digits.length), c.isDigit := by
        intro c hc
        rcases List.mem_append.mp hc with hc | hc
        · exact hd c hc
        · exact isDigit_of_mem_zeros hc
      refine ⟨fun c hc => Or.inl (hall c hc), ?_⟩
      obtain ⟨c, rest, h⟩ : ∃ c rest,
          s.digits ++ zeros (s.point - s.digits.length) = c :: rest := by
        apply List.exists_cons_of_length_pos
        simp only [List.length_append, zeros, List.length_replicate]
        omega
      exact ⟨c, rest, h, hall c (by rw [h]; exact List.mem_cons_self)⟩
    · rename_i hlen
      refine ⟨?_, ?_⟩
      · intro c hc
        rcases List.mem_append.mp hc with hc | hc
        · exact Or.inl (hd c (List.mem_of_mem_take hc))
        · rcases List.mem_cons.mp hc with rfl | hc
          · exact Or.inr rfl
          · exact Or.inl (hd c (List.mem_of_mem_drop hc))
      · obtain ⟨c, rest, h⟩ : ∃ c rest, s.digits.take s.point.toNat = c :: rest := by
          apply List.exists_cons_of_length_pos
          simp only [List.length_take]
          omega
        refine ⟨c, rest ++ '.' :: s.digits.drop s.point.toNat, by rw [h, List.cons_append], ?_⟩
        exact hd c (List.mem_of_mem_take (by rw [h]; exact List.mem_cons_self))

end Digits

/-- Positional notation writes the number of its digits, whatever zeros it puts in. -/
theorem Numeral.parseUnsigned?_positional {s : Digits} (hd : ∀ c ∈ s.digits, c.isDigit)
    (negative : Bool) :
    ∃ coefficient exponent,
      Numeral.parseUnsigned? negative s.positional = some ⟨negative, coefficient, exponent⟩ ∧
      Magnitude.ofDecimal? coefficient exponent =
        Magnitude.ofDecimal? (Text.decimalValue s.digits) (s.point - s.digits.length) := by
  have hzeros : ∀ n, ∀ c ∈ Digits.zeros n, c.isDigit := fun n c => Digits.isDigit_of_mem_zeros
  unfold Digits.positional
  split
  · rename_i hpoint
    -- nothing but zeros before the digits
    have hfraction : ∀ c ∈ Digits.zeros (-s.point) ++ s.digits, c.isDigit :=
      List.forall_mem_append.mpr ⟨hzeros _, hd⟩
    refine ⟨_, _, parseUnsigned?_pointed (List.cons_ne_nil '0' []) (hzeros 1) _ hfraction negative,
      ?_⟩
    have hvalue : Text.decimalValue (['0'] ++ (Digits.zeros (-s.point) ++ s.digits)) =
        Text.decimalValue s.digits := by
      rw [show ['0'] = List.replicate 1 '0' from rfl, Text.decimalValue_zeros_append]
      exact Text.decimalValue_zeros_append _ _
    rw [hvalue]
    congr 1
    simp only [Digits.zeros, List.length_append, List.length_replicate]
    omega
  · rename_i hpoint
    split
    · rename_i hlen
      -- nothing but zeros behind the digits
      have hne : s.digits ++ Digits.zeros (s.point - s.digits.length) ≠ [] := by
        rw [← List.length_pos_iff, List.length_append, Digits.zeros, List.length_replicate]
        omega
      refine ⟨_, _, parseUnsigned?_whole hne (List.forall_mem_append.mpr ⟨hd, hzeros _⟩) negative,
        ?_⟩
      rw [Digits.zeros, Text.decimalValue_append_zeros, Magnitude.ofDecimal?_shift]
      congr 1
      omega
    · rename_i hlen
      have hne : s.digits.take s.point.toNat ≠ [] := by
        rw [← List.length_pos_iff, List.length_take]
        omega
      refine ⟨_, _, parseUnsigned?_pointed hne (fun c hc => hd c (List.mem_of_mem_take hc)) _
        (fun c hc => hd c (List.mem_of_mem_drop hc)) negative, ?_⟩
      rw [List.take_append_drop, List.length_drop]
      congr 1
      omega

/-! ## The decimal that is written -/

namespace Decimal

theorem significant_digits_isDigit (d : Decimal) : ∀ c ∈ d.significant.digits, c.isDigit := by
  intro c hc
  have hmem : c ∈ Nat.toDigits 10 d.coefficient := by
    have := (List.dropWhile_suffix (fun c => decide (c = '0'))).subset (List.mem_reverse.mp hc)
    exact List.mem_reverse.mp this
  exact Nat.isDigit_of_mem_toDigits (by decide) (by decide) hmem

/-- The digits of the coefficient are the significant ones and zeros. -/
theorem toDigits_eq_significant (d : Decimal) :
    Nat.toDigits 10 d.coefficient = d.significant.digits ++ List.replicate
      ((Nat.toDigits 10 d.coefficient).length - d.significant.digits.length) '0' := by
  generalize hw : Nat.toDigits 10 d.coefficient = written
  have hsplit : written = (written.reverse.dropWhile (· = '0')).reverse ++
      (written.reverse.takeWhile (· = '0')).reverse := by
    rw [← List.reverse_append, List.takeWhile_append_dropWhile, List.reverse_reverse]
  have hzeros : (written.reverse.takeWhile (· = '0')).reverse =
      List.replicate (written.reverse.takeWhile (· = '0')).length '0' := by
    rw [List.eq_replicate_iff]
    refine ⟨List.length_reverse, fun c hc => ?_⟩
    simpa using List.mem_takeWhile_imp (List.mem_reverse.mp hc)
  have hcount : written.length - (written.reverse.dropWhile (· = '0')).reverse.length =
      (written.reverse.takeWhile (· = '0')).length := by
    have hlen := congrArg List.length hsplit
    simp only [List.length_append, List.length_reverse] at hlen ⊢
    omega
  have hsig : d.significant.digits = (written.reverse.dropWhile (· = '0')).reverse := by
    simp only [significant, hw]
  rw [hsig, hcount, ← hzeros]
  exact hsplit

/-- Dropping the zeros at the end does not change the number. -/
theorem ofDecimal?_significant (d : Decimal) :
    Magnitude.ofDecimal? (Text.decimalValue d.significant.digits)
      (d.significant.point - d.significant.digits.length) =
        Magnitude.ofDecimal? d.coefficient d.exponent := by
  have hvalue := congrArg Text.decimalValue d.toDigits_eq_significant
  rw [Text.decimalValue_toDigits, Text.decimalValue_append_zeros] at hvalue
  have hlen := congrArg List.length d.toDigits_eq_significant
  rw [List.length_append, List.length_replicate] at hlen
  rw [hvalue, Magnitude.ofDecimal?_shift]
  congr 1
  have hpoint : d.significant.point = (Nat.toDigits 10 d.coefficient).length + d.exponent := rfl
  omega

end Decimal

namespace Magnitude

theorem isReadFrom_iff {x : Magnitude} {d : Decimal} :
    x.isReadFrom d = true ↔ ofDecimal? d.coefficient d.exponent = some x := by
  rw [isReadFrom, beq_iff_eq]

theorem isReadFrom_exactDecimal (x : Magnitude) : x.isReadFrom x.exactDecimal = true := by
  rw [isReadFrom_iff, ofDecimal?_eq_nearest?]
  refine (nearest?_congr (Nat.pow_pos (by decide)) Nat.one_pos ?_).trans x.nearest?_scaled
  dsimp only [exactDecimal]
  rw [show ((-1074 : Int)).toNat = 0 from rfl, show (-(-1074 : Int)).toNat = 1074 from rfl]
  -- The powers are far too large to be computed.
  generalize 1074 = k
  rw [Nat.pow_zero, Nat.mul_one, Nat.mul_one, Nat.mul_assoc, ← Nat.mul_pow]

/-- The decimal that is written reads back: one that the search finds does by its test, and the one
that it falls back on has all the digits. -/
theorem isReadFrom_shortest (x : Magnitude) : x.isReadFrom x.shortest = true := by
  unfold shortest
  dsimp only
  generalize hfound : (List.range 17).findSome? (fun (n : Nat) =>
    (x.neighbours (x.scale - (n + 1))).find? x.isReadFrom) = found
  cases found with
  | none => exact x.isReadFrom_exactDecimal
  | some d =>
    obtain ⟨n, _, hn⟩ := List.exists_of_findSome?_eq_some hfound
    exact List.find?_some hn

theorem parseUnsigned?_text (x : Magnitude) (negative : Bool) :
    ∃ coefficient exponent,
      Numeral.parseUnsigned? negative x.text = some ⟨negative, coefficient, exponent⟩ ∧
      ofDecimal? coefficient exponent = some x := by
  unfold text
  split
  · rename_i hz
    have hzero : ∀ c ∈ ['0'], c.isDigit := List.forall_mem_singleton.mpr rfl
    refine ⟨_, _, Numeral.parseUnsigned?_whole (List.cons_ne_nil '0' []) hzero negative, ?_⟩
    rw [eq_zero_of_isZero hz, Text.decimalValue_eq_foldl]
    rfl
  · obtain ⟨coefficient, exponent, hparse, hvalue⟩ :=
      Numeral.parseUnsigned?_positional x.shortest.significant_digits_isDigit negative
    refine ⟨coefficient, exponent, hparse, ?_⟩
    rw [hvalue, Decimal.ofDecimal?_significant]
    exact isReadFrom_iff.mp x.isReadFrom_shortest

theorem text_chars (x : Magnitude) :
    (∀ c ∈ x.text, c.isDigit ∨ c = '.') ∧ ∃ c rest, x.text = c :: rest ∧ c.isDigit := by
  unfold text
  split
  · exact ⟨List.forall_mem_singleton.mpr (Or.inl rfl), '0', [], rfl, rfl⟩
  · exact Digits.positional_chars x.shortest.significant_digits_isDigit

end Magnitude

/-! ## Doubles -/

namespace Double

/-- A finite double reads back from its text. -/
theorem parse?_text (negative : Bool) (size : Magnitude) :
    parse? (Double.finite negative size).text.toList = some (.finite negative size) := by
  obtain ⟨coefficient, exponent, hparse, hvalue⟩ := size.parseUnsigned?_text negative
  obtain ⟨_, c, rest, htext, hc⟩ := size.text_chars
  have hnumeral : Numeral.parse? ((Double.finite negative size).write Magnitude.text) =
      some ⟨negative, coefficient, exponent⟩ := by
    cases negative with
    | false =>
      rw [← hparse]
      apply Numeral.parse?_of_isDigit
      intro d hd
      rw [write, htext] at hd
      cases hd
      exact hc
    | true => exact hparse
  rw [text, String.toList_ofList, parse?, hnumeral]
  simp only [Option.map_some, ofNumeral, hvalue]

/-- The text of a finite double has digits, a point at most, and a sign. -/
theorem text_finite (negative : Bool) (size : Magnitude) :
    (∀ c ∈ (Double.finite negative size).text.toList, c.isDigit ∨ c = '.' ∨ c = '-') ∧
      ∃ c rest, c.isDigit ∧ (Double.finite negative size).text.toList =
        if negative then '-' :: c :: rest else c :: rest := by
  obtain ⟨hchars, c, rest, htext, hc⟩ := size.text_chars
  rw [text, String.toList_ofList]
  cases negative with
  | false =>
    refine ⟨fun d hd => ?_, c, rest, hc, htext⟩
    rcases hchars d hd with h | h
    · exact Or.inl h
    · exact Or.inr (Or.inl h)
  | true =>
    refine ⟨fun d hd => ?_, c, rest, hc, by rw [write, htext]; rfl⟩
    rcases List.mem_cons.mp hd with rfl | hd
    · exact Or.inr (Or.inr rfl)
    · rcases hchars d hd with h | h
      · exact Or.inl h
      · exact Or.inr (Or.inl h)

end Double

end ScriptHost

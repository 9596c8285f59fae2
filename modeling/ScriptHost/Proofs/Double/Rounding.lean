import ScriptHost.Double.Numeral
import Mathlib.Tactic.Ring

/-!
# Rounding depends on the number alone

A decimal is rounded by way of a quotient of naturals. The result depends on the number that the
quotient stands for, and not on how it is written; in particular the powers that are settled
without being computed agree with the others.

* `Magnitude.nearest?_congr` : equal quotients have the same nearest magnitude.
* `Magnitude.nearest?_scaled` : a magnitude is nearest to itself.
* `Magnitude.ofDecimal?_eq_nearest?` : the cut-offs of `Magnitude.ofDecimal?` change no result.
* `Magnitude.ofDecimal?_shift` : zeros at the end of a coefficient count as much as an exponent.
-/

namespace ScriptHost.Magnitude

/-! ## Quotients -/

theorem roundHalfEven_mul_right {factor : Nat} (hf : 0 < factor) (numerator denominator : Nat) :
    roundHalfEven (numerator * factor) (denominator * factor) =
      roundHalfEven numerator denominator := by
  unfold roundHalfEven
  have hrest : 2 * (numerator % denominator * factor) = 2 * (numerator % denominator) * factor := by
    ring
  simp only [Nat.mul_div_mul_right _ _ hf, Nat.mul_mod_mul_right, hrest, Nat.mul_lt_mul_right hf,
    Nat.mul_left_inj (Nat.ne_of_gt hf)]

theorem nearest?_mul_right {factor : Nat} (hf : 0 < factor) (numerator denominator : Nat) :
    nearest? (numerator * factor) (denominator * factor) = nearest? numerator denominator := by
  have hround : ∀ e, roundHalfEven (numerator * factor) (denominator * factor * 2 ^ e) =
      roundHalfEven numerator (denominator * 2 ^ e) := by
    intro e
    rw [Nat.mul_right_comm denominator factor, roundHalfEven_mul_right hf]
  unfold nearest?
  simp only [Nat.mul_div_mul_right _ _ hf, hround]

/-- Equal quotients have the same nearest magnitude. -/
theorem nearest?_congr {a b c d : Nat} (hb : 0 < b) (hd : 0 < d) (h : a * d = c * b) :
    nearest? a b = nearest? c d :=
  calc nearest? a b = nearest? (a * d) (b * d) := (nearest?_mul_right hd a b).symm
    _ = nearest? (c * b) (d * b) := by rw [h, Nat.mul_comm b d]
    _ = nearest? c d := nearest?_mul_right hb c d

theorem nearest?_of_parts {numerator denominator mantissa exponent : Nat}
    (h : CanonicalParts mantissa exponent)
    (he : exponentFor (numerator / denominator) = exponent)
    (hm : roundHalfEven numerator (denominator * 2 ^ exponent) = mantissa) :
    nearest? numerator denominator = some ⟨mantissa, exponent, h⟩ := by
  subst he hm
  unfold nearest?
  simp only [h, dif_pos]

theorem nearest?_eq_zero {numerator denominator : Nat} (h : 2 * numerator < denominator) :
    nearest? numerator denominator = some .zero := by
  have hlt : numerator < denominator := by omega
  refine nearest?_of_parts (by decide) ?_ ?_
  · rw [Nat.div_eq_of_lt hlt]
    rfl
  · unfold roundHalfEven
    simp only [Nat.pow_zero, Nat.mul_one, Nat.div_eq_of_lt hlt, Nat.mod_eq_of_lt hlt]
    rw [if_neg (by omega)]

theorem nearest?_eq_none {numerator denominator bits : Nat} (hb : 2098 ≤ bits)
    (h : 2 ^ bits ≤ numerator / denominator) : nearest? numerator denominator = none := by
  have hpos : numerator / denominator ≠ 0 :=
    Nat.ne_of_gt (Nat.lt_of_lt_of_le (Nat.two_pow_pos bits) h)
  have hlog : bits ≤ Nat.log2 (numerator / denominator) := (Nat.le_log2 hpos).mpr h
  have hexp : 2045 < exponentFor (numerator / denominator) := by
    unfold exponentFor
    omega
  unfold nearest?
  dsimp only
  rw [dif_neg (fun hc => by have := hc.2.1; omega), dif_neg (fun hc => by have := hc.2.1; omega)]

/-! ## Magnitudes -/

theorem eq_zero_of_isZero {x : Magnitude} (h : x.isZero = true) : x = .zero := by
  obtain ⟨mantissa, exponent, hm, he, hc⟩ := x
  have hz : mantissa = 0 := by simpa [isZero] using h
  subst hz
  have : exponent = 0 := by
    rcases hc with hc | hc
    · exact hc
    · exact absurd hc (by decide)
  subst this
  rfl

theorem exponentFor_scaled (x : Magnitude) : exponentFor x.scaled = x.exponent := by
  obtain ⟨mantissa, exponent, hm, he, hc⟩ := x
  simp only [exponentFor, scaled]
  rcases hc with rfl | hc
  · rw [Nat.pow_zero, Nat.mul_one]
    have : Nat.log2 mantissa < 53 := by
      rcases Nat.eq_zero_or_pos mantissa with rfl | hpos
      · decide
      · exact (Nat.log2_lt (by omega)).mpr hm
    omega
  · have hlog : Nat.log2 (mantissa * 2 ^ exponent) = 52 + exponent := by
      have hpos : 0 < 2 ^ exponent := Nat.two_pow_pos exponent
      rw [Nat.log2_eq_iff (by have := Nat.mul_pos (show 0 < mantissa by omega) hpos; omega)]
      constructor
      · rw [Nat.pow_add]
        exact Nat.mul_le_mul_right _ hc
      · rw [show 52 + exponent + 1 = 53 + exponent by omega, Nat.pow_add]
        exact Nat.mul_lt_mul_of_pos_right hm hpos
    omega

/-- A magnitude is nearest to itself. -/
theorem nearest?_scaled (x : Magnitude) : nearest? x.scaled 1 = some x := by
  refine nearest?_of_parts x.canonical ?_ ?_
  · rw [Nat.div_one, exponentFor_scaled]
  · have hpos : 0 < 2 ^ x.exponent := Nat.two_pow_pos x.exponent
    unfold roundHalfEven
    simp only [Nat.one_mul, scaled, Nat.mul_div_cancel _ hpos, Nat.mul_mod_left]
    rw [if_neg (by omega)]

/-! ## Decimals -/

theorem two_pow_le_ten_pow (n : Nat) : 2 ^ (3 * n) ≤ 10 ^ n := by
  rw [Nat.pow_mul]
  exact Nat.pow_le_pow_left (by decide) n

theorem two_pow_le_decimal {coefficient : Nat} (hc : coefficient ≠ 0) (n bits : Nat) :
    2 ^ (3 * n + bits) ≤ coefficient * 10 ^ n * 2 ^ bits := by
  rw [Nat.pow_add]
  apply Nat.mul_le_mul_right
  exact (two_pow_le_ten_pow n).trans (Nat.le_mul_of_pos_left _ (Nat.pos_of_ne_zero hc))

theorem decimal_lt_ten_pow {coefficient n bits : Nat} (hc : coefficient ≠ 0)
    (h : Nat.log2 coefficient + 2 + bits ≤ 3 * n) : 2 * (coefficient * 2 ^ bits) < 10 ^ n := by
  have hlt : coefficient < 2 ^ (Nat.log2 coefficient + 1) := (Nat.log2_lt hc).mp (by omega)
  calc 2 * (coefficient * 2 ^ bits) = coefficient * (2 * 2 ^ bits) := by ring
    _ < 2 ^ (Nat.log2 coefficient + 1) * (2 * 2 ^ bits) :=
        Nat.mul_lt_mul_of_pos_right hlt (Nat.mul_pos (by decide) (Nat.two_pow_pos bits))
    _ = 2 ^ (Nat.log2 coefficient + 2 + bits) := by ring
    _ ≤ 2 ^ (3 * n) := Nat.pow_le_pow_right (by decide) h
    _ ≤ 10 ^ n := two_pow_le_ten_pow n

theorem nearest?_large {coefficient bits : Nat} {exponent : Int} (hc : coefficient ≠ 0)
    (hbits : 1074 ≤ bits) (he : 400 < exponent) :
    nearest? (coefficient * 10 ^ exponent.toNat * 2 ^ bits) (10 ^ (-exponent).toNat) = none := by
  have h0 : (-exponent).toNat = 0 := by omega
  apply nearest?_eq_none (show 2098 ≤ 3 * exponent.toNat + bits by omega)
  rw [h0, Nat.pow_zero, Nat.div_one]
  exact two_pow_le_decimal hc _ _

theorem nearest?_small {coefficient bits : Nat} {exponent : Int} (hc : coefficient ≠ 0)
    (hbits : bits ≤ 1074) (he : exponent + Nat.log2 coefficient + 401 < 0) :
    nearest? (coefficient * 10 ^ exponent.toNat * 2 ^ bits) (10 ^ (-exponent).toNat) =
      some .zero := by
  have h0 : exponent.toNat = 0 := by omega
  apply nearest?_eq_zero
  rw [h0, Nat.pow_zero, Nat.mul_one]
  exact decimal_lt_ten_pow hc (by omega)

/-- The powers that are settled without being computed agree with the others. -/
theorem ofDecimal?_eq_nearest? (coefficient : Nat) (exponent : Int) :
    ofDecimal? coefficient exponent =
      nearest? (coefficient * 10 ^ exponent.toNat * 2 ^ 1074) (10 ^ (-exponent).toNat) := by
  unfold ofDecimal?
  -- The power of two is far too large to be computed.
  generalize hbits : 1074 = bits
  split
  · rename_i hc
    subst hc
    rw [nearest?_eq_zero]
    simp only [Nat.zero_mul, Nat.mul_zero]
    exact Nat.pow_pos (by decide)
  · rename_i hc
    split
    · rename_i he
      exact (nearest?_large hc hbits.le he).symm
    · split
      · rename_i he
        exact (nearest?_small hc hbits.ge he).symm
      · rfl

theorem decimal_shift (coefficient zeros units : Nat) (exponent : Int) :
    coefficient * 10 ^ zeros * 10 ^ exponent.toNat * units * 10 ^ (-(exponent + zeros)).toNat =
      coefficient * 10 ^ (exponent + zeros).toNat * units * 10 ^ (-exponent).toNat := by
  have hsum : zeros + exponent.toNat + (-(exponent + zeros)).toNat =
      (exponent + zeros).toNat + (-exponent).toNat := by omega
  calc coefficient * 10 ^ zeros * 10 ^ exponent.toNat * units * 10 ^ (-(exponent + zeros)).toNat
      = coefficient * units * 10 ^ (zeros + exponent.toNat + (-(exponent + zeros)).toNat) := by
        rw [Nat.pow_add, Nat.pow_add]
        ring
    _ = coefficient * 10 ^ (exponent + zeros).toNat * units * 10 ^ (-exponent).toNat := by
        rw [hsum, Nat.pow_add]
        ring

/-- Zeros at the end of a coefficient count as much as an exponent. -/
theorem ofDecimal?_shift (coefficient zeros : Nat) (exponent : Int) :
    ofDecimal? (coefficient * 10 ^ zeros) exponent =
      ofDecimal? coefficient (exponent + zeros) := by
  simp only [ofDecimal?_eq_nearest?]
  apply nearest?_congr (Nat.pow_pos (by decide)) (Nat.pow_pos (by decide))
  apply decimal_shift

end ScriptHost.Magnitude

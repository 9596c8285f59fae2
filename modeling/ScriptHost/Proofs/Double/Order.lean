import ScriptHost.Proofs.Double.Rounding

/-!
# Integers among the doubles

Every integer of 53 bits is a double, so that comparing integers as doubles compares the integers.

* `Magnitude.exists_scaled` : integers of 53 bits are magnitudes.
* `Double.position?_ofInt` : the place of an integer on the number line of the doubles.
* `Double.compare_ofInt` : integers and the doubles of them are in the same order.
-/

namespace ScriptHost

/-- A number of 53 bits is a magnitude: its digits, moved up until they fill the mantissa. -/
theorem Magnitude.exists_scaled {n : Nat} (h : n < 2 ^ 53) :
    ∃ x : Magnitude, x.scaled = n * Double.unitsInOne := by
  by_cases hn : n = 0
  · exact ⟨.zero, by simp [hn, scaled, Magnitude.zero]⟩
  · have hbits : n.log2 < 53 := (Nat.log2_lt hn).mpr h
    have hlow : 2 ^ 52 ≤ n * 2 ^ (52 - n.log2) := by
      calc 2 ^ 52 = 2 ^ n.log2 * 2 ^ (52 - n.log2) := by rw [← Nat.pow_add]; congr 1; omega
        _ ≤ n * 2 ^ (52 - n.log2) := Nat.mul_le_mul_right _ (Nat.log2_self_le hn)
    have hhigh : n * 2 ^ (52 - n.log2) < 2 ^ 53 := by
      calc n * 2 ^ (52 - n.log2) < 2 ^ (n.log2 + 1) * 2 ^ (52 - n.log2) :=
            Nat.mul_lt_mul_of_pos_right Nat.lt_log2_self (Nat.pow_pos (by decide))
        _ = 2 ^ 53 := by rw [← Nat.pow_add]; congr 1; omega
    refine ⟨⟨n * 2 ^ (52 - n.log2), 1022 + n.log2, hhigh, by omega, .inr hlow⟩, ?_⟩
    have hexponent : 52 - n.log2 + (1022 + n.log2) = 1074 := by omega
    have hunits : 2 ^ (52 - n.log2 + (1022 + n.log2)) = Double.unitsInOne := by
      rw [Double.unitsInOne, hexponent]
    rw [scaled, Nat.mul_assoc, ← Nat.pow_add, hunits]

namespace Double

/-- Everything but "no number" has a place on the number line. -/
theorem position?_eq_none {d : Double} : d.position? = none ↔ d = .nan := by
  cases d with
  | nan => exact ⟨fun _ => rfl, fun _ => rfl⟩
  | infinite | finite => exact ⟨nofun, nofun⟩

theorem unitsInOne_pos : 0 < unitsInOne := by
  unfold unitsInOne
  apply Nat.two_pow_pos

/-- An integer of 53 bits keeps its place when it becomes a double. -/
theorem position?_ofInt {n : Int} (h : n.natAbs < 2 ^ 53) :
    (ofInt n).position? = some (n * unitsInOne) := by
  obtain ⟨x, hx⟩ := Magnitude.exists_scaled h
  have hofInt : ofInt n = .finite (decide (n < 0)) x := by
    rw [ofInt, ofQuotient, ← hx, x.nearest?_scaled]
  rw [hofInt, position?, signedUnits, hx]
  generalize unitsInOne = units
  by_cases hn : n < 0
  · have habs : (n.natAbs : Int) = -n := by omega
    simp [hn, habs]
  · have habs : (n.natAbs : Int) = n := by omega
    simp [hn, habs]

/-- Integers of 53 bits compare as doubles as they compare by themselves. -/
theorem compare_ofInt {m n : Int} (hm : m.natAbs < 2 ^ 53) (hn : n.natAbs < 2 ^ 53) :
    (ofInt m).compare (ofInt n) = some (Ord.compare m n) := by
  have hunits : (0 : Int) < unitsInOne := Int.natCast_pos.mpr unitsInOne_pos
  rw [Double.compare, position?_ofInt hm, position?_ofInt hn]
  simp only [Int.compare_eq_ite_lt, Int.mul_lt_mul_right hunits]

end Double

end ScriptHost

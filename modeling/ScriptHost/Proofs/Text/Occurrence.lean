import Mathlib.Data.Nat.Find
import Mathlib.Order.Bounds.Basic
import ScriptHost.Text.Search

/-!
# The first occurrence in a text

The search tries the positions that leave room for the target, one after the other. No other
position can be one of the target, so the first that it finds is the first there is.

* `OccursAt`, `IsFirst` : the positions of a target, and the first of them from a start on.
* `find?_eq_some_iff`, `find?_eq_none_iff` : what the search finds.
* `find?_drop` : a search from a start on is one in what follows the start.
-/

namespace ScriptHost.Text

/-! ## Positions of a target -/

section

variable {α : Type} {text target : List α} {start i : Nat}

/-- The target stands in the text from a position on. The empty one also stands at the end. -/
def OccursAt (text target : List α) (position : Nat) : Prop :=
  position ≤ text.length ∧ target <+: text.drop position

/-- The first position of the target that is not before a start. -/
def IsFirst (text target : List α) (start i : Nat) : Prop :=
  IsLeast {position | start ≤ position ∧ OccursAt text target position} i

theorem OccursAt.add_length_le (h : OccursAt text target i) :
    i + target.length ≤ text.length := by
  obtain ⟨hi, hfront⟩ := h
  have hlength := hfront.length_le
  rw [List.length_drop] at hlength
  omega

theorem OccursAt.take_eq (h : OccursAt text target i) :
    (text.drop i).take target.length = target := (List.prefix_iff_eq_take.mp h.2).symm

theorem exists_isFirst (hstart : start ≤ i) (h : OccursAt text target i) :
    ∃ first, IsFirst text target start first := by
  classical
  have hsome : ∃ position, start ≤ position ∧ OccursAt text target position := ⟨i, hstart, h⟩
  exact ⟨Nat.find hsome, Nat.find_spec hsome, fun _ hother => Nat.find_min' hsome hother⟩

theorem occursAt_drop (hstart : start ≤ text.length) :
    OccursAt (text.drop start) target i ↔ OccursAt text target (start + i) := by
  rw [OccursAt, OccursAt, List.length_drop, List.drop_drop]
  exact and_congr_left fun _ => by omega

theorem isFirst_drop (hstart : start ≤ text.length) :
    IsFirst (text.drop start) target 0 i ↔ IsFirst text target start (start + i) := by
  constructor
  · rintro ⟨⟨-, hoccurs⟩, hleast⟩
    refine ⟨⟨Nat.le_add_right _ _, (occursAt_drop hstart).mp hoccurs⟩, ?_⟩
    rintro other ⟨hother, hoccurs'⟩
    obtain ⟨k, rfl⟩ := Nat.exists_eq_add_of_le hother
    exact Nat.add_le_add_left (hleast ⟨Nat.zero_le k, (occursAt_drop hstart).mpr hoccurs'⟩) start
  · rintro ⟨⟨-, hoccurs⟩, hleast⟩
    refine ⟨⟨Nat.zero_le i, (occursAt_drop hstart).mpr hoccurs⟩, ?_⟩
    rintro other ⟨-, hoccurs'⟩
    exact Nat.le_of_add_le_add_left
      (hleast ⟨Nat.le_add_right _ _, (occursAt_drop hstart).mp hoccurs'⟩)

end

/-! ## The search -/

variable {text target : List Char} {start i : Nat}

/-- What the search comes to, in terms of what stands at the positions that it tries. -/
theorem findFrom?_eq_some {count position : Nat} :
    findFrom? target count position text = some i ↔
      ∃ k < count, i = position + k ∧ target <+: text.drop k ∧
        ∀ j < k, ¬ target <+: text.drop j := by
  induction count generalizing position text with
  | zero => simp [findFrom?]
  | succ count ih =>
    rw [findFrom?]
    by_cases hfront : target <+: text
    · rw [if_pos (List.isPrefixOf_iff_prefix.mpr hfront), Option.some.injEq]
      constructor
      · rintro rfl
        exact ⟨0, Nat.succ_pos _, rfl, hfront, fun _ hj => absurd hj (Nat.not_lt_zero _)⟩
      · rintro ⟨k, -, rfl, -, hbefore⟩
        cases k with
        | zero => rfl
        | succ k => exact absurd hfront (hbefore 0 (Nat.succ_pos _))
    · rw [if_neg (by rwa [List.isPrefixOf_iff_prefix]), ih]
      constructor
      · rintro ⟨k, hk, rfl, hfound, hbefore⟩
        rw [List.drop_tail] at hfound
        refine ⟨k + 1, by omega, by omega, hfound, ?_⟩
        intro j hj
        cases j with
        | zero => exact hfront
        | succ j =>
          have hother := hbefore j (by omega)
          rwa [List.drop_tail] at hother
      · rintro ⟨k, hk, rfl, hfound, hbefore⟩
        cases k with
        | zero => exact absurd hfound hfront
        | succ k =>
          refine ⟨k, by omega, by omega, by rwa [List.drop_tail], ?_⟩
          intro j hj
          rw [List.drop_tail]
          exact hbefore (j + 1) (by omega)

/-- The search finds the first position of the target. -/
theorem find?_eq_some_iff : find? text target start = some i ↔ IsFirst text target start i := by
  rw [find?]
  by_cases hstart : start ≤ text.length
  · rw [if_pos hstart]
    dsimp only
    rw [findFrom?_eq_some]
    constructor
    · rintro ⟨k, hk, rfl, hfound, hbefore⟩
      rw [← isFirst_drop hstart]
      rw [room] at hk
      refine ⟨⟨Nat.zero_le k, by omega, hfound⟩, ?_⟩
      rintro other ⟨-, -, hother⟩
      exact Nat.le_of_not_lt fun hlt => hbefore other hlt hother
    · intro hfirst
      obtain ⟨k, rfl⟩ := Nat.exists_eq_add_of_le hfirst.1.1
      rw [← isFirst_drop hstart] at hfirst
      obtain ⟨⟨-, hoccurs⟩, hleast⟩ := hfirst
      have hroom := hoccurs.add_length_le
      refine ⟨k, by rw [room]; omega, rfl, hoccurs.2, ?_⟩
      intro j hj hother
      have hle := hleast ⟨Nat.zero_le j, hj.le.trans hoccurs.1, hother⟩
      omega
  · rw [if_neg hstart]
    refine ⟨nofun, ?_⟩
    rintro ⟨⟨hle, hlength, -⟩, -⟩
    omega

/-- The search finds nothing only where there is nothing. -/
theorem find?_eq_none_iff :
    find? text target start = none ↔ ∀ i, start ≤ i → ¬ OccursAt text target i := by
  rw [Option.eq_none_iff_forall_ne_some]
  constructor
  · intro hnone i hstart hoccurs
    obtain ⟨first, hfirst⟩ := exists_isFirst hstart hoccurs
    exact hnone first (find?_eq_some_iff.mpr hfirst)
  · intro hnone i hfound
    obtain ⟨⟨hstart, hoccurs⟩, -⟩ := find?_eq_some_iff.mp hfound
    exact hnone i hstart hoccurs

/-- A search from a start on is one in what follows the start. -/
theorem find?_drop (hstart : start ≤ text.length) :
    find? text target start = (find? (text.drop start) target 0).map (start + ·) := by
  cases hfound : find? (text.drop start) target 0 with
  | some k =>
    exact find?_eq_some_iff.mpr ((isFirst_drop hstart).mp (find?_eq_some_iff.mp hfound))
  | none =>
    rw [find?_eq_none_iff] at hfound
    refine find?_eq_none_iff.mpr fun i hi hoccurs => ?_
    obtain ⟨k, rfl⟩ := Nat.exists_eq_add_of_le hi
    exact hfound k (Nat.zero_le k) ((occursAt_drop hstart).mpr hoccurs)

end ScriptHost.Text

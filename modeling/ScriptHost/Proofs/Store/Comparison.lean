import ScriptHost.Proofs.Comparison.Lawful
import ScriptHost.Proofs.Store.Write

/-!
# Comparison of slots

What two slots hold is compared as the values are, except that an element that two arrays share is
equal to itself without being looked at, even where it holds what is not a number. The laws of the
order survive this, because a shared element shows one value, whichever array it is looked at from.

* `Store.Matches` : elements that pass for equal.
* `Store.Layered.compare_array`, `Store.Layered.compare_of_disjoint` : arrays, and what shares no
  element.
* `Store.compare_lawful` : comparison is a lawful partial order.
-/

namespace ScriptHost

/-- Nodes of which one is no array are compared as values. -/
theorem Node.compare_of_not_array {l r : Node} (h : l.value.array? = none ∨ r.value.array? = none) :
    l.compare r = l.value.compare r.value := by
  rw [Value.compare_of_not_array h]
  cases l with
  | array =>
    cases r with
    | array => rcases h with h | h <;> cases h
    | uninit | boolean | integer | double | string => rfl
  | uninit | boolean | integer | double | string => cases r <;> rfl

namespace Store

/-- Elements that pass for equal when arrays are compared. -/
def Matches (st : Store) (left right : Nat) : Prop :=
  left = right ∨ (st.read left).equals (st.read right) = true

variable {st : Store} {l r : Nat} {ls rs : List Nat}

theorem matches_iff : st.Matches l r ↔ l = r ∨ (st.read l).compare (st.read r) = some .eq := by
  rw [Matches, Value.equals, beq_iff_eq]

theorem Matches.symm (h : st.Matches l r) : st.Matches r l := by
  rw [matches_iff] at h ⊢
  rcases h with rfl | h
  · exact .inl rfl
  · right
    rw [Value.compare_swap, h]
    rfl

theorem Matches.trans {a b c : Nat} (h : st.Matches a b) (h' : st.Matches b c) :
    st.Matches a c := by
  rw [matches_iff] at *
  rcases h with rfl | h
  · exact h'
  · rcases h' with rfl | h'
    · exact .inr h
    · exact .inr (Value.compare_trans _ h h' (by decide) (by decide))

theorem matchAll_iff (st : Store) (ls rs : List Nat) :
    Node.matchAll ls (ls.map st.snapshot) rs (rs.map st.snapshot) = true ↔
      List.Forall₂ st.Matches ls rs := by
  induction ls generalizing rs with
  | nil => cases rs <;> simp [Node.matchAll]
  | cons l ls ih =>
    cases rs with
    | nil => simp [Node.matchAll]
    | cons r rs =>
      rw [List.map_cons, List.map_cons, Node.matchAll, Bool.and_eq_true, Bool.or_eq_true, ih,
        beq_iff_eq, List.forall₂_cons]
      rfl

theorem forall₂_matches_symm (h : List.Forall₂ st.Matches ls rs) :
    List.Forall₂ st.Matches rs ls :=
  (h.imp fun _ _ h => h.symm).flip

theorem forall₂_matches_trans {as bs cs : List Nat} (h : List.Forall₂ st.Matches as bs)
    (h' : List.Forall₂ st.Matches bs cs) : List.Forall₂ st.Matches as cs := by
  induction h generalizing cs with
  | nil => exact h'
  | cons hab _ ih =>
    cases h' with
    | cons hbc hbcs => exact .cons (hab.trans hbc) (ih hbcs)

theorem forall₂_matches_iff :
    List.Forall₂ st.Matches ls rs ↔ ls.length = rs.length ∧
      ∀ (i s t : Nat), ls[i]? = some s → rs[i]? = some t → st.Matches s t := by
  rw [List.forall₂_iff_get]
  refine and_congr_right fun _ => ⟨?_, ?_⟩
  · intro h i s t hs ht
    obtain ⟨hi, rfl⟩ := List.getElem?_eq_some_iff.mp hs
    obtain ⟨hi', rfl⟩ := List.getElem?_eq_some_iff.mp ht
    exact h i hi hi'
  · intro h i hi hi'
    exact h i _ _ (List.getElem?_eq_getElem hi) (List.getElem?_eq_getElem hi')

/-- Where arrays share no element, only values count. -/
theorem forall₂_matches_of_disjoint (h : ∀ element ∈ ls, element ∉ rs) :
    List.Forall₂ st.Matches ls rs ↔
      Value.equalsAll (ls.map st.read) (rs.map st.read) = true := by
  rw [Value.equalsAll_iff, List.forall₂_map_left_iff, List.forall₂_map_right_iff]
  refine ⟨fun hmatches => ?_, fun hequal => hequal.imp fun _ _ => .inr⟩
  rw [List.forall₂_iff_zip] at hmatches ⊢
  refine ⟨hmatches.1, fun {left right} hmem => (hmatches.2 hmem).resolve_left ?_⟩
  rintro rfl
  obtain ⟨hleft, hright⟩ := List.of_mem_zip hmem
  exact h left hleft hright

theorem compare_of_not_array (h : (st.read l).array? = none ∨ (st.read r).array? = none) :
    st.compare l r = (st.read l).compare (st.read r) :=
  Node.compare_of_not_array h

namespace Layered

theorem array_or (hL : st.Layered) (slot : Nat) :
    (∃ slots, st.cell slot = .array slots) ∨ (st.read slot).array? = none := by
  rw [hL.read_eq]
  cases hc : st.cell slot with
  | array slots => exact .inl ⟨slots, rfl⟩
  | uninit | boolean | integer | double | string => exact .inr rfl

/-- Arrays are equal where all their elements match, and else they are not comparable. -/
theorem compare_array (hL : st.Layered) (hl : st.cell l = .array ls) (hr : st.cell r = .array rs) :
    (List.Forall₂ st.Matches ls rs ∧ st.compare l r = some .eq) ∨
      (¬ List.Forall₂ st.Matches ls rs ∧ st.compare l r = none) := by
  rw [Store.compare, hL.snapshot_array hl, hL.snapshot_array hr, Node.compare, ← matchAll_iff]
  by_cases h : Node.matchAll ls (ls.map st.snapshot) rs (rs.map st.snapshot) = true
  · exact .inl ⟨h, if_pos h⟩
  · exact .inr ⟨h, if_neg h⟩

theorem compare_array_eq (hL : st.Layered) (hl : st.cell l = .array ls)
    (hr : st.cell r = .array rs) :
    st.compare l r = some .eq ↔ List.Forall₂ st.Matches ls rs := by
  rcases hL.compare_array hl hr with ⟨h, h'⟩ | ⟨h, h'⟩ <;> simp [h, h']

/-- With an array, only an array has an order, and only that of being equal. -/
theorem array_of_compare (hL : st.Layered) {o : Ordering} (hl : st.cell l = .array ls)
    (h : st.compare l r = some o) :
    ∃ rs, st.cell r = .array rs ∧ List.Forall₂ st.Matches ls rs ∧ o = .eq := by
  rcases hL.array_or r with ⟨rs, hr⟩ | hr
  · rcases hL.compare_array hl hr with ⟨hmatches, h'⟩ | ⟨-, h'⟩
    · exact ⟨rs, hr, hmatches, Option.some.inj (h.symm.trans h')⟩
    · cases h.symm.trans h'
  · rw [compare_of_not_array (.inr hr), hL.read_array hl] at h
    obtain ⟨items, hitems, -⟩ := Value.compare_array_eq_some h
    rw [hitems] at hr
    cases hr

/-- What shares no element is compared by value. -/
theorem compare_of_disjoint (hL : st.Layered)
    (h : ∀ element ∈ st.elements l, element ∉ st.elements r) :
    st.compare l r = (st.read l).compare (st.read r) := by
  rcases hL.array_or l with ⟨ls, hl⟩ | hl
  · rcases hL.array_or r with ⟨rs, hr⟩ | hr
    · rw [elements_of_cell hl, elements_of_cell hr] at h
      rw [hL.read_array hl, hL.read_array hr, Value.compare_array]
      rcases hL.compare_array hl hr with ⟨hmatches, h'⟩ | ⟨hmatches, h'⟩
      · rw [h', if_pos ((forall₂_matches_of_disjoint h).mp hmatches)]
      · rw [h', if_neg (mt (forall₂_matches_of_disjoint h).mpr hmatches)]
    · exact compare_of_not_array (.inr hr)
  · exact compare_of_not_array (.inl hl)

/-! ## The laws -/

theorem compare_swap (hL : st.Layered) (l r : Nat) :
    st.compare r l = (st.compare l r).map Ordering.swap := by
  by_cases h : (st.read l).array? = none ∨ (st.read r).array? = none
  · rw [compare_of_not_array h, compare_of_not_array h.symm]
    exact Value.compare_swap _ _
  · obtain ⟨hl, hr⟩ := not_or.mp h
    obtain ⟨ls, hl⟩ := (hL.array_or l).resolve_right hl
    obtain ⟨rs, hr⟩ := (hL.array_or r).resolve_right hr
    rcases hL.compare_array hl hr with ⟨hmatches, h'⟩ | ⟨hmatches, h'⟩
    · rw [h', (hL.compare_array_eq hr hl).mpr (forall₂_matches_symm hmatches)]
      rfl
    · rcases hL.compare_array hr hl with ⟨hmatches', -⟩ | ⟨-, h''⟩
      · exact absurd (forall₂_matches_symm hmatches') hmatches
      · rw [h', h'']
        rfl

theorem compare_trans (hL : st.Layered) {a b c : Nat} {o p : Ordering}
    (h : st.compare a b = some o) (h' : st.compare b c = some p) (ho : o ≠ .gt) (hp : p ≠ .gt) :
    st.compare a c = some (if o = .lt ∨ p = .lt then .lt else .eq) := by
  rcases hL.array_or a with ⟨as, ha⟩ | ha
  · obtain ⟨bs, hb, hab, rfl⟩ := hL.array_of_compare ha h
    obtain ⟨cs, hc, hbc, rfl⟩ := hL.array_of_compare hb h'
    rw [(hL.compare_array_eq ha hc).mpr (forall₂_matches_trans hab hbc)]
    rfl
  · rw [compare_of_not_array (.inl ha)] at h ⊢
    have hb := (Value.compare_scalar_eq_some ha h).1
    rw [compare_of_not_array (.inl hb)] at h'
    exact Value.compare_trans _ h h' ho hp

theorem lawful_compare (hL : st.Layered) : LawfulCompare st.compare :=
  ⟨hL.compare_swap, hL.compare_trans⟩

/-- An array is equal to itself, whatever is in it. -/
theorem compare_same (hL : st.Layered) (hl : st.cell l = .array ls) :
    st.compare l l = some .eq :=
  (hL.compare_array_eq hl hl).mpr (List.forall₂_same.mpr fun _ _ => .inl rfl)

/-- A copy shares no element with what it was made from. -/
theorem compare_place (hL : st.Layered) {slot : Nat} (hslot : slot < st.size) :
    (place (st.read slot) st).2.compare slot (place (st.read slot) st).1 =
      (st.read slot).compare (st.read slot) := by
  have hcopied := place_copied hL (st.read slot)
  generalize (place (st.read slot) st).1 = copy at hcopied ⊢
  generalize (place (st.read slot) st).2 = st' at hcopied ⊢
  have hkept : st'.read slot = st.read slot := by
    apply hL.read_congr hcopied.layered
    intro last hlast
    exact hcopied.frame last (hL.lt_size_of_reaches hslot hlast)
  have hcopy : st'.read copy = st.read slot := by simpa using hcopied.reads
  rw [hcopied.layered.compare_of_disjoint, hkept, hcopy]
  -- What is in the original is older than the copy, what is in the copy is younger.
  intro element helement helement'
  rw [elements, hcopied.frame slot hslot] at helement
  have hold := (hL.younger helement).2
  have hnew := (hcopied.layered.younger helement').1
  have hfresh := (hcopied.fresh copy (List.mem_singleton_self copy)).1
  omega

end Layered

/-- Comparison is a lawful partial order. In any store, whatever its slots hold and whether or not
its arrays share elements, the outcome is reversed when the sides are exchanged, and outcomes that
say "at most" chain. Arrays are equal exactly when they have the same length and at each position
share the slot or hold equal values, and otherwise there is no outcome; so an array is equal to
itself. A copy of a slot is equal to it exactly when no double in it, however deeply nested, is "no
number". The tests for "equal" and "less" are exactly these outcomes. The same laws hold of values
apart from any store, and this is how slots compare that share no element. -/
theorem compare_lawful {st : Store} (hL : st.Layered) :
    LawfulCompare st.compare ∧
    (∀ {l r : Nat} {ls rs : List Nat}, st.cell l = .array ls → st.cell r = .array rs →
      (st.compare l r = some .eq ↔ ls.length = rs.length ∧
        ∀ (i s t : Nat), ls[i]? = some s → rs[i]? = some t →
          s = t ∨ (st.read s).equals (st.read t) = true) ∧
      (st.compare l r ≠ some .eq → st.compare l r = none)) ∧
    (∀ {l : Nat} {ls : List Nat}, st.cell l = .array ls → st.compare l l = some .eq) ∧
    (∀ slot < st.size, let (copy, st') := place (st.read slot) st;
      st'.compare slot copy = some .eq ↔ (st.read slot).hasNan = false) ∧
    (∀ l r, (st.equals l r = true ↔ st.compare l r = some .eq) ∧
      (st.isLess l r = true ↔ st.compare l r = some .lt)) ∧
    LawfulCompare Value.compare ∧
    (∀ v : Value, v.compare v = some .eq ↔ v.hasNan = false) ∧
    (∀ v w : Value, (v.equals w = true ↔ v.compare w = some .eq) ∧
      (v.isLess w = true ↔ v.compare w = some .lt)) ∧
    ∀ l r, (∀ element ∈ st.elements l, element ∉ st.elements r) →
      st.compare l r = (st.read l).compare (st.read r) := by
  refine ⟨hL.lawful_compare, ?_, hL.compare_same, ?_, ?_, Value.lawful_compare,
    Value.compare_self_iff, ?_, fun l r => hL.compare_of_disjoint⟩
  · intro l r ls rs hl hr
    constructor
    · exact (hL.compare_array_eq hl hr).trans forall₂_matches_iff
    · intro hne
      rcases hL.compare_array hl hr with ⟨-, h⟩ | ⟨-, h⟩
      · exact absurd h hne
      · exact h
  · intro slot hslot
    rw [← Value.compare_self_iff, ← hL.compare_place hslot]
  · intro l r
    rw [equals, isLess, beq_iff_eq, beq_iff_eq]
    exact ⟨.rfl, .rfl⟩
  · intro v w
    rw [Value.equals, Value.isLess, beq_iff_eq, beq_iff_eq]
    exact ⟨.rfl, .rfl⟩

/-- A store with two arrays that share an element, which is not a number. -/
def sharing : Store where
  cells := #[.array [2, 3], .array [2, 4], .double .nan, .integer 1, .double (.ofInt 1)]
  nextString := 1

theorem sharing_layered : sharing.Layered where
  younger {slot element} h := by
    match slot with
    | 0 | 1 =>
      have hmem : element = 2 ∨ element = 3 ∨ element = 4 := by
        revert h
        simp [elements, cell, sharing, Cell.elements]
        omega
      have hsize : sharing.size = 5 := rfl
      omega
    | 2 | 3 | 4 => cases h
    | n + 5 =>
      rw [elements, cell_of_size_le (by exact Nat.le_add_left 5 n)] at h
      cases h

/-- Sharing makes the two arrays equal; a copy of one shares nothing and is not equal to it. -/
theorem compare_lawful_sharing :
    sharing.Layered ∧ sharing.compare 0 1 = some .eq ∧ sharing.compare 1 0 = some .eq ∧
      (let (copy, st') := place (sharing.read 0) sharing; st'.compare 0 copy ≠ some .eq) := by
  obtain ⟨hlawful, harray, -, hcopy, -⟩ := compare_lawful sharing_layered
  have hleft : sharing.cell 0 = .array [2, 3] := rfl
  have hright : sharing.cell 1 = .array [2, 4] := rfl
  have hone : sharing.read 3 = .integer 1 := sharing_layered.read_eq 3
  have hone' : sharing.read 4 = .double (.ofInt 1) := sharing_layered.read_eq 4
  have hequal : sharing.compare 0 1 = some .eq := by
    refine (harray hleft hright).1.mpr ⟨rfl, fun i s t hs ht => ?_⟩
    match i with
    | 0 =>
      cases hs
      cases ht
      exact .inl rfl
    | 1 =>
      cases hs
      cases ht
      right
      rw [hone, hone', Value.equals, Value.compare_of_not_array (.inl rfl),
        Value.compareScalars_numbers rfl rfl, Double.compare_ofInt (by decide) (by decide)]
      rfl
    | i + 2 => cases hs
  have hnan : (sharing.read 0).hasNan = true := by
    rw [sharing_layered.read_array hleft, List.map_cons, sharing_layered.read_eq 2]
    rfl
  refine ⟨sharing_layered, hequal, ?_, fun h => ?_⟩
  · rw [hlawful.swap, hequal]
    rfl
  · rw [(hcopy 0 (by decide)).mp h] at hnan
    cases hnan

end Store

end ScriptHost

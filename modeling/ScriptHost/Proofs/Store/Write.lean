import ScriptHost.Proofs.Store.Forest

/-!
# Values that are written are read back

Writing a value into a slot gives every element a slot of its own behind all slots there are, so
that no other slot of the store is touched and none is shared.

* `Store.Copied`, `Store.CopiedAll` : what is known after a value or several values are written.
* `Store.write_copied`, `Store.placeAll_copied` : it holds of any values, whoever shares elements.
* `Store.Written`, `Store.Placed` : the same in a forest, which stays one.
* `Store.write_written`, `Store.placeAll_placed` : it holds of any values.
-/

namespace ScriptHost.Store

/-- A store after a value was written into a slot of it. -/
structure Copied (st : Store) (slot : Nat) (value : Value) (st' : Store) : Prop where
  layered : st'.Layered
  grows : st.size ≤ st'.size
  frame : ∀ other < st.size, other ≠ slot → st'.cell other = st.cell other
  reads : st'.read slot = value

/-- A store after values were written into new slots. -/
structure CopiedAll (st : Store) (slots : List Nat) (values : List Value) (st' : Store) : Prop where
  layered : st'.Layered
  grows : st.size ≤ st'.size
  frame : ∀ other < st.size, st'.cell other = st.cell other
  fresh : ∀ slot ∈ slots, st.size ≤ slot ∧ slot < st'.size
  reads : slots.map st'.read = values

/-- A forest after a value was written into a slot of it. -/
structure Written (st : Store) (slot : Nat) (value : Value) (st' : Store) : Prop
    extends Copied st slot value st' where
  forest : st'.Forest

/-- A forest after values were written into new slots, to which nothing else leads. -/
structure Placed (st : Store) (slots : List Nat) (values : List Value) (st' : Store) : Prop
    extends CopiedAll st slots values st' where
  forest : st'.Forest
  free : ∀ slot ∈ slots, ∀ other, slot ∉ st'.elements other
  distinct : slots.Nodup

theorem Layered.withNextString {st : Store} (hL : st.Layered) (next : UInt64) :
    Layered { st with nextString := next } :=
  ⟨hL.younger⟩

theorem Forest.withNextString {st : Store} (hF : st.Forest) (next : UInt64) :
    Forest { st with nextString := next } :=
  ⟨hF.toLayered.withNextString next, hF.single, hF.distinct⟩

theorem size_lt_extend (st : Store) : st.size < st.extend.size := by
  rw [size_extend]
  omega

/-! ## One cell -/

theorem Copied.of_leaf {st : Store} (hL : st.Layered) {slot : Nat} (hslot : slot < st.size)
    {content : Cell} {value : Value} (h : content.elements = [])
    (hread : ∀ st' : Store, st'.Layered → st'.cell slot = content → st'.read slot = value) :
    Copied st slot value (st.put slot content) where
  layered := hL.put_leaf slot h
  grows := Nat.le_of_eq (size_put st slot content).symm
  frame _ _ hne := cell_put_of_ne st hne content
  reads := hread _ (hL.put_leaf slot h) (cell_put_self hslot content)

theorem Written.of_leaf {st : Store} (hF : st.Forest) {slot : Nat} (hslot : slot < st.size)
    {content : Cell} {value : Value} (h : content.elements = [])
    (hread : ∀ st' : Store, st'.Layered → st'.cell slot = content → st'.read slot = value) :
    Written st slot value (st.put slot content) :=
  ⟨.of_leaf hF.toLayered hslot h hread, hF.put_leaf slot h⟩

namespace CopiedAll

variable {st st' : Store} {slot : Nat} {slots : List Nat} {items : List Value}

theorem younger (h : CopiedAll st slots items st') (hslot : slot < st.size) :
    ∀ element ∈ slots, slot < element ∧ element < st'.size := fun element helement =>
  ⟨Nat.lt_of_lt_of_le hslot (h.fresh element helement).1, (h.fresh element helement).2⟩

/-- An array whose elements have been placed before. -/
theorem put_array (h : CopiedAll st slots items st') (hslot : slot < st.size) :
    Copied st slot (.array items) (st'.put slot (.array slots)) := by
  have hslot' : slot < st'.size := Nat.lt_of_lt_of_le hslot h.grows
  have hlayered : (st'.put slot (.array slots)).Layered := h.layered.put (h.younger hslot)
  refine ⟨hlayered, ?_, ?_, ?_⟩
  · rw [size_put]
    exact h.grows
  · intro other hother hne
    rw [cell_put_of_ne st' hne, h.frame other hother]
  · rw [hlayered.read_array (cell_put_self hslot' _), ← h.reads]
    congr 1
    apply List.map_congr_left
    intro element helement
    exact h.layered.read_put_of_lt hlayered (h.younger hslot element helement).1

end CopiedAll

theorem Placed.forest_put_array {st st' : Store} {slot : Nat} {slots : List Nat}
    {items : List Value} (h : Placed st slots items st') (hslot : slot < st.size) :
    (st'.put slot (.array slots)).Forest := by
  apply h.forest.put
  · exact h.younger hslot
  · exact fun element helement other hother => absurd hother (h.free element helement other)
  · exact h.distinct

/-! ## One value before others -/

theorem CopiedAll.nil {st : Store} (hL : st.Layered) : CopiedAll st [] [] st where
  layered := hL
  grows := Nat.le_refl _
  frame _ _ := rfl
  fresh _ h := by cases h
  reads := rfl

theorem Placed.nil {st : Store} (hF : st.Forest) : Placed st [] [] st where
  toCopiedAll := .nil hF.toLayered
  forest := hF
  free _ h := by cases h
  distinct := List.nodup_nil

section Cons

variable {st st₁ st₂ : Store} {item : Value} {items : List Value} {slots : List Nat}

theorem CopiedAll.cons (h₁ : Copied st.extend st.size item st₁)
    (h₂ : CopiedAll st₁ slots items st₂) :
    CopiedAll st (st.size :: slots) (item :: items) st₂ := by
  have hgrows : st.size < st₁.size := Nat.lt_of_lt_of_le st.size_lt_extend h₁.grows
  refine ⟨h₂.layered, Nat.le_trans (Nat.le_of_lt hgrows) h₂.grows, ?_, ?_, ?_⟩
  · intro other hother
    rw [h₂.frame other (Nat.lt_trans hother hgrows),
      h₁.frame other (Nat.lt_trans hother st.size_lt_extend) (Nat.ne_of_lt hother), cell_extend]
  · intro slot hslot
    rcases List.mem_cons.mp hslot with rfl | hslot
    · exact ⟨Nat.le_refl _, Nat.lt_of_lt_of_le hgrows h₂.grows⟩
    · obtain ⟨hle, hlt⟩ := h₂.fresh slot hslot
      exact ⟨Nat.le_trans (Nat.le_of_lt hgrows) hle, hlt⟩
  · have hread : st₂.read st.size = st₁.read st.size := by
      apply h₁.layered.read_congr h₂.layered
      intro last hlast
      exact h₂.frame last (h₁.layered.lt_size_of_reaches hgrows hlast)
    rw [List.map_cons, hread, h₁.reads, h₂.reads]

theorem Placed.cons (hF : st.Forest) (h₁ : Written st.extend st.size item st₁)
    (h₂ : Placed st₁ slots items st₂) : Placed st (st.size :: slots) (item :: items) st₂ := by
  have hcopied := CopiedAll.cons h₁.toCopied h₂.toCopiedAll
  have hgrows : st.size < st₁.size := Nat.lt_of_lt_of_le st.size_lt_extend h₁.grows
  have hbehind : ∀ slot ∈ slots, st.size < slot := fun slot hslot =>
    Nat.lt_of_lt_of_le hgrows (h₂.fresh slot hslot).1
  refine ⟨hcopied, h₂.forest, ?_, ?_⟩
  · intro slot hslot other hother
    rcases List.mem_cons.mp hslot with rfl | hslot
    -- An array that has the new slot is older, hence unchanged, and had only older elements.
    · have hlt := (h₂.forest.younger hother).1
      rw [elements, hcopied.frame other hlt] at hother
      exact Nat.lt_irrefl _ (hF.younger hother).2
    · exact h₂.free slot hslot other hother
  · exact List.nodup_cons.mpr ⟨fun h => Nat.lt_irrefl _ (hbehind _ h), h₂.distinct⟩

end Cons

/-! ## Any values -/

mutual

/-- A value that is written into a slot is read back from it, and nothing else changes. -/
theorem write_copied {st : Store} (hL : st.Layered) {slot : Nat} (hslot : slot < st.size) :
    ∀ value : Value, Copied st slot value (write value st slot)
  | .uninit => .of_leaf hL hslot rfl fun st' hL' hc => by rw [hL'.read_eq, hc]
  | .boolean b => .of_leaf hL hslot rfl fun st' hL' hc => by rw [hL'.read_eq, hc]
  | .integer n => .of_leaf hL hslot rfl fun st' hL' hc => by rw [hL'.read_eq, hc]
  | .double d => .of_leaf hL hslot rfl fun st' hL' hc => by rw [hL'.read_eq, hc]
  | .string text => by
    let numbered : Store := { st with nextString := st.nextString + 1 }
    let s : ScriptString := ⟨text, st.nextString, 0⟩
    have hnumbered : numbered.Layered := hL.withNextString _
    have h : Copied numbered slot (.string text) (numbered.put slot (.string s)) :=
      .of_leaf hnumbered hslot rfl fun st' hL' hc => hL'.read_string hc
    rw [write]
    exact ⟨h.layered, h.grows, h.frame, h.reads⟩
  | .array items => by
    rw [write]
    exact (placeAll_copied hL items).put_array hslot

/-- Values that are placed are read back from the new slots. -/
theorem placeAll_copied {st : Store} (hL : st.Layered) :
    ∀ values : List Value, CopiedAll st (placeAll values st).1 values (placeAll values st).2
  | [] => .nil hL
  | item :: items => by
    have h := write_copied hL.extend st.size_lt_extend item
    rw [placeAll]
    exact .cons h (placeAll_copied h.layered items)

end

mutual

/-- Writing keeps a forest. -/
theorem write_written {st : Store} (hF : st.Forest) {slot : Nat} (hslot : slot < st.size) :
    ∀ value : Value, Written st slot value (write value st slot)
  | .uninit => ⟨write_copied hF.toLayered hslot _, hF.put_leaf slot rfl⟩
  | .boolean _ => ⟨write_copied hF.toLayered hslot _, hF.put_leaf slot rfl⟩
  | .integer _ => ⟨write_copied hF.toLayered hslot _, hF.put_leaf slot rfl⟩
  | .double _ => ⟨write_copied hF.toLayered hslot _, hF.put_leaf slot rfl⟩
  | .string _ => ⟨write_copied hF.toLayered hslot _, (hF.withNextString _).put_leaf slot rfl⟩
  | .array items => by
    refine ⟨write_copied hF.toLayered hslot _, ?_⟩
    rw [write]
    exact (placeAll_placed hF items).forest_put_array hslot

/-- Placing keeps a forest, and nothing leads to what has been placed. -/
theorem placeAll_placed {st : Store} (hF : st.Forest) :
    ∀ values : List Value, Placed st (placeAll values st).1 values (placeAll values st).2
  | [] => .nil hF
  | item :: items => by
    have h := write_written hF.extend st.size_lt_extend item
    rw [placeAll]
    exact .cons hF h (placeAll_placed h.forest items)

end

/-- A value that is placed is read back from the slot it is given. -/
theorem place_copied {st : Store} (hL : st.Layered) (value : Value) :
    CopiedAll st [(place value st).1] [value] (place value st).2 := by
  have h := placeAll_copied hL [value]
  rw [placeAll, placeAll] at h
  exact h

/-- Placing a value keeps a forest, and nothing leads to the slot it is given. -/
theorem place_placed {st : Store} (hF : st.Forest) (value : Value) :
    Placed st [(place value st).1] [value] (place value st).2 := by
  have h := placeAll_placed hF [value]
  rw [placeAll, placeAll] at h
  exact h

end ScriptHost.Store

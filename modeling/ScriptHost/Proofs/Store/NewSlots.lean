import ScriptHost.Proofs.SlotList.Contents
import ScriptHost.Proofs.Store.Write

/-!
# New slots are numbered in order

A value that is copied takes the next slots that have never been in use, one for itself and one for
every element in it.

* `Store.size_write` : how many slots writing takes.
* `Store.entries_placeAll` : values that are placed, as entries.
-/

namespace ScriptHost.Store

mutual

theorem size_write (value : Value) (st : Store) (slot : Nat) :
    (write value st slot).size = st.size + value.inner := by
  cases value with
  | array items =>
    rw [write, Value.inner, size_put]
    exact size_placeAll items st
  | uninit | boolean | integer | double | string => exact size_put _ _ _

theorem size_placeAll (values : List Value) (st : Store) :
    (placeAll values st).2.size = st.size + Value.innerAll values := by
  cases values with
  | nil => rfl
  | cons value values =>
    rw [placeAll, Value.innerAll]
    dsimp only
    rw [size_placeAll values, size_write value, size_extend]
    omega

end

theorem slots_placeAll (values : List Value) (st : Store) :
    (placeAll values st).1 = (Entry.newAll st.size values).map Entry.slot := by
  induction values generalizing st with
  | nil => rfl
  | cons value values ih =>
    rw [placeAll, Entry.newAll, List.map_cons]
    dsimp only
    rw [ih, size_write, size_extend]

/-- Values that are placed, as entries. -/
theorem entries_placeAll {st st' : Store} {values : List Value}
    (h : (placeAll values st).1.map st'.read = values) :
    (placeAll values st).1.map st'.entry = Entry.newAll st.size values := by
  rw [slots_placeAll, List.map_map] at h ⊢
  have hvalues := h.trans (Entry.values_newAll st.size values).symm
  calc (Entry.newAll st.size values).map (st'.entry ∘ Entry.slot)
      = (Entry.newAll st.size values).map id := by
        apply List.map_congr_left
        intro new hnew
        have hread : st'.read new.slot = new.value := List.map_inj_left.mp hvalues new hnew
        rw [Function.comp_apply, entry, hread, id]
    _ = Entry.newAll st.size values := List.map_id _

end ScriptHost.Store

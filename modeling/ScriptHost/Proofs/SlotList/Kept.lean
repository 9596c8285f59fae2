import Mathlib.Data.List.Nodup
import ScriptHost.Proofs.SlotList.Contents
import ScriptHost.Proofs.Subscript.Path

/-!
# Which elements are taken out

An element leaves a list by a request that names its position or its value, and by no other. All
others keep their slots.

* `SharedArray.Request.TakesOut` : the requests that take an element out.
* `SlotList.mem_step_iff` : the slots that are still there after a request.
-/

namespace ScriptHost

open Subscript (Names)

/-- The element at the position, of the given value, is taken out. -/
def SharedArray.Request.TakesOut (position : Nat) (value : Value) : Request → Prop
  | .call name arguments =>
    Method.lookup? name = some .erase ∧ ∃ first, arguments = [first] ∧ Names first position
  | .remove other => other = position
  | .removeEqual other => value.equals other = true
  | _ => False

namespace SlotList

open SharedArray (Request)

variable {l : SlotList} {entry : Entry} {position : Nat}

theorem getElem?_slots (h : l.entries[position]? = some entry) :
    l.slots[position]? = some entry.slot := by
  rw [slots, List.getElem?_map, h]
  rfl

theorem slot_mem (h : l.entries[position]? = some entry) : entry.slot ∈ l.slots :=
  List.mem_of_getElem? (getElem?_slots h)

/-- Where nothing is taken out, an element stays. -/
theorem mem_iff_of_subset {l' : SlotList} {taken : Prop} (h : l.entries[position]? = some entry)
    (hslots : l.slots ⊆ l'.slots) (hnot : ¬ taken) : entry.slot ∈ l'.slots ↔ ¬ taken :=
  iff_of_true (hslots (slot_mem h)) hnot

theorem mem_iff_of_same {taken : Prop} (h : l.entries[position]? = some entry)
    (hnot : ¬ taken) : entry.slot ∈ l.slots ↔ ¬ taken :=
  mem_iff_of_subset h (List.Subset.refl _) hnot

theorem subset_append (l : SlotList) (values : List Value) :
    l.slots ⊆ (l.append values).slots := by
  rw [slots, slots, append, List.map_append]
  exact List.subset_append_left _ _

theorem subset_insert (l : SlotList) (position : Nat) (value : Value) :
    l.slots ⊆ (l.insert position value).slots := by
  rw [slots, slots, insert, List.map_insertIdx]
  exact List.subset_insertIdx _ _ _

theorem subset_reverse (l : SlotList) : l.slots ⊆ l.reverse.slots := by
  rw [slots, slots, reverse, List.map_reverse]
  exact fun _ => List.mem_reverse.mpr

theorem subset_write (l : SlotList) (slot : Nat) (value : Value) :
    l.slots ⊆ (l.write slot value).slots := by
  rw [slots_write]
  exact List.Subset.refl _

theorem mem_erase_iff (h : l.entries[position]? = some entry) (hdistinct : l.slots.Nodup)
    (other : Nat) : entry.slot ∈ (l.erase other).slots ↔ ¬ other = position := by
  have hslot := getElem?_slots h
  obtain ⟨hlt, _⟩ := List.getElem?_eq_some_iff.mp hslot
  rw [slots, erase, ← List.eraseIdx_map, List.mem_eraseIdx_iff_getElem?]
  constructor
  · rintro ⟨same, hne, hsame⟩ rfl
    have heq := (List.getElem?_inj hlt hdistinct).mp (hslot.trans hsame.symm)
    exact hne heq.symm
  · intro hne
    exact ⟨position, Ne.symm hne, hslot⟩

theorem mem_dropEqual_iff (h : l.entries[position]? = some entry) (hdistinct : l.slots.Nodup)
    (value : Value) :
    entry.slot ∈ (l.dropEqual value).slots ↔ ¬ entry.value.equals value = true := by
  have hentry : entry ∈ l.entries := List.mem_of_getElem? h
  rw [slots, dropEqual]
  constructor
  · intro hmem
    obtain ⟨other, hother, hslot⟩ := List.mem_map.mp hmem
    obtain ⟨hin, hkept⟩ := List.mem_filter.mp hother
    obtain rfl := List.inj_on_of_nodup_map hdistinct hin hentry hslot
    simpa using hkept
  · intro hkept
    apply List.mem_map_of_mem
    exact List.mem_filter.mpr ⟨hentry, by simpa using hkept⟩

theorem mem_eraseNamed_iff (h : l.entries[position]? = some entry) (hdistinct : l.slots.Nodup)
    (first : Value) :
    entry.slot ∈ (l.finish (l.callMethod .erase [first])).2.slots ↔ ¬ Names first position := by
  cases first with
  | integer n =>
    have hnames : Names (.integer n) position ↔ n.toInt = position + 1 := by
      constructor
      · rintro ⟨_, heq, hn⟩
        cases heq
        exact hn
      · exact fun hn => ⟨n, rfl, hn⟩
    rw [hnames]
    simp only [callMethod, named?]
    by_cases hlow : 1 ≤ n.toInt
    · rw [if_pos hlow]
      cases hother : l.entries[n.toInt.toNat - 1]? with
      | none =>
        refine mem_iff_of_same h fun hn => ?_
        have hposition : n.toInt.toNat - 1 = position := by omega
        rw [hposition, h] at hother
        cases hother
      | some other =>
        refine (mem_erase_iff h hdistinct _).trans (not_congr ?_)
        omega
    · rw [if_neg hlow]
      exact mem_iff_of_same h (by omega)
  | uninit | boolean | double | string | array =>
    refine mem_iff_of_same h ?_
    rintro ⟨n, heq, _⟩
    cases heq

theorem mem_method_iff (h : l.entries[position]? = some entry) (hdistinct : l.slots.Nodup)
    (method : Method) (arguments : List Value) :
    entry.slot ∈ (l.finish (l.callMethod method arguments)).2.slots ↔
      ¬ (method = .erase ∧ ∃ first, arguments = [first] ∧ Names first position) := by
  have hother : ∀ {other : Method} {p : Prop}, other ≠ .erase → ¬ (other = .erase ∧ p) :=
    fun hne hboth => hne hboth.1
  unfold callMethod
  split
  · exact mem_iff_of_same h (hother (by decide))
  · exact mem_iff_of_subset h (l.subset_append _) (hother (by decide))
  · split
    · split
      · exact mem_iff_of_subset h (l.subset_insert _ _) (hother (by decide))
      · exact mem_iff_of_same h (hother (by decide))
    · exact mem_iff_of_same h (hother (by decide))
  · rename_i first
    refine (mem_eraseNamed_iff h hdistinct first).trans (not_congr ?_)
    constructor
    · exact fun hnames => ⟨rfl, first, rfl, hnames⟩
    · rintro ⟨_, _, heq, hnames⟩
      cases heq
      exact hnames
  · exact mem_iff_of_subset h l.subset_reverse (hother (by decide))
  · rename_i hnone _
    have hnot : ¬ (method = .erase ∧ ∃ first, arguments = [first] ∧ Names first position) := by
      rintro ⟨herase, first, heq, _⟩
      exact hnone first herase heq
    split
    · exact mem_iff_of_same h hnot
    · exact mem_iff_of_same h hnot

/-- An element is still there after a request, in its slot, unless it is taken out. -/
theorem mem_step_iff (h : l.entries[position]? = some entry) (hdistinct : l.slots.Nodup)
    (request : Request) :
    entry.slot ∈ (l.step request).2.slots ↔ ¬ request.TakesOut position entry.value := by
  cases request with
  | call name arguments =>
    rw [step, call, Request.TakesOut]
    cases Method.lookup? name with
    | none =>
      refine mem_iff_of_same h ?_
      rintro ⟨hnone, _⟩
      cases hnone
    | some method =>
      rw [Option.some.injEq]
      exact mem_method_iff h hdistinct method arguments
  | push value => exact mem_iff_of_subset h (l.subset_append [value]) id
  | insert other value =>
    rw [step]
    split
    · exact mem_iff_of_subset h (l.subset_insert other value) id
    · exact mem_iff_of_same h id
  | remove other =>
    rw [step]
    cases hother : l.entries[other]? with
    | none =>
      refine mem_iff_of_same h ?_
      rintro rfl
      rw [h] at hother
      cases hother
    | some _ => exact mem_erase_iff h hdistinct other
  | set other value =>
    rw [step]
    split
    · exact mem_iff_of_subset h (l.subset_write _ value) id
    · exact mem_iff_of_same h id
  | removeEqual value => exact mem_dropEqual_iff h hdistinct value
  | take other =>
    rw [step]
    split
    · exact mem_iff_of_same h id
    · exact mem_iff_of_same h id
  | read index =>
    rw [step]
    split
    · exact mem_iff_of_same h id
    · exact mem_iff_of_same h id
  | write index value =>
    rw [step]
    split
    · exact mem_iff_of_subset h (l.subset_write _ value) id
    · exact mem_iff_of_same h id

end SlotList

end ScriptHost

import ScriptHost.Proofs.SlotList.Contents

/-!
# Positions that methods take

Scripts count positions from one. A value can be put in before any element or behind the last one,
and only an element can be taken out.

* `SlotList.insert_ok_iff`, `SlotList.erase_ok_iff` : the arguments that are taken.
* `SlotList.callMethod_erase_insert` : what is put in is taken out again.
-/

namespace ScriptHost.SlotList

variable {l : SlotList} {n : Int32} {arguments : List Value}

theorem named?_of_inside (hlow : 1 ≤ n.toInt) (hhigh : n.toInt ≤ l.entries.length) :
    ∃ entry, l.named? n.toInt = some entry := by
  rw [named?, if_pos hlow]
  exact ⟨_, List.getElem?_eq_getElem (by omega)⟩

theorem named?_of_outside (h : ¬ (1 ≤ n.toInt ∧ n.toInt ≤ l.entries.length)) :
    l.named? n.toInt = none := by
  rw [named?]
  split
  · exact List.getElem?_eq_none (by omega)
  · rfl

theorem insert_inside (hlow : 1 ≤ n.toInt) (hhigh : n.toInt ≤ l.entries.length + 1)
    (value : Value) :
    l.callMethod .insert [.integer n, value] =
      .ok (Value.ofCount (l.entries.length + 1), l.insert (n.toInt.toNat - 1) value) :=
  if_pos ⟨hlow, hhigh⟩

theorem insert_outside (h : ¬ (1 ≤ n.toInt ∧ n.toInt ≤ l.entries.length + 1)) (value : Value) :
    l.callMethod .insert [.integer n, value] =
      .error (.indexOutOfRange n.toInt l.entries.length) :=
  if_neg h

theorem erase_inside {entry : Entry} (h : l.named? n.toInt = some entry) :
    l.callMethod .erase [.integer n] = .ok (entry.value, l.erase (n.toInt.toNat - 1)) := by
  simp only [callMethod, h]

theorem erase_outside (h : ¬ (1 ≤ n.toInt ∧ n.toInt ≤ l.entries.length)) :
    l.callMethod .erase [.integer n] = .error (.indexOutOfRange n.toInt l.entries.length) := by
  simp only [callMethod, named?_of_outside h]

/-- The arguments with which a value is put in. -/
theorem insert_ok_iff (l : SlotList) (arguments : List Value) :
    (∃ result, l.callMethod .insert arguments = .ok result) ↔
      ∃ n : Int32, ∃ value, arguments = [.integer n, value] ∧
        1 ≤ n.toInt ∧ n.toInt ≤ l.entries.length + 1 := by
  constructor
  · rintro ⟨result, hresult⟩
    rcases arguments with _ | ⟨first, _ | ⟨value, _ | ⟨third, rest⟩⟩⟩
    · cases hresult
    · cases hresult
    · cases first with
      | integer n =>
        by_contra hnot
        rw [insert_outside (fun h => hnot ⟨n, value, rfl, h⟩)] at hresult
        cases hresult
      | uninit | boolean | double | string | array => cases hresult
    · cases hresult
  · rintro ⟨n, value, rfl, hlow, hhigh⟩
    exact ⟨_, insert_inside hlow hhigh value⟩

/-- The arguments with which an element is taken out. -/
theorem erase_ok_iff (l : SlotList) (arguments : List Value) :
    (∃ result, l.callMethod .erase arguments = .ok result) ↔
      ∃ n : Int32, arguments = [.integer n] ∧ 1 ≤ n.toInt ∧ n.toInt ≤ l.entries.length := by
  constructor
  · rintro ⟨result, hresult⟩
    rcases arguments with _ | ⟨first, _ | ⟨second, rest⟩⟩
    · cases hresult
    · cases first with
      | integer n =>
        by_contra hnot
        rw [erase_outside (fun h => hnot ⟨n, rfl, h⟩)] at hresult
        cases hresult
      | uninit | boolean | double | string | array => cases hresult
    · cases hresult
  · rintro ⟨n, rfl, hlow, hhigh⟩
    obtain ⟨entry, hentry⟩ := named?_of_inside hlow hhigh
    exact ⟨_, erase_inside hentry⟩

theorem entries_erase_insert (l : SlotList) (position : Nat) (value : Value) :
    ((l.insert position value).erase position).entries = l.entries :=
  List.eraseIdx_insertIdx_self _

theorem getElem?_insert {position : Nat} (h : position ≤ l.entries.length) (value : Value) :
    (l.insert position value).entries[position]? = some ⟨l.next, value⟩ := by
  rw [insert, List.getElem?_insertIdx_self, if_pos h]

/-- The value that is put in at a position is taken out there. -/
theorem callMethod_erase_insert (hlow : 1 ≤ n.toInt) (hhigh : n.toInt ≤ l.entries.length + 1)
    (value : Value) :
    (l.insert (n.toInt.toNat - 1) value).callMethod .erase [.integer n] =
      .ok (value, (l.insert (n.toInt.toNat - 1) value).erase (n.toInt.toNat - 1)) := by
  have hentry : (l.insert (n.toInt.toNat - 1) value).named? n.toInt = some ⟨l.next, value⟩ := by
    rw [named?, if_pos hlow, getElem?_insert (by omega)]
  exact erase_inside hentry

theorem reverse_reverse (l : SlotList) : l.reverse.reverse = l :=
  congrArg (SlotList.mk · _ _) (List.reverse_reverse _)

end ScriptHost.SlotList

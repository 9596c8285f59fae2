/-!
# Bindings

Names are bound one by one, and a name that is bound anew loses what it was bound to.

* `Bindings.rebind` : a name bound anew.
* `Bindings.without` : the bindings of other names.
* `Bindings.lookup_of_mem` : each binding is found, as long as a name occurs once.
* `Bindings.perm_cons_without` : what is bound to a name, and the other bindings.
-/

namespace ScriptHost.Bindings

variable {α : Type} {bindings : List (String × α)} {name other : String} {bound : α}

/-- The bindings of other names. -/
def without (bindings : List (String × α)) (name : String) : List (String × α) :=
  bindings.filter fun (other, _) => other != name

/-- Names with one of them bound anew. -/
def rebind (bindings : List (String × α)) (name : String) (bound : α) : List (String × α) :=
  (name, bound) :: without bindings name

/-! ## The bindings of other names -/

theorem mem_without {binding : String × α} :
    binding ∈ without bindings name ↔ binding ∈ bindings ∧ binding.1 ≠ name := by
  rw [without, List.mem_filter]
  exact and_congr_right fun _ => bne_iff_ne

theorem without_sublist : (without bindings name).Sublist bindings := List.filter_sublist

theorem without_cons_self :
    without ((name, bound) :: bindings) name = without bindings name :=
  List.filter_cons_of_neg (by simp)

theorem without_cons_of_ne (h : other ≠ name) :
    without ((other, bound) :: bindings) name = (other, bound) :: without bindings name :=
  List.filter_cons_of_pos (by simpa using h)

theorem without_eq_self (h : name ∉ bindings.map Prod.fst) : without bindings name = bindings := by
  apply List.filter_eq_self.mpr
  intro binding hmem
  apply bne_iff_ne.mpr
  rintro rfl
  exact h (List.mem_map_of_mem hmem)

theorem lookup_without (h : other ≠ name) :
    (without bindings name).lookup other = bindings.lookup other := by
  induction bindings with
  | nil => rfl
  | cons head bindings ih =>
    obtain ⟨key, first⟩ := head
    by_cases hkey : key = name
    · subst hkey
      rw [without_cons_self, ih, List.lookup_cons, beq_false_of_ne h]
    · rw [without_cons_of_ne hkey, List.lookup_cons, List.lookup_cons, ih]

/-! ## Names bound anew -/

theorem mem_rebind {binding : String × α} (h : binding ∈ rebind bindings name bound) :
    binding = (name, bound) ∨ binding ∈ bindings :=
  (List.mem_cons.mp h).imp_right fun h => (mem_without.mp h).1

@[simp] theorem lookup_rebind_self : (rebind bindings name bound).lookup name = some bound :=
  List.lookup_cons_self

theorem lookup_rebind_of_ne (h : other ≠ name) :
    (rebind bindings name bound).lookup other = bindings.lookup other := by
  rw [rebind, List.lookup_cons, beq_false_of_ne h, lookup_without h]

theorem names_rebind (hnames : (bindings.map Prod.fst).Nodup) (bound : α) :
    ((rebind bindings name bound).map Prod.fst).Nodup := by
  rw [rebind, List.map_cons, List.nodup_cons]
  constructor
  · intro h
    obtain ⟨binding, hmem, hname⟩ := List.mem_map.mp h
    exact (mem_without.mp hmem).2 hname
  · exact hnames.sublist (without_sublist.map _)

/-! ## What a name is bound to -/

theorem mem_of_lookup (h : bindings.lookup name = some bound) : (name, bound) ∈ bindings := by
  obtain ⟨front, back, rfl, -⟩ := List.lookup_eq_some_iff.mp h
  exact List.mem_append_right _ List.mem_cons_self

theorem lookup_of_mem (hnames : (bindings.map Prod.fst).Nodup) (h : (name, bound) ∈ bindings) :
    bindings.lookup name = some bound := by
  induction bindings with
  | nil => cases h
  | cons head bindings ih =>
    obtain ⟨hhead, hrest⟩ := List.nodup_cons.mp hnames
    rcases List.mem_cons.mp h with rfl | hmem
    · exact List.lookup_cons_self
    · have hne : name ≠ head.1 := by
        rintro rfl
        exact hhead (List.mem_map.mpr ⟨_, hmem, rfl⟩)
      rw [List.lookup_cons, beq_false_of_ne hne, ih hrest hmem]

/-- A name occurs once among bindings, so that what is bound to it can be taken to the front. -/
theorem perm_cons_without (hnames : (bindings.map Prod.fst).Nodup)
    (h : bindings.lookup name = some bound) :
    bindings.Perm ((name, bound) :: without bindings name) := by
  induction bindings with
  | nil => cases h
  | cons head bindings ih =>
    obtain ⟨hhead, hrest⟩ := List.nodup_cons.mp hnames
    obtain ⟨key, first⟩ := head
    by_cases hkey : name = key
    · subst hkey
      obtain rfl : first = bound := by simpa using h
      rw [without_cons_self, without_eq_self hhead]
    · rw [List.lookup_cons, beq_false_of_ne hkey] at h
      rw [without_cons_of_ne (Ne.symm hkey)]
      exact ((ih hrest h).cons _).trans (.swap ..)

end ScriptHost.Bindings

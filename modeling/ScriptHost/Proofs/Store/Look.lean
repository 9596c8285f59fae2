import Mathlib.Data.List.Chain
import Mathlib.Logic.Relation
import ScriptHost.Proofs.Store.Forest

/-!
# Looking into a slot comes to an end

Whoever looks into a slot goes from an array into its elements, one after the other, and leaves a
slot when all of it has been seen. A slot in which one is already cannot be gone into once more.

* `Store.Holds` : an array and one of its elements.
* `Store.look?` : what is seen, unless the way leads into a slot twice or does not end.
* `Store.Forest.look?_eq` : everything is seen that the slot shows.
-/

namespace ScriptHost.Store

/-- A slot holds an array, and another slot is an element of it. -/
def Holds (st : Store) (array element : Nat) : Prop := element ∈ st.elements array

/-- What is seen in a slot by going down the given number of steps at most. Nothing is seen if the
steps do not suffice, or if the way leads into a slot that has been entered and not left. -/
def look? (st : Store) : (steps : Nat) → (entered : List Nat) → (slot : Nat) → Option Node
  | 0, _, _ => none
  | steps + 1, entered, slot =>
    if slot ∈ entered then none
    else
      match st.cell slot with
      | .uninit => some .uninit
      | .boolean b => some (.boolean b)
      | .integer n => some (.integer n)
      | .double d => some (.double d)
      | .string s => some (.string s)
      | .array slots => (slots.mapM (st.look? steps (slot :: entered))).map (.array slots)

theorem mapM_eq_map {α β : Type} {f : α → Option β} {g : α → β} {xs : List α}
    (h : ∀ x ∈ xs, f x = some (g x)) : xs.mapM f = some (xs.map g) := by
  induction xs with
  | nil => rfl
  | cons x xs ih =>
    have hrest := ih fun y hy => h y (List.mem_cons_of_mem _ hy)
    rw [List.mapM_cons, h x List.mem_cons_self, hrest]
    rfl

namespace Forest

variable {st : Store}

/-- A way from arrays to their elements leads to ever younger slots. -/
theorem sorted_of_chain (hF : st.Forest) {way : List Nat} (h : way.IsChain st.Holds) :
    way.Pairwise (· < ·) :=
  List.isChain_iff_pairwise.mp (h.imp fun _ _ hholds => (hF.younger hholds).1)

theorem nodup_of_chain (hF : st.Forest) {way : List Nat} (h : way.IsChain st.Holds) :
    way.Nodup :=
  List.nodup_iff_pairwise_ne.mpr ((hF.sorted_of_chain h).imp Nat.ne_of_lt)

theorem lt_of_transGen (hF : st.Forest) {slot last : Nat}
    (h : Relation.TransGen st.Holds slot last) : slot < last := by
  induction h with
  | single hholds => exact (hF.younger hholds).1
  | tail _ hholds ih => exact Nat.lt_trans ih (hF.younger hholds).1

/-- No slot lies in the array that it holds, however deeply. -/
theorem not_transGen_self (hF : st.Forest) (slot : Nat) : ¬ Relation.TransGen st.Holds slot slot :=
  fun h => Nat.lt_irrefl slot (hF.lt_of_transGen h)

/-- A slot is an element of one array at most, and at one position. -/
theorem unique_position (hF : st.Forest) {array other i j element : Nat}
    (h : (st.elements array)[i]? = some element) (h' : (st.elements other)[j]? = some element) :
    array = other ∧ i = j := by
  obtain rfl : array = other := hF.single (List.mem_of_getElem? h) (List.mem_of_getElem? h')
  obtain ⟨hi, _⟩ := List.getElem?_eq_some_iff.mp h
  exact ⟨rfl, (List.getElem?_inj hi (hF.distinct array)).mp (h.trans h'.symm)⟩

/-- Looking into a slot shows all that there is to see, if all slots that have been entered are
older and there is a step for every younger one. -/
theorem look?_eq (hF : st.Forest) {steps slot : Nat} {entered : List Nat}
    (hentered : ∀ other ∈ entered, other < slot) (hsteps : st.size - slot < steps) :
    st.look? steps entered slot = some (st.snapshot slot) := by
  induction steps generalizing slot entered with
  | zero => exact absurd hsteps (Nat.not_lt_zero _)
  | succ steps ih =>
    have hnew : slot ∉ entered := fun h => Nat.lt_irrefl slot (hentered slot h)
    rw [look?, if_neg hnew]
    cases hc : st.cell slot with
    | array slots =>
      have hitems : slots.mapM (st.look? steps (slot :: entered)) =
          some (slots.map st.snapshot) := by
        apply mapM_eq_map
        intro element helement
        obtain ⟨hlt, hsize⟩ := hF.younger_of_cell hc helement
        apply ih
        · intro other hother
          rcases List.mem_cons.mp hother with rfl | hother
          · exact hlt
          · exact Nat.lt_trans (hentered other hother) hlt
        · omega
      dsimp only
      rw [hitems, hF.snapshot_array hc]
      rfl
    | uninit | boolean | integer | double | string => rw [snapshot, hc]

end Forest

end ScriptHost.Store

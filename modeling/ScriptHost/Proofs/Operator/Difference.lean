import ScriptHost.Operator
import ScriptHost.Proofs.Comparison.Lawful

/-!
# Sums and differences of arrays

A sum has the items of both operands. A difference keeps the items that equal none of those that are
taken out, which is why differences obey the laws of filters. What stays of an array that is taken
out of itself is what does not equal itself.

* `Operator.Supplies` : the items that a right operand supplies to an array.
* `Operator.without`, `Operator.dropEqual_eq` : items taken out one after another.
* `Operator.without_self` : items taken out of themselves.
* `Operator.combinesItems` : the laws, for operators that return a value.
-/

namespace ScriptHost

namespace Value

/-- Nothing equals a value in which some double is "no number". -/
theorem hasNan_of_equals {v w : Value} (h : v.equals w = true) : v.hasNan = false := by
  rw [equals, beq_iff_eq] at h
  have hback : w.compare v = some .eq := by
    rw [compare_swap, h]
    rfl
  exact (compare_self_iff v).mp (compare_trans v h hback (by decide) (by decide))

theorem equals_self_iff (v : Value) : v.equals v = true ↔ v.hasNan = false := by
  rw [equals, beq_iff_eq, compare_self_iff]

/-- An integer equals the double that stands for the same number. -/
theorem equals_ofInt (n : Int32) :
    (integer n).equals (.double (.ofInt n.toInt)) = true ∧
      (double (.ofInt n.toInt)).equals (.integer n) = true := by
  have hself : (Double.ofInt n.toInt).compare (.ofInt n.toInt) = some .eq := by
    rw [Double.compare_ofInt (natAbs_integer n) (natAbs_integer n), Std.compare_self]
  rw [equals, equals, compare_of_not_array (.inl rfl), compare_of_not_array (.inl rfl),
    compareScalars_numbers rfl rfl, compareScalars_numbers rfl rfl, hself]
  exact ⟨rfl, rfl⟩

end Value

namespace Operator

/-! ## Right operands -/

/-- The items that a right operand supplies to an array: an array its own, anything else itself.
What is unset supplies nothing. -/
inductive Supplies : Value → List Value → Prop
  | array (items : List Value) : Supplies (.array items) items
  | single {value : Value} (hset : value.kind ≠ .uninit) (hsingle : value.kind ≠ .array) :
    Supplies value [value]

variable {right b c : Value} {items bs cs : List Value}

theorem Supplies.itemsOperand? (h : Supplies right items) :
    itemsOperand? right = some items := by
  cases h with
  | array => rfl
  | single hset hsingle =>
    cases right with
    | uninit => exact absurd rfl hset
    | array => exact absurd rfl hsingle
    | boolean | integer | double | string => rfl

theorem combine_of_supplies (op : Operator) (as : List Value) (h : Supplies right items) :
    op.combine (.array as) right = .ok (.array (op.onItems as items)) := by
  rw [combine, combine?, h.itemsOperand?]
  rfl

/-! ## Differences -/

/-- The items that equal none of the others. -/
def without (items others : List Value) : List Value :=
  items.filter fun item => others.all fun other => !item.equals other

/-- Items taken out one after another. -/
theorem dropEqual_eq (items others : List Value) :
    dropEqual items others = without items others := by
  induction others generalizing items with
  | nil => simp [dropEqual, without]
  | cons other others ih =>
    have hfirst : dropEqual items (other :: others) =
        dropEqual (items.filter fun item => !item.equals other) others := rfl
    rw [hfirst, ih, without, without, List.filter_filter]
    congr 1
    funext item
    rw [List.all_cons, Bool.and_comm]

theorem without_without (as bs cs : List Value) :
    without (without as bs) cs = without as (bs ++ cs) := by
  rw [without, without, without, List.filter_filter]
  congr 1
  funext item
  rw [List.all_append, Bool.and_comm]

theorem without_append (as bs cs : List Value) :
    without (as ++ bs) cs = without as cs ++ without bs cs := by
  rw [without, without, without, List.filter_append]

theorem without_again (as bs : List Value) : without (without as bs) bs = without as bs := by
  rw [without, List.filter_eq_self]
  intro item hitem
  exact (List.mem_filter.mp hitem).2

/-- Among other items, an item equals none exactly if it does not equal itself. -/
theorem all_unequal_self {as : List Value} {item : Value} (hitem : item ∈ as) :
    (as.all fun other => !item.equals other) = item.hasNan := by
  cases hnan : item.hasNan with
  | true =>
    rw [List.all_eq_true]
    intro other _
    cases hequal : item.equals other with
    | false => rfl
    | true =>
      rw [Value.hasNan_of_equals hequal] at hnan
      cases hnan
  | false =>
    have hequal := (Value.equals_self_iff item).mpr hnan
    rw [List.all_eq_false]
    exact ⟨item, hitem, by rw [hequal]; decide⟩

/-- What stays of items that are taken out of themselves is what does not equal itself. -/
theorem without_self (as : List Value) : without as as = as.filter Value.hasNan :=
  List.filter_congr fun _ hitem => all_unequal_self hitem

/-! ## The laws for returned values -/

/-- What addition and subtraction make of an array, for right operands that supply items. -/
structure CombinesItems (as : List Value) (b c : Value) (bs cs : List Value) : Prop where
  sum : add.combine (.array as) b = .ok (.array (as ++ bs))
  difference : sub.combine (.array as) b = .ok (.array (without as bs))
  difference_difference :
    (sub.combine (.array as) b >>= (sub.combine · c)) =
      (add.combine (.array bs) c >>= sub.combine (.array as))
  sum_difference :
    (add.combine (.array as) b >>= (sub.combine · c)) =
      (do add.combine (← sub.combine (.array as) c) (← sub.combine (.array bs) c))
  difference_again :
    (sub.combine (.array as) b >>= (sub.combine · b)) = sub.combine (.array as) b
  difference_self :
    sub.combine (.array as) (.array as) = .ok (.array (as.filter Value.hasNan))

theorem combine_add (as : List Value) (h : Supplies right items) :
    add.combine (.array as) right = .ok (.array (as ++ items)) :=
  combine_of_supplies add as h

theorem combine_sub (as : List Value) (h : Supplies right items) :
    sub.combine (.array as) right = .ok (.array (without as items)) := by
  rw [combine_of_supplies sub as h, onItems, dropEqual_eq]

theorem combinesItems (as : List Value) (hb : Supplies b bs) (hc : Supplies c cs) :
    CombinesItems as b c bs cs where
  sum := combine_add as hb
  difference := combine_sub as hb
  difference_difference := by
    rw [combine_sub as hb, combine_add bs hc]
    simp only [bind, Except.bind]
    rw [combine_sub _ hc, combine_sub as (.array _), without_without]
  sum_difference := by
    rw [combine_add as hb, combine_sub as hc, combine_sub bs hc]
    simp only [bind, Except.bind]
    rw [combine_sub _ hc, combine_add _ (.array _), without_append]
  difference_again := by
    rw [combine_sub as hb]
    simp only [bind, Except.bind]
    rw [combine_sub _ hb, without_again]
  difference_self := by rw [combine_sub as (.array as), without_self]

end Operator

end ScriptHost

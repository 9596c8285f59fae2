import ScriptHost.Comparison
import ScriptHost.Proofs.Double.Order
import Mathlib.Data.List.Forall2

/-!
# Comparison is a partial order

Values that are not arrays are compared by a rank: a place on the number line, the bytes of a
text, a truth value, or nothing at all. What is not a number has no rank, and ranks of unlike sorts
do not compare. Arrays are equal where all their items are, so that the laws of the order pass from
the items to the arrays.

* `LawfulCompare` : reversal and transitivity of a three-way comparison that need not be defined.
* `Rank`, `Value.rank?` : what scalars are compared by.
* `Value.equalsAll_iff` : arrays are compared item by item.
* `Value.lawful_compare` : the laws for all values.
* `Value.hasNan`, `Value.compare_self_iff` : the values that are equal to themselves.
-/

namespace ScriptHost

/-! ## Lawful comparisons -/

/-- The laws of a partial order with ties: the other way round the outcome is reversed, and what is
at most as great as something that is at most as great as a third is at most as great as the third,
less as soon as one of the two steps is. -/
structure LawfulCompare {α : Type} (compare : α → α → Option Ordering) : Prop where
  swap : ∀ l r : α, compare r l = (compare l r).map Ordering.swap
  trans : ∀ {a b c : α} {o p : Ordering}, compare a b = some o → compare b c = some p →
    o ≠ .gt → p ≠ .gt → compare a c = some (if o = .lt ∨ p = .lt then .lt else .eq)

namespace LawfulCompare

variable {α β : Type}

/-- A total comparison. -/
theorem of_total (cmp : α → α → Ordering) [Std.TransCmp cmp] :
    LawfulCompare fun l r => some (cmp l r) where
  swap l r := congrArg some Std.OrientedCmp.eq_swap
  trans {a b c o p} h h' ho hp := by
    cases h
    cases h'
    congr 1
    cases hab : cmp a b with
    | lt =>
      cases hbc : cmp b c with
      | lt => exact Std.TransCmp.lt_trans hab hbc
      | eq => exact Std.TransCmp.lt_of_lt_of_eq hab hbc
      | gt => exact absurd hbc hp
    | eq =>
      cases hbc : cmp b c with
      | lt => exact Std.TransCmp.lt_of_eq_of_lt hab hbc
      | eq => exact Std.TransCmp.eq_trans hab hbc
      | gt => exact absurd hbc hp
    | gt => exact absurd hab ho

/-- Things that are compared by what some of them have. -/
theorem comap {compare : β → β → Option Ordering} (h : LawfulCompare compare) (f : α → Option β) :
    LawfulCompare fun l r => (f l).bind fun x => (f r).bind fun y => compare x y where
  swap l r := by
    cases f l with
    | none => cases f r <;> rfl
    | some x =>
      cases f r with
      | none => rfl
      | some y => exact h.swap x y
  trans {a b c o p} hab hbc := by
    obtain ⟨x, hx, hab⟩ := Option.bind_eq_some_iff.mp hab
    obtain ⟨y, hy, hab⟩ := Option.bind_eq_some_iff.mp hab
    obtain ⟨y', hy', hbc⟩ := Option.bind_eq_some_iff.mp hbc
    obtain ⟨z, hz, hbc⟩ := Option.bind_eq_some_iff.mp hbc
    obtain rfl : y = y' := Option.some.inj (hy.symm.trans hy')
    simp only [hx, hz, Option.bind_some]
    exact h.trans hab hbc

end LawfulCompare

/-! ## Ranks -/

/-- The order of texts is that of lists of bytes. -/
theorem Text.compareBytes_eq (l r : List UInt8) : compareBytes l r = Ord.compare l r := by
  induction l generalizing r with
  | nil => cases r <;> rfl
  | cons l ls ih =>
    cases r with
    | nil => rfl
    | cons r rs =>
      rw [compareBytes, ih, List.compare_cons_cons]
      by_cases hlt : l < r
      · rw [if_pos hlt, Std.compare_eq_lt.mpr hlt, Ordering.lt_then]
      · by_cases hgt : r < l
        · rw [if_neg hlt, if_pos hgt, Std.compare_eq_gt.mpr hgt, Ordering.gt_then]
        · have heq : l = r := UInt8.le_antisymm (UInt8.not_lt.mp hgt) (UInt8.not_lt.mp hlt)
          rw [if_neg hlt, if_neg hgt, heq, Std.compare_self, Ordering.eq_then]

/-- What a value that is not an array is compared by. -/
inductive Rank
  | unset
  | truth (b : Bool)
  | place (units : Int)
  | text (bytes : List UInt8)

namespace Rank

/-- Ranks of one sort are compared, others are not. -/
def compare : Rank → Rank → Option Ordering
  | .unset, .unset => some .eq
  | .truth l, .truth r => some (Ord.compare l r)
  | .place l, .place r => some (Ord.compare l r)
  | .text l, .text r => some (Ord.compare l r)
  | _, _ => none

theorem compare_self (rank : Rank) : rank.compare rank = some .eq := by
  cases rank with
  | unset => rfl
  | truth | place | text => exact congrArg some Std.ReflCmp.compare_self

theorem lawful_compare : LawfulCompare compare where
  swap l r := by
    cases l with
    | unset => cases r <;> rfl
    | truth | place | text =>
      cases r <;> first | rfl | exact (LawfulCompare.of_total Ord.compare).swap _ _
  trans {a b c o p} hab hbc := by
    -- Outcomes are only between ranks of one sort, so that all three are of the sort of the first.
    cases a with
    | unset =>
      cases b <;> cases hab
      cases c <;> cases hbc
      exact fun _ _ => rfl
    | truth | place | text =>
      cases b <;> cases hab
      cases c <;> cases hbc
      exact (LawfulCompare.of_total Ord.compare).trans rfl rfl

end Rank

namespace Value

/-- What a value is compared by, if it is neither an array nor "no number". -/
def rank? : Value → Option Rank
  | .uninit => some .unset
  | .boolean b => some (.truth b)
  | .integer n => (Double.ofInt n.toInt).position?.map .place
  | .double d => d.position?.map .place
  | .string text => some (.text (Text.Utf8.encode text.toList))
  | .array _ => none

theorem natAbs_integer (n : Int32) : n.toInt.natAbs < 2 ^ 53 := by
  have hlow := n.le_toInt
  have hhigh := n.toInt_lt
  omega

/-- Numbers are compared as doubles; for integers this is how they compare by themselves. -/
theorem compareScalars_numbers {l r : Value} {x y : Double} (hl : l.number? = some x)
    (hr : r.number? = some y) : l.compareScalars r = x.compare y := by
  have hdoubles : (l.number?.bind fun x => r.number?.bind fun y => x.compare y) = x.compare y := by
    rw [hl, hr]
    rfl
  cases l with
  | integer m =>
    cases r with
    | integer n =>
      obtain rfl := Option.some.inj hl
      obtain rfl := Option.some.inj hr
      exact (Double.compare_ofInt (natAbs_integer m) (natAbs_integer n)).symm
    | double => exact hdoubles
    | uninit | boolean | string | array => cases hr
  | double =>
    cases r with
    | integer | double => exact hdoubles
    | uninit | boolean | string | array => cases hr
  | uninit | boolean | string | array => cases hl

theorem rank?_of_number? {v : Value} {x : Double} (h : v.number? = some x) :
    v.rank? = x.position?.map .place := by
  cases v with
  | integer | double =>
    obtain rfl := Option.some.inj h
    rfl
  | uninit | boolean | string | array => cases h

theorem compare_positions (x y : Double) :
    x.compare y = (x.position?.map Rank.place).bind fun p =>
      (y.position?.map Rank.place).bind fun q => p.compare q := by
  rw [Double.compare]
  cases x.position? with
  | none => rfl
  | some => cases y.position? <;> rfl

/-- A number and a value that is none do not compare, neither as they are nor by their ranks. -/
theorem compareScalars_number {l r : Value} {x : Double} (hl : l.number? = some x)
    (hr : r.number? = none) :
    l.compareScalars r = none ∧ r.compareScalars l = none ∧
      ∀ units, (r.rank?.bind fun y => (Rank.place units).compare y) = none ∧
        (r.rank?.bind fun y => y.compare (.place units)) = none := by
  cases l with
  | integer | double =>
    cases r with
    | integer | double => cases hr
    | uninit | boolean | string | array => exact ⟨rfl, rfl, fun _ => ⟨rfl, rfl⟩⟩
  | uninit | boolean | string | array => cases hl

/-- Values that are not arrays are compared by their ranks. -/
theorem compareScalars_eq (l r : Value) :
    l.compareScalars r = l.rank?.bind fun x => r.rank?.bind fun y => x.compare y := by
  cases hl : l.number? with
  | some x =>
    cases hr : r.number? with
    | some y =>
      rw [compareScalars_numbers hl hr, rank?_of_number? hl, rank?_of_number? hr, compare_positions]
    | none =>
      obtain ⟨h, -, hrank⟩ := compareScalars_number hl hr
      rw [h, rank?_of_number? hl]
      cases x.position? with
      | none => rfl
      | some units => exact (hrank units).1.symm
  | none =>
    cases hr : r.number? with
    | some y =>
      obtain ⟨-, h, hrank⟩ := compareScalars_number hr hl
      rw [h, rank?_of_number? hr]
      cases y.position? with
      | none => cases l.rank? <;> rfl
      | some units => exact (hrank units).2.symm
    | none =>
      cases l with
      | integer | double => cases hl
      | string =>
        cases r with
        | string => exact congrArg some (Text.compareBytes_eq _ _)
        | uninit | boolean | array => rfl
        | integer | double => cases hr
      | uninit | boolean | array =>
        cases r with
        | uninit | boolean | string | array => rfl
        | integer | double => cases hr

theorem lawful_compareScalars : LawfulCompare compareScalars := by
  have heq : compareScalars = fun l r => l.rank?.bind fun x => r.rank?.bind fun y => x.compare y :=
    funext fun l => funext fun r => compareScalars_eq l r
  rw [heq]
  exact Rank.lawful_compare.comap rank?

/-! ## Arrays -/

/-- Arrays are compared item by item. -/
theorem equalsAll_iff (ls rs : List Value) :
    equalsAll ls rs = true ↔ List.Forall₂ (fun l r => l.equals r = true) ls rs := by
  induction ls generalizing rs with
  | nil => cases rs <;> simp [equalsAll]
  | cons l ls ih =>
    cases rs with
    | nil => simp [equalsAll]
    | cons r rs => rw [equalsAll, Bool.and_eq_true, List.forall₂_cons, ih, equals]

theorem compare_array (ls rs : List Value) :
    (array ls).compare (.array rs) = if equalsAll ls rs then some .eq else none := rfl

theorem compare_of_not_array {l r : Value} (h : l.array? = none ∨ r.array? = none) :
    l.compare r = l.compareScalars r := by
  cases l with
  | array =>
    cases r with
    | array => rcases h with h | h <;> cases h
    | uninit | boolean | integer | double | string => rfl
  | uninit | boolean | integer | double | string => cases r <;> rfl

/-- With an array, only an array has an order, and only that of being equal. -/
theorem compare_array_eq_some {ls : List Value} {r : Value} {o : Ordering}
    (h : (array ls).compare r = some o) :
    ∃ rs, r = .array rs ∧ equalsAll ls rs = true ∧ o = .eq := by
  cases r with
  | array rs =>
    rw [compare_array] at h
    split at h
    · rename_i hequal
      cases h
      exact ⟨rs, rfl, hequal, rfl⟩
    · cases h
  | uninit | boolean | integer | double | string => cases h

/-- With what is no array, only what is no array has an order. -/
theorem compare_scalar_eq_some {l r : Value} {o : Ordering} (hl : l.array? = none)
    (h : l.compare r = some o) : r.array? = none ∧ l.compareScalars r = some o := by
  rw [compare_of_not_array (.inl hl)] at h
  refine ⟨?_, h⟩
  cases r with
  | array =>
    rw [compareScalars_eq] at h
    cases hrank : l.rank? with
    | none =>
      rw [hrank] at h
      cases h
    | some =>
      rw [hrank] at h
      cases h
  | uninit | boolean | integer | double | string => rfl

mutual

theorem compare_swap : ∀ l r : Value, r.compare l = (l.compare r).map Ordering.swap
  | .array ls, .array rs => by
    rw [compare_array, compare_array, equalsAll_comm ls rs]
    split <;> rfl
  | .array _, .uninit | .array _, .boolean _ | .array _, .integer _ | .array _, .double _
  | .array _, .string _ => rfl
  | .uninit, r | .boolean _, r | .integer _, r | .double _, r | .string _, r => by
    rw [compare_of_not_array (.inr rfl), compare_of_not_array (.inl rfl)]
    exact lawful_compareScalars.swap _ _

theorem equalsAll_comm : ∀ ls rs : List Value, equalsAll rs ls = equalsAll ls rs
  | [], [] => rfl
  | [], _ :: _ => rfl
  | _ :: _, [] => rfl
  | l :: ls, r :: rs => by
    rw [equalsAll, equalsAll, equalsAll_comm ls rs, compare_swap l r]
    cases l.compare r with
    | none => rfl
    | some o => cases o <;> rfl

end

/-- Transitivity of the scalars, for values of which the first is one. -/
theorem compare_scalar_trans {a b c : Value} {o p : Ordering} (ha : a.array? = none)
    (h : a.compare b = some o) (h' : b.compare c = some p) (ho : o ≠ .gt) (hp : p ≠ .gt) :
    a.compare c = some (if o = .lt ∨ p = .lt then .lt else .eq) := by
  obtain ⟨hb, hab⟩ := compare_scalar_eq_some ha h
  obtain ⟨-, hbc⟩ := compare_scalar_eq_some hb h'
  rw [compare_of_not_array (.inl ha)]
  exact lawful_compareScalars.trans hab hbc ho hp

mutual

theorem compare_trans : ∀ (a : Value) {b c : Value} {o p : Ordering}, a.compare b = some o →
    b.compare c = some p → o ≠ .gt → p ≠ .gt →
      a.compare c = some (if o = .lt ∨ p = .lt then .lt else .eq)
  | .array as, b, c, o, p, h, h', _, _ => by
    obtain ⟨bs, rfl, hab, rfl⟩ := compare_array_eq_some h
    obtain ⟨cs, rfl, hbc, rfl⟩ := compare_array_eq_some h'
    rw [compare_array, equalsAll_trans as hab hbc]
    rfl
  | .uninit, _, _, _, _, h, h', ho, hp | .boolean _, _, _, _, _, h, h', ho, hp
  | .integer _, _, _, _, _, h, h', ho, hp | .double _, _, _, _, _, h, h', ho, hp
  | .string _, _, _, _, _, h, h', ho, hp => compare_scalar_trans rfl h h' ho hp

theorem equalsAll_trans : ∀ (as : List Value) {bs cs : List Value}, equalsAll as bs = true →
    equalsAll bs cs = true → equalsAll as cs = true
  | [], [], [], _, _ => rfl
  | a :: as, b :: bs, c :: cs, h, h' => by
    rw [equalsAll, Bool.and_eq_true, beq_iff_eq] at h h' ⊢
    refine ⟨?_, equalsAll_trans as h.2 h'.2⟩
    exact compare_trans a h.1 h'.1 (by decide) (by decide)

end

/-- Values of all kinds are compared lawfully. -/
theorem lawful_compare : LawfulCompare compare := ⟨compare_swap, compare_trans _⟩

/-! ## Values that are equal to themselves -/

mutual

/-- Whether some double in a value, however deeply nested, is "no number". -/
def hasNan : Value → Bool
  | .double d => d == .nan
  | .array items => hasNanAny items
  | _ => false

/-- Whether there is such a double in one of several values. -/
def hasNanAny : List Value → Bool
  | [] => false
  | item :: items => hasNan item || hasNanAny items

end

/-- Among the values that are no arrays, what is not a number is what has no rank. -/
theorem rank?_eq_none {v : Value} (h : v.array? = none) : v.rank? = none ↔ v.hasNan = true := by
  cases v with
  | integer n =>
    rw [rank?, Double.position?_ofInt (natAbs_integer n)]
    exact ⟨nofun, nofun⟩
  | double d =>
    rw [rank?, hasNan, beq_iff_eq, Option.map_eq_none_iff, Double.position?_eq_none]
  | array => cases h
  | uninit | boolean | string => exact ⟨nofun, nofun⟩

theorem compare_scalar_self {v : Value} (h : v.array? = none) :
    v.compare v = some .eq ↔ v.hasNan = false := by
  rw [compare_of_not_array (.inl h), compareScalars_eq, ← Bool.not_eq_true, ← rank?_eq_none h]
  cases v.rank? with
  | none => simp
  | some rank => simp [rank.compare_self]

mutual

/-- A value is equal to one that is built like it exactly when there is no such double in it. -/
theorem compare_self_iff : ∀ v : Value, v.compare v = some .eq ↔ v.hasNan = false
  | .array items => by
    rw [compare_array, hasNan, ← equalsAll_self_iff items]
    cases equalsAll items items <;> simp
  | .uninit | .boolean _ | .integer _ | .double _ | .string _ => compare_scalar_self rfl

theorem equalsAll_self_iff : ∀ items : List Value,
    equalsAll items items = true ↔ hasNanAny items = false
  | [] => by simp [equalsAll, hasNanAny]
  | item :: items => by
    rw [equalsAll, hasNanAny, Bool.and_eq_true, Bool.or_eq_false_iff, beq_iff_eq,
      compare_self_iff item, equalsAll_self_iff items]

end

end Value

end ScriptHost

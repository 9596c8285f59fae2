import ScriptHost.Subscript
import Mathlib.Data.List.Forall2

/-!
# Paths into nested arrays

A path is a list of positions counted from zero. What a list of indices selects is the part of the
value at the path that the indices name, or a span of the string there.

* `Value.part?`, `Value.exchange` : the part at a path, and the value with another part there.
* `Subscript.SelectsElement`, `Subscript.SelectsSpan` : the two kinds of what indices select.
* `Value.subscript_ok` : there are no other kinds.
* `Value.subscript_exchange` : after an exchange the other index lists select what they did.
-/

namespace ScriptHost

namespace Value

/-- The part of a value at a path. -/
def part? : Value → List Nat → Option Value
  | value, [] => some value
  | value, position :: path =>
    match value with
    | .array items =>
      match items[position]? with
      | some item => item.part? path
      | none => none
    | _ => none

/-- A value with the part at a path exchanged. -/
def exchange : Value → List Nat → Value → Value
  | _, [], new => new
  | value, position :: path, new =>
    match value with
    | .array items => .array (items.modify position fun item => item.exchange path new)
    | value => value

end Value

namespace Subscript

/-- An index is the number of a position, counted from one. -/
def Names (index : Value) (position : Nat) : Prop :=
  ∃ n : Int32, index = .integer n ∧ n.toInt = position + 1

/-- Indices that name a path, one position each. -/
def NamesAll (indices : List Value) (path : List Nat) : Prop := List.Forall₂ Names indices path

/-- Indices that name a span of a string with the given number of characters. -/
inductive NamesSpan (size : Nat) : List Value → Nat → Nat → Prop
  | character {index : Value} {start : Nat} :
    Names index start → start < size → NamesSpan size [index] start 1
  | range {first : Value} {start : Nat} {count : Int32} {length : Nat} :
    Names first start → start ≤ size → count.toInt = length →
    NamesSpan size [first, .integer count] start length

/-- Indices that name the positions of a path, as far as both go. -/
def Agrees : List Value → List Nat → Prop
  | index :: indices, position :: path => Names index position ∧ Agrees indices path
  | _, _ => True

/-- Indices that name the part at a path, go into it, or name something that contains it. -/
def Meets (indices : List Value) (path : List Nat) : Prop := indices ≠ [] ∧ Agrees indices path

/-- The indices select an element of an array, the one at the path. -/
def SelectsElement (value : Value) (indices : List Value) (path : List Nat) : Prop :=
  path ≠ [] ∧ NamesAll indices path ∧ ∃ item, value.part? path = some item

/-- The last index, or the last two, select a span of the string at the path. -/
def SelectsSpan (value : Value) (indices : List Value) (path : List Nat) (text : String)
    (start length : Nat) : Prop :=
  value.part? path = some (.string text) ∧
    ∃ front back, indices = front ++ back ∧ NamesAll front path ∧
      NamesSpan text.toList.length back start length

/-! ## Positions -/

theorem position_of_names {index : Value} {place : Nat} (h : Names index place) (container : Kind)
    {length : Nat} (hlt : place < length) : position container index length = .ok place := by
  obtain ⟨n, rfl, hn⟩ := h
  rw [position, if_neg (by omega), hn]
  rfl

theorem names_of_position {container : Kind} {index : Value} {length place : Nat}
    (h : position container index length = .ok place) : Names index place ∧ place < length := by
  unfold position at h
  split at h
  · rename_i n
    split at h
    · cases h
    · cases h
      exact ⟨⟨n, rfl, by omega⟩, by omega⟩
  · cases h

theorem namesSpan_of_span {size start length : Nat} {first count : Value}
    (h : span size first count = .ok (start, length)) :
    NamesSpan size [first, count] start length := by
  unfold span at h
  split at h
  · rename_i n m
    split at h
    · cases h
    · split at h
      · cases h
      · cases h
        exact .range ⟨n, rfl, by omega⟩ (by omega) (by omega)
  · cases h
  · cases h

theorem span_of_namesSpan {size start length : Nat} {first count : Value}
    (h : NamesSpan size [first, count] start length) :
    span size first count = .ok (start, length) := by
  cases h with
  | range hfirst hstart hcount =>
    obtain ⟨n, rfl, hn⟩ := hfirst
    rw [span, if_neg (by omega), if_neg (by omega), hn, hcount]
    rfl

end Subscript

namespace Value

open Subscript

/-! ## What is selected -/

theorem part?_cons {items : List Value} {position : Nat} {path : List Nat} {part : Value}
    (h : (Value.array items).part? (position :: path) = some part) :
    ∃ item, items[position]? = some item ∧ item.part? path = some part := by
  rw [part?] at h
  split at h
  · rename_i item hitem
    exact ⟨item, hitem, h⟩
  · cases h

/-- Indices that name the path of an element select it. -/
theorem subscript_of_namesAll {value item : Value} {indices : List Value} {path : List Nat}
    (hpath : path ≠ []) (hnames : NamesAll indices path) (hpart : value.part? path = some item) :
    value.subscript indices = .ok item := by
  induction hnames generalizing value with
  | nil => exact absurd rfl hpath
  | @cons index position indices path hindex hrest ih =>
    cases value with
    | array items =>
      obtain ⟨element, helement, hpart⟩ := part?_cons hpart
      obtain ⟨hlt, _⟩ := List.getElem?_eq_some_iff.mp helement
      have hposition := position_of_names hindex .array hlt
      cases hrest with
      | nil =>
        cases hpart
        simp only [subscript, Value.item, hposition, bind, Except.bind, helement]
      | cons hsecond hrest =>
        have hinner := ih (List.cons_ne_nil _ _) hpart
        simp only [subscript, hposition, bind, Except.bind, helement, hinner]
    | uninit | boolean | integer | double | string => cases hpart

theorem selectsElement_cons {items : List Value} {item index : Value} {position : Nat}
    {indices : List Value} {path : List Nat} (hitem : items[position]? = some item)
    (hindex : Names index position) (h : SelectsElement item indices path) :
    SelectsElement (.array items) (index :: indices) (position :: path) := by
  obtain ⟨_, hnames, part, hpart⟩ := h
  refine ⟨List.cons_ne_nil _ _, .cons hindex hnames, part, ?_⟩
  rw [part?, hitem]
  exact hpart

theorem selectsSpan_cons {items : List Value} {item index : Value} {position : Nat}
    {indices : List Value} {path : List Nat} {text : String} {start length : Nat}
    (hitem : items[position]? = some item) (hindex : Names index position)
    (h : SelectsSpan item indices path text start length) :
    SelectsSpan (.array items) (index :: indices) (position :: path) text start length := by
  obtain ⟨hpart, front, back, rfl, hnames, hspan⟩ := h
  refine ⟨?_, index :: front, back, rfl, .cons hindex hnames, hspan⟩
  rw [part?, hitem]
  exact hpart

theorem selects_of_item {value index selected : Value} (h : value.item index = .ok selected) :
    (∃ path, SelectsElement value [index] path) ∨
      ∃ path text start length, SelectsSpan value [index] path text start length := by
  cases value with
  | array items =>
    simp only [item, bind, Except.bind] at h
    split at h
    · cases h
    · rename_i position hposition
      obtain ⟨hindex, hlt⟩ := names_of_position hposition
      refine Or.inl ⟨[position], List.cons_ne_nil _ _, .cons hindex .nil, items[position], ?_⟩
      rw [part?, List.getElem?_eq_getElem hlt]
      rfl
  | string text =>
    simp only [item, bind, Except.bind] at h
    split at h
    · cases h
    · rename_i position hposition
      obtain ⟨hindex, hlt⟩ := names_of_position hposition
      exact Or.inr ⟨[], text, position, 1, rfl, [], [index], rfl, .nil, .character hindex hlt⟩
  | uninit | boolean | integer | double => cases h

/-- What is selected is an element or a span of a string. -/
theorem subscript_ok {indices : List Value} :
    ∀ {value selected : Value}, value.subscript indices = .ok selected →
      (∃ path, SelectsElement value indices path) ∨
        ∃ path text start length, SelectsSpan value indices path text start length := by
  induction indices with
  | nil =>
    intro value selected h
    cases h
  | cons first indices ih =>
    intro value selected h
    cases indices with
    | nil => exact selects_of_item h
    | cons second rest =>
      cases value with
      | array items =>
        simp only [subscript, bind, Except.bind] at h
        split at h
        · cases h
        · rename_i position hposition
          obtain ⟨hfirst, _⟩ := names_of_position hposition
          split at h
          · rename_i item hitem
            rcases ih h with ⟨path, hpath⟩ | ⟨path, text, start, length, hspan⟩
            · exact Or.inl ⟨position :: path, selectsElement_cons hitem hfirst hpath⟩
            · exact Or.inr ⟨position :: path, text, start, length,
                selectsSpan_cons hitem hfirst hspan⟩
          · cases h
      | string text =>
        cases rest with
        | nil =>
          simp only [subscript, bind, Except.bind] at h
          split at h
          · cases h
          · rename_i pair hpair
            exact Or.inr ⟨[], text, pair.1, pair.2, rfl, [], [first, second], rfl, .nil,
              namesSpan_of_span hpair⟩
        | cons => cases h
      | uninit | boolean | integer | double => cases h

/-! ## Exchanged parts -/

theorem exchange_cons (items : List Value) (position : Nat) (path : List Nat) (new : Value) :
    (Value.array items).exchange (position :: path) new =
      .array (items.modify position fun item => item.exchange path new) := by
  rw [exchange]

theorem part?_exchange {value part : Value} {path : List Nat} (h : value.part? path = some part)
    (new : Value) : (value.exchange path new).part? path = some new := by
  induction path generalizing value with
  | nil => rfl
  | cons position path ih =>
    cases value with
    | array items =>
      obtain ⟨item, hitem, hpart⟩ := part?_cons h
      rw [exchange_cons, part?, List.getElem?_modify_eq, hitem]
      exact ih hpart
    | uninit | boolean | integer | double | string => cases h

/-- Index lists that do not meet the path select what they did, and fail as they did. -/
theorem subscript_exchange {value part : Value} {path : List Nat}
    (h : value.part? path = some part) (new : Value) {indices : List Value}
    (hother : ¬ Meets indices path) :
    (value.exchange path new).subscript indices = value.subscript indices := by
  cases indices with
  | nil => rfl
  | cons first indices =>
    have hagrees : ¬ Agrees (first :: indices) path := fun hagrees =>
      hother ⟨List.cons_ne_nil _ _, hagrees⟩
    clear hother
    induction path generalizing value first indices with
    | nil => exact absurd trivial hagrees
    | cons position path ih =>
      cases value with
      | uninit | boolean | integer | double | string => cases h
      | array items =>
        obtain ⟨item, hitem, hpart⟩ := part?_cons h
        -- The walk leaves the path here, or it goes on and leaves it later.
        have hplace : Names first position → ¬ Agrees indices path := fun hfirst hrest =>
          hagrees ⟨hfirst, hrest⟩
        rw [exchange_cons]
        cases indices with
        | nil =>
          simp only [subscript, Value.item, List.length_modify, bind, Except.bind]
          split
          · rfl
          · rename_i place hposition
            obtain ⟨hfirst, _⟩ := names_of_position hposition
            have hne : position ≠ place := by
              rintro rfl
              exact hplace hfirst trivial
            rw [List.getElem?_modify_ne _ _ hne]
        | cons second rest =>
          simp only [subscript, List.length_modify, bind, Except.bind]
          split
          · rfl
          · rename_i place hposition
            obtain ⟨hfirst, _⟩ := names_of_position hposition
            by_cases heq : position = place
            · subst heq
              rw [List.getElem?_modify_eq, hitem]
              exact ih hpart second rest (hplace hfirst)
            · rw [List.getElem?_modify_ne _ _ heq]

end Value

end ScriptHost

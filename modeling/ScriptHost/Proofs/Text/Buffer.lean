import ScriptHost.Proofs.Text.Locality
import ScriptHost.Proofs.Text.Span
import ScriptHost.Text.Buffer

/-!
# Walks find the spans

The walks over a text end where the characters of a span begin and end, so that the bytes may be cut
there.

* `charactersAt` : the characters of a text at the positions of some kind.
* `slice_eq_charactersAt` : the characters of a span are those at its positions.
* `Buffer.offset?_eq`, `Buffer.span_eq` : where the walks end.
* `Buffer.cut?_span`, `Buffer.exchange?_span` : the bytes of a span taken out, and others put in.
-/

namespace ScriptHost.Text

open Utf8

/-- The characters of a text at the positions of some kind, in order. -/
def charactersAt (text : List Char) (kind : Nat → Bool) : List Char :=
  (text.zipIdx.filter fun (_, position) => kind position).map Prod.fst

theorem zipIdx_between (text : List Char) (offset start stop : Nat) :
    ((text.zipIdx offset).filter fun (_, position) => start ≤ position && position < stop).map
        Prod.fst = (text.take (stop - offset)).drop (start - offset) := by
  induction text generalizing offset with
  | nil => simp
  | cons c text ih =>
    rw [List.zipIdx_cons, List.filter_cons]
    by_cases hstop : offset < stop
    · obtain ⟨n, hn⟩ : ∃ n, stop - offset = n + 1 := ⟨stop - (offset + 1), by omega⟩
      have hrest := ih (offset + 1)
      rw [show stop - (offset + 1) = n by omega] at hrest
      by_cases hstart : start ≤ offset
      · rw [show start - (offset + 1) = 0 by omega] at hrest
        simp [hstart, hstop, hrest, hn, show start - offset = 0 by omega]
      · obtain ⟨m, hm⟩ : ∃ m, start - offset = m + 1 := ⟨start - (offset + 1), by omega⟩
        rw [show start - (offset + 1) = m by omega] at hrest
        simp [hstart, hrest, hn, hm]
    · have hrest := ih (offset + 1)
      rw [show stop - (offset + 1) = 0 by omega] at hrest
      simp [hstop, hrest, show stop - offset = 0 by omega]

/-- The characters of a span are those at its positions. -/
theorem slice_eq_charactersAt (text : List Char) (start length : Nat) :
    slice text start length =
      charactersAt text fun position => start ≤ position && position < start + length := by
  have h := zipIdx_between text 0 start (start + length)
  rw [Nat.sub_zero, Nat.sub_zero, List.drop_take, Nat.add_sub_cancel_left] at h
  exact h.symm

namespace Buffer

/-! ## Walks -/

theorem getElem?_characters (text : List Char) (offset position : Nat) :
    (characters offset text)[position]? =
      text[position]?.map fun c => (offset + size (text.take position), c) := by
  induction text generalizing offset position with
  | nil => rfl
  | cons c text ih =>
    cases position with
    | zero => rfl
    | succ position =>
      rw [characters, List.getElem?_cons_succ, ih, List.getElem?_cons_succ, List.take_succ_cons,
        size_cons, Nat.add_assoc]

/-- The walk to a code-point position ends behind the characters before it. -/
theorem offset?_eq (text : List Char) (position : Nat) :
    offset? text position = byteOffset? text position := by
  rw [offset?, getElem?_characters, byteOffset?]
  by_cases h : position < text.length
  · rw [List.getElem?_eq_getElem h, if_pos (Nat.le_of_lt h)]
    simp
  · rw [List.getElem?_eq_none (Nat.le_of_not_lt h)]
    dsimp only [Option.map_none]
    by_cases hend : position = text.length
    · rw [if_pos hend, if_pos (Nat.le_of_eq hend), hend, List.take_length, length_encode]
    · rw [if_neg hend, if_neg (by omega)]

/-- The walk to the ends of a span, which has to tell apart whether the span is empty, begins past
the end or reaches past it. -/
theorem span_eq (text : List Char) (start length : Nat) :
    span text start length = byteSpan text start length := by
  unfold span byteSpan
  dsimp only
  rw [List.head?_drop, List.getElem?_drop, getElem?_characters, getElem?_characters, length_encode]
  by_cases hstart : start < text.length
  · rw [List.getElem?_eq_getElem hstart]
    dsimp only [Option.map_some]
    rw [Nat.zero_add, Nat.zero_add]
    by_cases hlength : length = 0
    · rw [if_pos hlength, hlength, Nat.add_zero]
    · rw [if_neg hlength]
      by_cases hstop : start + length < text.length
      · rw [List.getElem?_eq_getElem hstop]
        rfl
      · rw [List.getElem?_eq_none (Nat.le_of_not_lt hstop),
          List.take_of_length_le (Nat.le_of_not_lt hstop)]
        rfl
  · rw [List.getElem?_eq_none (Nat.le_of_not_lt hstart),
      List.take_of_length_le (by omega : text.length ≤ start),
      List.take_of_length_le (by omega : text.length ≤ start + length)]
    rfl

/-! ## Cuts -/

theorem cut?_eq_some_iff {bytes found : List UInt8} {first last : Nat} :
    cut? bytes (first, last) = some found ↔
      isCut bytes first last = true ∧ (bytes.take last).drop first = found := by
  rw [cut?, Option.ite_none_right_eq_some, Option.some.injEq]

/-- The bytes of a text may be cut behind any of its characters. -/
theorem isBoundary_encode (front back : List Char) :
    isBoundary (encode (front ++ back)) (size front) = true := by
  rw [isBoundary, encode_append, ← length_encode, List.getElem?_append_right (Nat.le_refl _),
    Nat.sub_self, ← List.head?_eq_getElem?]
  cases hbyte : (encode back).head? with
  | none => simp [List.head?_eq_none_iff.mp hbyte]
  | some byte =>
    have hbegins : ¬ GoesOn byte := not_goesOn_of_head? hbyte
    rw [GoesOn, ← continuation_contains_iff] at hbegins
    simp [hbegins]

theorem isCut_encode (front middle back : List Char) :
    isCut (encode (front ++ middle ++ back)) (size front) (size (front ++ middle)) = true := by
  have hfirst := isBoundary_encode front (middle ++ back)
  have hlast := isBoundary_encode (front ++ middle) back
  rw [← List.append_assoc] at hfirst
  rw [isCut, hfirst, hlast, size_append]
  simp

/-- What is in front of a span, in it and behind it. -/
theorem parts_of_span (text : List Char) (start length : Nat) :
    text = text.take start ++ slice text start length ++ text.drop (start + length) ∧
      span text start length =
        (size (text.take start), size (text.take start ++ slice text start length)) := by
  constructor
  · rw [slice, ← List.take_add, List.take_append_drop]
  · rw [span_eq, byteSpan, slice, ← List.take_add]

/-- The bytes that are taken out for a span are those of its characters. -/
theorem cut?_span (text : List Char) (start length : Nat) :
    cut? (encode text) (span text start length) = some (encode (slice text start length)) := by
  obtain ⟨hparts, hspan⟩ := parts_of_span text start length
  rw [hspan]
  generalize text.take start = front at hparts ⊢
  generalize slice text start length = middle at hparts ⊢
  rw [hparts, cut?, if_pos (isCut_encode ..), encode_append, ← length_encode, ← length_encode,
    List.take_left, encode_append, List.drop_left]

/-- Bytes that are put in the place of a span. -/
theorem exchange?_span (text : List Char) (start length : Nat) (written : List Char) :
    exchange? (encode text) (span text start length) (encode written) =
      some (encode (replaceSpan text start length written)) := by
  obtain ⟨hparts, hspan⟩ := parts_of_span text start length
  rw [hspan, replaceSpan, encode_append, encode_append]
  generalize text.take start = front at hparts ⊢
  generalize slice text start length = middle at hparts ⊢
  generalize text.drop (start + length) = back at hparts ⊢
  rw [hparts, exchange?, if_pos (isCut_encode ..)]
  dsimp only
  rw [encode_append, ← length_encode (front ++ middle), List.drop_left, encode_append,
    List.append_assoc (encode front), ← length_encode, List.take_left]

end Buffer

end ScriptHost.Text

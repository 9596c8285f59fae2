import ScriptHost.Proofs.Text.Buffer
import ScriptHost.Proofs.Text.Occurrence

/-!
# A search among the bytes of a text

No byte inside a character begins another one. So the bytes of a target stand only where its
characters do, and the first place where they stand is the first occurrence of the target.

* `Utf8.encode_prefix_iff` : the fronts of a text in bytes and in characters.
* `Buffer.occursAt_encode_iff` : where the bytes of a target stand.
* `Buffer.passed?_eq` : what the search passes over.
* `Buffer.find?_eq` : the search among bytes is the one among characters.
-/

namespace ScriptHost.Text

namespace Utf8

/-! ## Bytes inside a character -/

theorem Follow.goesOn {ranges : List ByteRange} {bytes : List UInt8} (h : Follow ranges bytes)
    (hranges : ∀ range ∈ ranges, 0x80 ≤ range.low.toNat ∧ range.high.toNat ≤ 0xbf) :
    ∀ byte ∈ bytes, GoesOn byte := by
  induction h with
  | nil => exact fun _ hbyte => absurd hbyte List.not_mem_nil
  | @cons range byte ranges bytes hcontains _ ih =>
    obtain ⟨hrange, hmore⟩ := List.forall_mem_cons.mp hranges
    refine List.forall_mem_cons.mpr ⟨?_, ih hmore⟩
    have hbounds := contains_iff.mp hcontains
    exact ⟨hrange.1.trans hbounds.1, hbounds.2.trans hrange.2⟩

/-- Only the first byte of a character begins something. -/
theorem exists_begins (c : Char) : ∃ byte more, String.utf8EncodeChar c = byte :: more ∧
    ¬ GoesOn byte ∧ ∀ byte ∈ more, GoesOn byte := by
  obtain ⟨byte, more, bits, ranges, hbytes, hlead, hfollow⟩ := encodeChar_follows c
  refine ⟨byte, more, hbytes, ?_, hfollow.goesOn fun range hrange => ?_⟩
  · refine @not_goesOn_of_head? [c] byte ?_
    rw [encode_cons, hbytes]
    rfl
  · obtain ⟨hlow, -, hhigh⟩ := range_of_lead? hlead hrange
    exact ⟨hlow, hhigh⟩

/-- A text begins with another one as its bytes do with those of the other. -/
theorem encode_prefix_iff {target text : List Char} :
    encode target <+: encode text ↔ target <+: text := by
  constructor
  · intro h
    induction target generalizing text with
    | nil => exact List.nil_prefix
    | cons c target ih =>
      obtain ⟨rest, hrest⟩ := h
      rw [encode_cons, List.append_assoc] at hrest
      cases text with
      | nil =>
        obtain ⟨byte, more, hbytes, -⟩ := exists_begins c
        rw [hbytes] at hrest
        cases hrest
      | cons d text =>
        obtain ⟨rfl, hmore⟩ := encodeChar_inj hrest
        exact List.cons_prefix_cons.mpr ⟨rfl, ih ⟨rest, hmore⟩⟩
  · rintro ⟨rest, rfl⟩
    rw [encode_append]
    exact List.prefix_append _ _

theorem drop_encode (text : List Char) (position : Nat) :
    (encode text).drop (size (text.take position)) = encode (text.drop position) := by
  have hparts := encode_append (text.take position) (text.drop position)
  rw [List.take_append_drop] at hparts
  rw [hparts, ← length_encode, List.drop_left]

theorem encode_eq_nil {text : List Char} : encode text = [] ↔ text = [] := by
  cases text with
  | nil => exact iff_of_true rfl rfl
  | cons c text =>
    obtain ⟨byte, more, hbytes, -⟩ := exists_begins c
    rw [encode_cons, hbytes]
    exact iff_of_false (List.cons_ne_nil _ _) (List.cons_ne_nil _ _)

theorem size_take_le {i j : Nat} (h : i ≤ j) (text : List Char) :
    size (text.take i) ≤ size (text.take j) := by
  obtain ⟨k, rfl⟩ := Nat.exists_eq_add_of_le h
  rw [List.take_add, size_append]
  exact Nat.le_add_right _ _

/-- Where something begins in the bytes of a text, or where they end, a character begins or the text
ends. -/
theorem exists_size_take {text : List Char} {position : Nat}
    (hposition : position ≤ (encode text).length)
    (hbegins : ∀ byte ∈ (encode text)[position]?, ¬ GoesOn byte) :
    ∃ i ≤ text.length, position = size (text.take i) := by
  induction text generalizing position with
  | nil => exact ⟨0, Nat.le_refl 0, Nat.le_zero.mp hposition⟩
  | cons c text ih =>
    obtain ⟨byte, more, hbytes, -, hmore⟩ := exists_begins c
    have hwidth := String.length_utf8EncodeChar c
    rcases Nat.lt_or_ge position c.utf8Size with hinside | hbehind
    · cases position with
      | zero => exact ⟨0, Nat.zero_le _, rfl⟩
      | succ position =>
        exfalso
        rw [hbytes, List.length_cons] at hwidth
        have hlt : position < more.length := by omega
        refine hbegins more[position] ?_ (hmore _ (List.getElem_mem hlt))
        rw [encode_cons, hbytes, List.cons_append, List.getElem?_cons_succ,
          List.getElem?_append_left hlt]
        exact List.getElem?_eq_getElem hlt
    · rw [encode_cons, List.length_append, hwidth] at hposition
      rw [encode_cons, List.getElem?_append_right (by omega), hwidth] at hbegins
      obtain ⟨i, hi, hsize⟩ := ih (by omega) hbegins
      refine ⟨i + 1, Nat.succ_le_succ hi, ?_⟩
      rw [List.take_succ_cons, size_cons, ← hsize]
      omega

end Utf8

open Utf8

namespace Buffer

/-! ## The bytes of a target -/

theorem occurrence?_eq_some_iff {bytes wanted : List UInt8} {i : Nat} :
    occurrence? bytes wanted = some i ↔ IsFirst bytes wanted 0 i := by
  rw [occurrence?, List.find?_range_eq_some, List.isPrefixOf_iff_prefix, List.mem_range,
    Nat.lt_succ_iff]
  constructor
  · rintro ⟨hfront, hi, hbefore⟩
    refine ⟨⟨Nat.zero_le i, hi, hfront⟩, ?_⟩
    rintro other ⟨-, -, hother⟩
    refine Nat.le_of_not_lt fun hlt => ?_
    have hnone := hbefore other hlt
    rw [Bool.not_eq_true', ← Bool.not_eq_true, List.isPrefixOf_iff_prefix] at hnone
    exact hnone hother
  · rintro ⟨⟨-, hi, hfront⟩, hleast⟩
    refine ⟨hfront, hi, fun j hj => ?_⟩
    rw [Bool.not_eq_true', ← Bool.not_eq_true, List.isPrefixOf_iff_prefix]
    intro hother
    have hle := hleast ⟨Nat.zero_le j, hj.le.trans hi, hother⟩
    omega

/-- The bytes of a target stand where its characters do. -/
theorem occursAt_encode_iff {text target : List Char} (h : target ≠ []) {position : Nat} :
    OccursAt (encode text) (encode target) position ↔
      ∃ i, position = size (text.take i) ∧ OccursAt text target i := by
  constructor
  · rintro ⟨hposition, hfront⟩
    have hbegins : ∀ byte ∈ (encode text)[position]?, ¬ GoesOn byte := by
      intro byte hbyte
      obtain ⟨rest, hrest⟩ := hfront
      rw [← List.head?_drop, ← hrest, List.head?_append_of_ne_nil _ (mt encode_eq_nil.mp h)]
        at hbyte
      exact not_goesOn_of_head? hbyte
    obtain ⟨i, hi, rfl⟩ := exists_size_take hposition hbegins
    rw [drop_encode, encode_prefix_iff] at hfront
    exact ⟨i, rfl, hi, hfront⟩
  · rintro ⟨i, rfl, hi, hfront⟩
    have hsize := size_take_le hi text
    rw [List.take_length, ← length_encode text] at hsize
    refine ⟨hsize, ?_⟩
    rw [drop_encode]
    exact encode_prefix_iff.mpr hfront

theorem isFirst_nil {α : Type} (text : List α) : IsFirst text [] 0 0 :=
  ⟨⟨Nat.le_refl 0, Nat.zero_le _, List.nil_prefix⟩, fun _ h => h.1⟩

/-- The first place where the bytes of a target stand is behind the characters in front of its first
occurrence. -/
theorem occurrence?_encode (text target : List Char) :
    occurrence? (encode text) (encode target) =
      (Text.find? text target 0).map fun i => size (text.take i) := by
  by_cases htarget : target = []
  · subst htarget
    rw [encode_nil, find?_eq_some_iff.mpr (isFirst_nil text),
      occurrence?_eq_some_iff.mpr (isFirst_nil _)]
    rfl
  · cases hfound : Text.find? text target 0 with
    | some i =>
      obtain ⟨⟨-, hoccurs⟩, hleast⟩ := find?_eq_some_iff.mp hfound
      refine occurrence?_eq_some_iff.mpr
        ⟨⟨Nat.zero_le _, (occursAt_encode_iff htarget).mpr ⟨i, rfl, hoccurs⟩⟩, ?_⟩
      rintro other ⟨-, hother⟩
      obtain ⟨j, rfl, hoccurs'⟩ := (occursAt_encode_iff htarget).mp hother
      exact size_take_le (hleast ⟨Nat.zero_le j, hoccurs'⟩) text
    | none =>
      rw [find?_eq_none_iff] at hfound
      refine Option.eq_none_iff_forall_ne_some.mpr fun position hsome => ?_
      obtain ⟨⟨-, hoccurs⟩, -⟩ := occurrence?_eq_some_iff.mp hsome
      obtain ⟨i, -, hoccurs'⟩ := (occursAt_encode_iff htarget).mp hoccurs
      exact hfound i (Nat.zero_le i) hoccurs'

/-! ## The search -/

theorem begins_iff {byte : UInt8} : (!continuation.contains byte) = true ↔ ¬ GoesOn byte := by
  rw [Bool.not_eq_true', ← Bool.not_eq_true, continuation_contains_iff, GoesOn]

/-- As many characters begin in the bytes of a text as it has. -/
theorem count_encode (text : List Char) : count (encode text) = text.length := by
  induction text with
  | nil => rfl
  | cons c text ih =>
    obtain ⟨byte, more, hbytes, hbegins, hmore⟩ := exists_begins c
    have hnone : more.countP (fun byte => !continuation.contains byte) = 0 :=
      List.countP_eq_zero.mpr fun other hother => fun h => begins_iff.mp h (hmore other hother)
    rw [count] at ih ⊢
    rw [encode_cons, hbytes, List.cons_append, List.countP_cons, List.countP_append, hnone,
      Nat.zero_add, ih, if_pos (begins_iff.mpr hbegins), List.length_cons]

variable (text target : List Char) (start : Nat)

/-- The search passes over the characters from the start to the first occurrence. -/
theorem passed?_eq : passed? text target start = (Text.find? text target start).map fun i =>
    (size (text.take start), size (text.take i)) := by
  rw [passed?, offset?_eq, byteOffset?]
  by_cases hstart : start ≤ text.length
  · rw [if_pos hstart, find?_drop hstart]
    dsimp only [bind, Option.bind]
    rw [drop_encode, occurrence?_encode]
    cases Text.find? (text.drop start) target 0 with
    | none => rfl
    | some i =>
      dsimp only [Option.map_some]
      rw [size_take_add, slice]
  · have hnone : Text.find? text target start = none := by rw [Text.find?, if_neg hstart]
    rw [if_neg hstart, hnone]
    rfl

/-- The bytes of a span may be cut out, and are those of its characters. -/
theorem cut_span (length : Nat) :
    isCut (encode text) (size (text.take start)) (size (text.take (start + length))) = true ∧
      ((encode text).take (size (text.take (start + length)))).drop (size (text.take start)) =
        encode (slice text start length) := by
  have hcut := cut?_span text start length
  rw [span_eq] at hcut
  exact cut?_eq_some_iff.mp hcut

/-- What the search passes over may be cut out. -/
theorem isCut_passed {span : Nat × Nat} (h : passed? text target start = some span) :
    isCut (encode text) span.1 span.2 = true := by
  rw [passed?_eq] at h
  obtain ⟨i, hfound, rfl⟩ := Option.map_eq_some_iff.mp h
  obtain ⟨⟨hstart, -⟩, -⟩ := find?_eq_some_iff.mp hfound
  obtain ⟨length, rfl⟩ := Nat.exists_eq_add_of_le hstart
  exact (cut_span text start length).1

/-- The search among bytes finds what the one among characters finds. -/
theorem find?_eq : find? text target start = Text.find? text target start := by
  rw [find?, passed?_eq]
  cases hfound : Text.find? text target start with
  | none => rfl
  | some i =>
    obtain ⟨⟨hstart, hoccurs⟩, -⟩ := find?_eq_some_iff.mp hfound
    obtain ⟨length, rfl⟩ := Nat.exists_eq_add_of_le hstart
    have hinside := hoccurs.1
    have hlength : (slice text start length).length = length := by
      rw [slice, List.length_take, List.length_drop]
      omega
    dsimp only [Option.map_some, bind, Option.bind]
    rw [(cut_span text start length).2, count_encode, hlength]

end Buffer

end ScriptHost.Text

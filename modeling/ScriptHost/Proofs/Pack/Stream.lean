import ScriptHost.Proofs.Pack.Grammar
import ScriptHost.Proofs.Pack.RoundTrip

/-!
# Values in a stream

Packed values that stand one behind the other need nothing between them. A reader finds the end of
each, and what stands behind the last one only must not look like more of a number.

* `Value.packAll` : values put behind a text, in order.
* `Cursor.readings` : what one cursor reads, one value after the other.
* `Cursor.readings_packAll` : the values are read back, and each reading ends where its value does.
-/

namespace ScriptHost

open Text.Utf8 (encode encode_append length_encode size size_append)

/-- A text with the stream forms of values put behind it, one by one. -/
def Value.packAll (written : String) (values : List Value) : String :=
  values.foldl packOnto written

namespace Cursor

/-- The cursor that stands at a place of the bytes. -/
def standing (bytes : List UInt8) (offset : Nat) : Cursor := ⟨offset, bytes.drop offset⟩

/-- What is read by asking several times for the next value, each time from where the cursor was
left. -/
def readings : Nat → Cursor → List (Pack.Reading Value)
  | 0, _ => []
  | count + 1, cursor => cursor.next :: readings count cursor.next.cursor

end Cursor

/-! ## What is written -/

namespace Value

/-- What was written before stays, and the stream forms follow it. -/
theorem toList_packAll (written : String) (values : List Value) :
    (packAll written values).toList = written.toList ++ Pack.items values := by
  induction values generalizing written with
  | nil => simp [packAll, Pack.items]
  | cons value values ih =>
    have hfirst : (packOnto written value).toList = written.toList ++ Pack.item value := by
      simp [packOnto]
    rw [packAll, List.foldl_cons, ← packAll, ih, hfirst, Pack.items, List.append_assoc]

end Value

namespace Pack

theorem items_append (values others : List Value) :
    items (values ++ others) = items values ++ items others := by
  induction values with
  | nil => simp [items]
  | cons value values ih => simp [items, ih]

theorem items_take_drop (values : List Value) (count : Nat) :
    items (values.take count) ++ items (values.drop count) = items values := by
  rw [← items_append, List.take_append_drop]

/-- Bytes that do not begin like a part of a number end any number before them. -/
theorem stops_of_not_numeral {tail : List UInt8}
    (h : ∀ byte ∈ tail.head?, byte ∉ plain "0123456789+-.eE") : Stops isDoubleByte tail := by
  intro byte hbyte
  rw [Bool.eq_false_iff]
  exact mt isDoubleByte_iff.mp (h byte hbyte)

end Pack

/-! ## What is read -/

namespace Cursor

theorem standing_append (front back : List UInt8) :
    standing (front ++ back) front.length = ⟨front.length, back⟩ := by
  rw [standing, List.drop_left]

/-- Items are read one by one. Behind each of them the cursor has the later ones before it. -/
theorem readings_items {tail : List UInt8} (hstop : Pack.Stops Pack.isDoubleByte tail)
    (values : List Value) (offset : Nat) (hdepth : ∀ value ∈ values, value.depth ≤ Pack.maxDepth)
    (hsize : size (Pack.items values) < 2 ^ 64) :
    readings values.length ⟨offset, encode (Pack.items values) ++ tail⟩ =
      values.mapIdx fun k value =>
        .done value ⟨offset + size (Pack.items (values.take (k + 1))),
          encode (Pack.items (values.drop (k + 1))) ++ tail⟩ := by
  induction values generalizing offset with
  | nil => rfl
  | cons value values ih =>
    rw [Pack.size_items_cons] at hsize
    have hnext : (⟨offset, encode (Pack.items (value :: values)) ++ tail⟩ : Cursor).next =
        .done value ⟨offset + size (Pack.item value), encode (Pack.items values) ++ tail⟩ := by
      rw [Pack.items, encode_append, List.append_assoc]
      exact Pack.readItem_item Pack.maxDepth offset (Pack.stops_items hstop values) value
        (hdepth value List.mem_cons_self) (by omega)
    have hrest := ih (offset + size (Pack.item value))
      (fun other hother => hdepth other (List.mem_cons_of_mem _ hother)) (by omega)
    rw [List.length_cons, readings, hnext, Pack.Reading.cursor, hrest, List.mapIdx_cons]
    simp [Pack.items, size_append, Nat.add_assoc]

/-- Values are put behind a text, and any bytes behind them that do not begin like a part of a
number. Nothing that was written before is changed. A cursor that stands behind the text reads the
values in order, and each time it is left exactly where the text ended when that value had been put
there; what it has before it in the end are the bytes behind the values. The size is that of a text
in memory, which is counted in 64 bits. -/
theorem readings_packAll (written : String) (values : List Value) (tail : List UInt8)
    (hdepth : ∀ value ∈ values, value.depth ≤ Pack.maxDepth)
    (htail : ∀ byte ∈ tail.head?, byte ∉ Pack.plain "0123456789+-.eE")
    (hsize : size (Value.packAll written values).toList < 2 ^ 64) :
    let bytes := encode (Value.packAll written values).toList ++ tail
    let place count := size (Value.packAll written (values.take count)).toList
    (∀ count, (Value.packAll written (values.take count)).toList <+:
      (Value.packAll written values).toList) ∧
    readings values.length (standing bytes (place 0)) =
      values.mapIdx (fun k value => .done value (standing bytes (place (k + 1)))) ∧
    (standing bytes (place values.length)).rest = tail := by
  intro bytes place
  have hwritten : ∀ count, (Value.packAll written (values.take count)).toList ++
      Pack.items (values.drop count) = (Value.packAll written values).toList := by
    intro count
    rw [Value.toList_packAll, Value.toList_packAll, List.append_assoc, Pack.items_take_drop]
  have hplace : ∀ count, place count =
      size written.toList + size (Pack.items (values.take count)) := by
    intro count
    rw [← size_append, ← Value.toList_packAll]
  have hstanding : ∀ count, standing bytes (place count) =
      ⟨place count, encode (Pack.items (values.drop count)) ++ tail⟩ := by
    intro count
    have hbytes : bytes = encode (Value.packAll written (values.take count)).toList ++
        (encode (Pack.items (values.drop count)) ++ tail) := by
      rw [← List.append_assoc, ← encode_append, hwritten]
    rw [hbytes, show place count = _ from (length_encode _).symm]
    exact standing_append _ _
  have hitems : size (Pack.items values) < 2 ^ 64 := by
    rw [Value.toList_packAll, size_append] at hsize
    omega
  refine ⟨fun count => ⟨_, hwritten count⟩, ?_, ?_⟩
  · have hread := readings_items (Pack.stops_of_not_numeral htail) values (place 0) hdepth hitems
    rw [hstanding, List.drop_zero, hread]
    congr 1
    funext k value
    rw [hstanding, hplace, hplace, List.take_zero, Pack.items, Text.Utf8.size_nil, Nat.add_zero]
  · rw [hstanding, List.drop_length]
    rfl

/-- Numbers and words beside one another, a text that looks like a packed value, and bytes that are
no value behind a number. -/
theorem readings_packAll_numbers :
    let values := [Value.integer (-1), .double (.infinite true), .string "i5", .array [],
      .double .nan, .integer 2]
    let bytes := encode (Value.packAll "" values).toList ++ [0x78, 0x37]
    let place count := size (Value.packAll "" (values.take count)).toList
    readings values.length (standing bytes (place 0)) =
        values.mapIdx (fun k value => .done value (standing bytes (place (k + 1)))) ∧
      (standing bytes (place values.length)).rest = [0x78, 0x37] := by
  intro values bytes place
  have hdepth : ∀ value ∈ values, value.depth ≤ Pack.maxDepth := by decide +kernel
  have htail : ∀ byte ∈ [0x78, 0x37].head?, byte ∉ Pack.plain "0123456789+-.eE" := by
    decide +kernel
  have hsize : size (Value.packAll "" values).toList < 2 ^ 64 := by decide +kernel
  exact (readings_packAll "" values [0x78, 0x37] hdepth htail hsize).2

/-- A byte that goes on like a number is taken for a part of it. -/
example :
    (readings 1 (ofBytes (encode (Value.packAll "" [.integer 1]).toList ++ [0x35]))).map
      Pack.Reading.cursor = [⟨3, []⟩] := by
  decide +kernel

end Cursor

end ScriptHost

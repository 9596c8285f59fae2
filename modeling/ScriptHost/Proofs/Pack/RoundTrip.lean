import ScriptHost.Pack.Layout
import ScriptHost.Proofs.Pack.Item

/-!
# Packed values are unpacked again

Reading follows writing item by item. The allowance of nested arrays decides where they part: the
reader stops at the first tag in the text of an array that lies in as many arrays as are allowed.

* `Pack.readItem_item` : an item that is not nested too deeply is read back, whatever follows it.
* `Pack.readItem_tooDeep` : an item that is nested too deeply is refused at its first deep tag.
* `Value.unpack_packBytes` : both, for whole packed values.
-/

namespace ScriptHost

namespace Pack

open Text.Utf8 (encode encode_append length_encode size size_append)

/-! ## Sizes -/

theorem size_item_pos (value : Value) : 0 < size (item value) := by
  obtain ⟨tag, payload, hitem, _⟩ := item_eq_cons value
  rw [hitem, Text.Utf8.size_cons]
  exact Nat.lt_of_lt_of_le (Char.utf8Size_pos tag) (Nat.le_add_right _ _)

theorem size_items_cons (value : Value) (values : List Value) :
    size (items (value :: values)) = size (item value) + size (items values) := by
  rw [items, size_append]

theorem size_item_array (values : List Value) :
    size (item (.array values)) = size (counted 'a' values.length) + size (items values) := by
  rw [item, size_append]

theorem length_le_size_items (values : List Value) : values.length ≤ size (items values) := by
  induction values with
  | nil => exact Nat.zero_le _
  | cons value values ih =>
    have hpos := size_item_pos value
    rw [size_items_cons, List.length_cons]
    omega

theorem size_text_le (text : String) : size text.toList ≤ size (item (.string text)) := by
  rw [item, size_append]
  exact Nat.le_add_left _ _

/-! ## What is read back -/

theorem readMany_cons {read : Cursor → Reading Value} {cursor behind : Cursor} {value : Value}
    (h : read cursor = .done value behind) (count : Nat) :
    readMany read (count + 1) cursor = (readMany read count behind).map (value :: ·) := by
  rw [readMany, h, Reading.bind]

mutual

/-- An item that is not nested too deeply is read back, and reading ends behind it. -/
theorem readItem_item (allowance offset : Nat) {rest : List UInt8}
    (hstop : Stops isDoubleByte rest) :
    ∀ value : Value, value.depth ≤ allowance → size (item value) < 2 ^ 64 →
      readItem allowance ⟨offset, encode (item value) ++ rest⟩ =
        .done value ⟨offset + size (item value), rest⟩
  | .uninit, _, _ => readItem_uninit allowance offset rest
  | .boolean b, _, _ => readItem_boolean b allowance offset rest
  | .integer n, _, _ => readItem_integer n allowance offset hstop
  | .double d, _, _ => readItem_double d allowance offset hstop
  | .string text, _, hsize =>
    readItem_string (Nat.lt_of_le_of_lt (size_text_le text) hsize) allowance offset rest
  | .array values, hdepth, hsize => by
    rw [Value.depth] at hdepth
    rw [size_item_array] at hsize
    have hlength := length_le_size_items values
    obtain ⟨allowance, rfl⟩ : ∃ n, allowance = n + 1 := ⟨allowance - 1, by omega⟩
    have hread := readMany_items allowance (offset + size (counted 'a' values.length)) hstop
      values (by omega) (by omega)
    rw [readItem_array (by omega), hread, size_item_array, Nat.add_assoc]
    rfl

theorem readMany_items (allowance offset : Nat) {rest : List UInt8}
    (hstop : Stops isDoubleByte rest) :
    ∀ values : List Value, Value.depthAll values ≤ allowance → size (items values) < 2 ^ 64 →
      readMany (readItem allowance) values.length ⟨offset, encode (items values) ++ rest⟩ =
        .done values ⟨offset + size (items values), rest⟩
  | [], _, _ => rfl
  | value :: values, hdepth, hsize => by
    rw [Value.depthAll] at hdepth
    rw [size_items_cons] at hsize
    have hvalue := readItem_item allowance offset (stops_items hstop values) value (by omega)
      (by omega)
    have hvalues := readMany_items allowance (offset + size (item value)) hstop values (by omega)
      (by omega)
    rw [items, encode_append, List.append_assoc, List.length_cons, readMany_cons hvalue, hvalues,
      size_append, Nat.add_assoc]
    rfl

end

/-! ## The tags of arrays -/

mutual

theorem around_le {tag : ArrayTag} (offset around : Nat) :
    ∀ value : Value, tag ∈ arrayTagsFrom offset around value → tag.around < around + value.depth
  | .array values, h => by
    rw [arrayTagsFrom] at h
    rw [Value.depth]
    rcases List.mem_cons.mp h with rfl | h
    · dsimp only
      omega
    · have hlt := element_around_le _ _ values h
      omega

theorem element_around_le {tag : ArrayTag} (offset around : Nat) :
    ∀ values : List Value, tag ∈ elementTagsFrom offset around values →
      tag.around < around + Value.depthAll values
  | value :: values, h => by
    rw [elementTagsFrom] at h
    rw [Value.depthAll]
    rcases List.mem_append.mp h with h | h
    · have hlt := around_le _ _ value h
      omega
    · have hlt := element_around_le _ _ values h
      omega

end

mutual

/-- The tag of an array stands within its item. -/
theorem offset_bounds {tag : ArrayTag} (offset around : Nat) :
    ∀ value : Value, tag ∈ arrayTagsFrom offset around value →
      offset ≤ tag.offset ∧ tag.offset < offset + size (item value)
  | .array values, h => by
    have hpos := size_item_pos (.array values)
    rw [arrayTagsFrom] at h
    rcases List.mem_cons.mp h with rfl | h
    · exact ⟨Nat.le_refl _, Nat.lt_add_of_pos_right hpos⟩
    · have hbounds := element_offset_bounds _ _ values h
      rw [size_item_array]
      omega

theorem element_offset_bounds {tag : ArrayTag} (offset around : Nat) :
    ∀ values : List Value, tag ∈ elementTagsFrom offset around values →
      offset ≤ tag.offset ∧ tag.offset < offset + size (items values)
  | value :: values, h => by
    rw [elementTagsFrom] at h
    rw [size_items_cons]
    rcases List.mem_append.mp h with h | h
    · have hbounds := offset_bounds _ _ value h
      omega
    · have hbounds := element_offset_bounds _ _ values h
      omega

end

mutual

/-- The tags are listed in the order of the text. -/
theorem arrayTagsFrom_ordered (offset around : Nat) :
    ∀ value : Value, (arrayTagsFrom offset around value).Pairwise (·.offset < ·.offset)
  | .uninit | .boolean _ | .integer _ | .double _ | .string _ => List.Pairwise.nil
  | .array values => by
    rw [arrayTagsFrom, List.pairwise_cons]
    refine ⟨fun tag h => ?_, elementTagsFrom_ordered _ _ values⟩
    have hbounds := element_offset_bounds _ _ values h
    have hcounted : 0 < size (counted 'a' values.length) := by
      rw [counted, size_tag (by decide)]
      omega
    exact Nat.lt_of_lt_of_le (Nat.lt_add_of_pos_right hcounted) hbounds.1

theorem elementTagsFrom_ordered (offset around : Nat) :
    ∀ values : List Value, (elementTagsFrom offset around values).Pairwise (·.offset < ·.offset)
  | [] => List.Pairwise.nil
  | value :: values => by
    rw [elementTagsFrom, List.pairwise_append]
    refine ⟨arrayTagsFrom_ordered _ _ value, elementTagsFrom_ordered _ _ values, ?_⟩
    intro tag h tag' h'
    have hbounds := offset_bounds _ _ value h
    have hbounds' := element_offset_bounds _ _ values h'
    omega

end

mutual

/-- At the place of a tag stands the byte that marks an array. -/
theorem byte_of_mem_arrayTagsFrom {tag : ArrayTag} (around : Nat) (before rest : List UInt8) :
    ∀ value : Value, tag ∈ arrayTagsFrom before.length around value →
      (before ++ (encode (item value) ++ rest))[tag.offset]? = some 0x61
  | .array values, h => by
    rw [arrayTagsFrom] at h
    rcases List.mem_cons.mp h with rfl | h
    · rw [item, counted, List.cons_append, encode_tag (by decide),
        List.getElem?_append_right (Nat.le_refl _), Nat.sub_self]
      rfl
    · rw [← length_encode, ← List.length_append] at h
      have hbyte := byte_of_mem_elementTagsFrom _ _ rest values h
      rwa [item, encode_append, List.append_assoc, ← List.append_assoc]

theorem byte_of_mem_elementTagsFrom {tag : ArrayTag} (around : Nat) (before rest : List UInt8) :
    ∀ values : List Value, tag ∈ elementTagsFrom before.length around values →
      (before ++ (encode (items values) ++ rest))[tag.offset]? = some 0x61
  | value :: values, h => by
    rw [elementTagsFrom] at h
    rw [items, encode_append, List.append_assoc]
    rcases List.mem_append.mp h with h | h
    · exact byte_of_mem_arrayTagsFrom _ _ _ value h
    · rw [← length_encode, ← List.length_append] at h
      rw [← List.append_assoc]
      exact byte_of_mem_elementTagsFrom _ _ rest values h

end

/-! ## What is refused -/

/-- The first tag of an array that lies in at least as many arrays as are allowed. -/
def firstDeep? (allowance : Nat) (tags : List ArrayTag) : Option ArrayTag :=
  tags.find? fun tag => allowance ≤ tag.around

theorem firstDeep?_append (allowance : Nat) (tags tags' : List ArrayTag) :
    firstDeep? allowance (tags ++ tags') =
      (firstDeep? allowance tags).or (firstDeep? allowance tags') :=
  List.find?_append

theorem firstDeep?_eq_none {allowance around offset : Nat} {value : Value}
    (h : around + value.depth ≤ allowance) :
    firstDeep? allowance (arrayTagsFrom offset around value) = none := by
  apply List.find?_eq_none.mpr
  intro tag htag hdeep
  have hlt := around_le offset around value htag
  have hle : allowance ≤ tag.around := of_decide_eq_true hdeep
  omega

theorem readMany_cons_failed {read : Cursor → Reading Value} {cursor behind : Cursor}
    {fault : Fault} (h : read cursor = .failed fault behind) (count : Nat) :
    readMany read (count + 1) cursor = .failed fault behind := by
  rw [readMany, h, Reading.bind]

mutual

/-- An item that is nested too deeply is refused, and reading ends at its first deep tag. -/
theorem readItem_tooDeep (allowance offset around : Nat) {rest : List UInt8}
    (hstop : Stops isDoubleByte rest) :
    ∀ value : Value, allowance < value.depth → size (item value) < 2 ^ 64 →
      ∃ tag left, firstDeep? (around + allowance) (arrayTagsFrom offset around value) = some tag ∧
        tag.around = around + allowance ∧
        readItem allowance ⟨offset, encode (item value) ++ rest⟩ =
          .failed .tooDeep ⟨tag.offset, left⟩
  | .array values, hdepth, hsize => by
    rw [Value.depth] at hdepth
    rw [size_item_array] at hsize
    rw [arrayTagsFrom, firstDeep?]
    cases allowance with
    | zero =>
      refine ⟨⟨offset, around⟩, _, ?_, rfl, readItem_array_zero values offset rest⟩
      exact List.find?_cons_of_pos (decide_eq_true (Nat.le_refl _))
    | succ allowance =>
      have hlength := length_le_size_items values
      obtain ⟨tag, left, hfirst, haround, hread⟩ := readMany_tooDeep allowance
        (offset + size (counted 'a' values.length)) (around + 1) hstop values (by omega) (by omega)
      refine ⟨tag, left, ?_, by omega, ?_⟩
      · rw [List.find?_cons_of_neg, ← hfirst, Nat.add_assoc, Nat.add_comm 1]
        · rfl
        · rw [decide_eq_true_eq]
          dsimp only
          omega
      · rw [readItem_array (by omega), hread]
        rfl

theorem readMany_tooDeep (allowance offset around : Nat) {rest : List UInt8}
    (hstop : Stops isDoubleByte rest) :
    ∀ values : List Value, allowance < Value.depthAll values → size (items values) < 2 ^ 64 →
      ∃ tag left,
        firstDeep? (around + allowance) (elementTagsFrom offset around values) = some tag ∧
        tag.around = around + allowance ∧
        readMany (readItem allowance) values.length ⟨offset, encode (items values) ++ rest⟩ =
          .failed .tooDeep ⟨tag.offset, left⟩
  | value :: values, hdepth, hsize => by
    rw [Value.depthAll] at hdepth
    rw [size_items_cons] at hsize
    rw [elementTagsFrom, firstDeep?_append, items, encode_append, List.append_assoc,
      List.length_cons]
    by_cases hvalue : value.depth ≤ allowance
    · have hread := readItem_item allowance offset (stops_items hstop values) value hvalue
        (by omega)
      obtain ⟨tag, left, hfirst, haround, hreads⟩ := readMany_tooDeep allowance
        (offset + size (item value)) around hstop values (by omega) (by omega)
      refine ⟨tag, left, ?_, haround, ?_⟩
      · rw [firstDeep?_eq_none (by omega), Option.none_or, hfirst]
      · rw [readMany_cons hread, hreads]
        rfl
    · obtain ⟨tag, left, hfirst, haround, hread⟩ := readItem_tooDeep allowance offset around
        (stops_items hstop values) value (by omega) (by omega)
      refine ⟨tag, left, ?_, haround, readMany_cons_failed hread _⟩
      rw [hfirst, Option.some_or]

end

end Pack

/-! ## Whole values -/

namespace Value

open Text.Utf8 (encode size)

theorem unpack_standing (text : String) :
    unpack (Value.string text).packBytes = .ok (.string text) := by
  have hbytes : (Value.string text).packBytes = 0x73 :: encode text.toList := by
    rw [packBytes, pack, String.toList_append]
    rfl
  rw [hbytes, unpack, Pack.textOf_encode]

theorem toList_packOnto (value : Value) : (value.packOnto "").toList = Pack.item value := by
  simp only [packOnto, String.toList_append, String.toList_ofList]
  rfl

theorem unpack_item (value : Value) :
    unpack (encode (Pack.item value)) =
      match (Cursor.ofBytes (encode (Pack.item value))).next with
      | .failed fault cursor => .error (.deserialize cursor.offset fault)
      | .done value cursor =>
        if cursor.isAtEnd then .ok value
        else .error (.deserialize cursor.offset (.trailing cursor.rest.length)) := by
  obtain ⟨tag, payload, hitem, hplain, _, hstanding⟩ := Pack.item_eq_cons value
  have hbytes := Pack.encode_tag hplain payload []
  rw [List.append_nil, ← hitem] at hbytes
  unfold unpack
  split
  · rename_i payload' hpayload
    rw [hbytes] at hpayload
    exact absurd (List.cons.inj hpayload).1 hstanding
  · rfl

/-- The stream form of a value that is not nested too deeply is unpacked to the value. -/
theorem unpack_stream {value : Value} (hsize : size (Pack.item value) < 2 ^ 64)
    (hdepth : value.depth ≤ Pack.maxDepth) : unpack (encode (Pack.item value)) = .ok value := by
  have hread := Pack.readItem_item Pack.maxDepth 0 (Pack.stops_nil _) value hdepth hsize
  rw [List.append_nil] at hread
  rw [unpack_item, Cursor.ofBytes, Cursor.next, hread]
  rfl

/-- The stream form of a value that is nested too deeply is refused at its first deep tag. -/
theorem unpack_stream_tooDeep {value : Value} (hsize : size (Pack.item value) < 2 ^ 64)
    (hdepth : Pack.maxDepth < value.depth) :
    ∃ tag ∈ Pack.arrayTags value,
      tag.around = Pack.maxDepth ∧
      (encode (Pack.item value))[tag.offset]? = some 0x61 ∧
      (∀ other ∈ Pack.arrayTags value, Pack.maxDepth ≤ other.around →
        tag.offset ≤ other.offset) ∧
      unpack (encode (Pack.item value)) = .error (.deserialize tag.offset .tooDeep) := by
  obtain ⟨tag, left, hfirst, haround, hread⟩ := Pack.readItem_tooDeep Pack.maxDepth 0 0
    (Pack.stops_nil _) value hdepth hsize
  rw [List.append_nil] at hread
  obtain ⟨_, before, after, htags, hbefore⟩ := List.find?_eq_some_iff_append.mp hfirst
  have hmem : tag ∈ Pack.arrayTags value := by
    rw [Pack.arrayTags, htags]
    exact List.mem_append_right _ List.mem_cons_self
  have hbyte := Pack.byte_of_mem_arrayTagsFrom 0 [] [] value hmem
  rw [List.nil_append, List.append_nil] at hbyte
  refine ⟨tag, hmem, haround.trans (Nat.zero_add _), hbyte, ?_, ?_⟩
  · intro other hother hdeep
    have hordered := Pack.arrayTagsFrom_ordered 0 0 value
    rw [Pack.arrayTags, htags] at hother
    rw [htags, List.pairwise_append] at hordered
    rcases List.mem_append.mp hother with hother | hother
    · have hnot := hbefore other hother
      rw [Nat.zero_add, decide_eq_true hdeep] at hnot
      cases hnot
    · rcases List.mem_cons.mp hother with rfl | hother
      · exact Nat.le_refl _
      · exact Nat.le_of_lt ((List.pairwise_cons.mp hordered.2.1).1 other hother)
  · rw [unpack_item, Cursor.ofBytes, Cursor.next, hread]

/-- What is not a string has one packed form, by itself and in a stream. -/
theorem packBytes_eq {value : Value} (hstring : ¬ ∃ text, value = .string text) :
    value.packBytes = encode (Pack.item value) := by
  rw [packBytes, pack, toList_packOnto]
  exact fun text htext => hstring ⟨text, htext⟩

/-- The round trip of packed values, in the form that stands alone and in stream form. The size is
that of a text in memory, which is counted in 64 bits. -/
theorem unpack_packBytes {value : Value} (hsize : size (Pack.item value) < 2 ^ 64) :
    (value.depth ≤ Pack.maxDepth →
      unpack value.packBytes = .ok value ∧
        unpack (encode (value.packOnto "").toList) = .ok value) ∧
    (Pack.maxDepth < value.depth →
      ∃ tag ∈ Pack.arrayTags value,
        tag.around = Pack.maxDepth ∧
        value.packBytes[tag.offset]? = some 0x61 ∧
        (∀ other ∈ Pack.arrayTags value, Pack.maxDepth ≤ other.around →
          tag.offset ≤ other.offset) ∧
        unpack value.packBytes = .error (.deserialize tag.offset .tooDeep)) := by
  by_cases hstring : ∃ text, value = .string text
  · obtain ⟨text, rfl⟩ := hstring
    refine ⟨fun hdepth => ⟨unpack_standing text, ?_⟩, fun hdepth => ?_⟩
    · rw [toList_packOnto]
      exact unpack_stream hsize hdepth
    · exact absurd hdepth (Nat.not_lt_zero _)
  · rw [toList_packOnto, packBytes_eq hstring]
    refine ⟨fun hdepth => ?_, unpack_stream_tooDeep hsize⟩
    exact ⟨unpack_stream hsize hdepth, unpack_stream hsize hdepth⟩

theorem nested_measures (count : Nat) :
    depth (Nat.repeat (fun value => Value.array [value]) count .uninit) = count ∧
      size (Pack.item (Nat.repeat (fun value => Value.array [value]) count .uninit)) =
        3 * count + 1 := by
  induction count with
  | zero => exact ⟨rfl, rfl⟩
  | succ count ih =>
    obtain ⟨hdepth, hsize⟩ := ih
    have hcounted : size (Pack.counted 'a' 1) = 3 := by decide
    rw [Nat.repeat, depth, depthAll, depthAll, hdepth, Pack.size_item_array, Pack.size_items_cons,
      hsize, List.length_singleton, hcounted, Pack.items]
    exact ⟨by omega, by rw [Text.Utf8.size_nil]; omega⟩

/-- Both sides of the limit: a string that looks like packed bytes inside an array, and one array
more than may be nested. -/
theorem unpack_packBytes_limit :
    unpack (Value.array [.string "a1:u", .array [], .double .nan]).packBytes =
        .ok (.array [.string "a1:u", .array [], .double .nan]) ∧
      ∃ offset,
        unpack (Nat.repeat (fun value => Value.array [value]) 257 Value.uninit).packBytes =
          .error (.deserialize offset .tooDeep) := by
  refine ⟨((unpack_packBytes (by decide +kernel)).1 (by decide +kernel)).1, ?_⟩
  obtain ⟨hdepth, hsize⟩ := nested_measures 257
  have hbound : size (Pack.item (Nat.repeat (fun value => Value.array [value]) 257 .uninit)) <
      2 ^ 64 := by
    rw [hsize]
    decide
  have hdeep :
      Pack.maxDepth < depth (Nat.repeat (fun value => Value.array [value]) 257 .uninit) := by
    rw [hdepth]
    decide
  obtain ⟨tag, _, _, _, _, herror⟩ := (unpack_packBytes hbound).2 hdeep
  exact ⟨tag.offset, herror⟩

end Value

end ScriptHost

import ScriptHost.Pack.Reader
import ScriptHost.Pack.Writer
import ScriptHost.Proofs.Double.ReadBack
import ScriptHost.Proofs.Text.Utf8

/-!
# The parts of packed items are read back

A run of digits is read up to the first byte that cannot belong to it. Every item begins with a tag,
and no tag belongs to a number, so that the bytes behind an item always end its run.

* `readRun_encode` : a written run is read as the number that its characters write.
* `readLength_counted`, `parseInteger?_toString`, `readDouble_text` : lengths, integers and doubles.
* `stops_items` : an item ends the run before it.
-/

namespace ScriptHost.Pack

open Text.Utf8 (encode encode_append encode_cons encode_ascii length_encode size size_append)

/-- The bytes do not go on with a run. -/
def Stops (isPart : UInt8 → Bool) (bytes : List UInt8) : Prop :=
  ∀ byte ∈ bytes.head?, isPart byte = false

theorem stops_nil (isPart : UInt8 → Bool) : Stops isPart [] := by
  intro byte hbyte
  cases hbyte

theorem Stops.mono {isPart isPart' : UInt8 → Bool} {bytes : List UInt8} (h : Stops isPart bytes)
    (hle : ∀ byte, isPart' byte = true → isPart byte = true) : Stops isPart' bytes := by
  intro byte hbyte
  rw [Bool.eq_false_iff]
  intro hpart
  have hfalse := h byte hbyte
  rw [hle byte hpart] at hfalse
  cases hfalse

theorem Stops.integer {bytes : List UInt8} (h : Stops isDoubleByte bytes) :
    Stops isIntegerByte bytes := by
  apply h.mono
  intro byte hbyte
  simp only [isDoubleByte, hbyte, Bool.true_or]

theorem takeWhile_of_stops {isPart : UInt8 → Bool} {bytes : List UInt8} (h : Stops isPart bytes) :
    bytes.takeWhile isPart = [] := by
  cases bytes with
  | nil => rfl
  | cons byte bytes => rw [List.takeWhile_cons_of_neg]; rw [h byte rfl]; decide

/-! ## Moving over what was written -/

theorem move_encode (offset : Nat) (text : List Char) (rest : List UInt8) :
    move ⟨offset, encode text ++ rest⟩ (size text) = ⟨offset + size text, rest⟩ := by
  rw [move, ← length_encode, List.drop_left]

theorem ascii_of_isDigit {c : Char} (h : c.isDigit) : c.toNat < 128 := by
  simp only [Char.isDigit, Bool.and_eq_true, decide_eq_true_eq, UInt32.le_iff_toNat_le] at h
  exact Nat.lt_of_le_of_lt h.2 (by decide)

/-- The characters of bytes that encode plain characters. -/
theorem characters_encode {text : List Char} (h : ∀ c ∈ text, c.toNat < 128) :
    (encode text).map (fun byte => Char.ofNat byte.toNat) = text := by
  rw [encode_ascii h, List.map_map]
  calc text.map ((fun byte : UInt8 => Char.ofNat byte.toNat) ∘ fun c => UInt8.ofNat c.toNat)
      = text.map id := by
        apply List.map_congr_left
        intro c hc
        have hc' : c.toNat < 256 := Nat.lt_trans (h c hc) (by decide)
        simp only [Function.comp_apply, Text.Utf8.toNat_ofNat_of_lt hc', Char.ofNat_toNat, id_eq]
    _ = text := List.map_id text

/-- The bytes of plain characters belong to a run if the characters do. -/
theorem isPart_of_mem_encode {isPart : UInt8 → Bool} {text : List Char}
    (h : ∀ c ∈ text, c.toNat < 128 ∧ isPart (UInt8.ofNat c.toNat) = true) :
    ∀ byte ∈ encode text, isPart byte = true := by
  intro byte hbyte
  rw [encode_ascii fun c hc => (h c hc).1] at hbyte
  obtain ⟨c, hc, rfl⟩ := List.mem_map.mp hbyte
  exact (h c hc).2

/-- A run of plain characters is read up to its end. -/
theorem readRun_encode {α : Type} {isPart : UInt8 → Bool} {parse? : List Char → Option α}
    {written : List Char} {number : α}
    (hpart : ∀ c ∈ written, c.toNat < 128 ∧ isPart (UInt8.ofNat c.toNat) = true)
    (hparse : parse? written = some number) (fault : String → Fault) (offset : Nat)
    {rest : List UInt8} (hstop : Stops isPart rest) :
    readRun isPart parse? fault ⟨offset, encode written ++ rest⟩ =
      .done number ⟨offset + size written, rest⟩ := by
  have hplain : ∀ c ∈ written, c.toNat < 128 := fun c hc => (hpart c hc).1
  have hrun : (encode written ++ rest).takeWhile isPart = encode written := by
    rw [List.takeWhile_append_of_pos (isPart_of_mem_encode hpart), takeWhile_of_stops hstop,
      List.append_nil]
  simp only [readRun, hrun, characters_encode hplain, hparse]
  rw [length_encode, move_encode]

/-! ## Numbers -/

theorem isDigit_ofNat {c : Char} (h : c.isDigit) : isDigit (UInt8.ofNat c.toNat) = true := by
  have hc : c.toNat < 256 := Nat.lt_trans (ascii_of_isDigit h) (by decide)
  simp only [Char.isDigit, Bool.and_eq_true, decide_eq_true_eq, UInt32.le_iff_toNat_le] at h
  simp only [isDigit, Bool.and_eq_true, decide_eq_true_eq, UInt8.le_iff_toNat_le,
    Text.Utf8.toNat_ofNat_of_lt hc]
  exact h

theorem isIntegerByte_ofNat {c : Char} (h : c.isDigit ∨ c = '-') :
    c.toNat < 128 ∧ isIntegerByte (UInt8.ofNat c.toNat) = true := by
  rcases h with h | rfl
  · exact ⟨ascii_of_isDigit h, by rw [isIntegerByte, isDigit_ofNat h, Bool.or_true]⟩
  · exact ⟨by decide, rfl⟩

theorem isDoubleByte_ofNat {c : Char} (h : c.isDigit ∨ c = '.' ∨ c = '-') :
    c.toNat < 128 ∧ isDoubleByte (UInt8.ofNat c.toNat) = true := by
  rcases h with h | rfl | rfl
  · obtain ⟨hc, hbyte⟩ := isIntegerByte_ofNat (Or.inl h)
    exact ⟨hc, by simp only [isDoubleByte, hbyte, Bool.true_or]⟩
  · exact ⟨by decide, rfl⟩
  · exact ⟨by decide, rfl⟩

theorem isDigit_of_mem_toDigits {n : Nat} {c : Char} (h : c ∈ Nat.toDigits 10 n) : c.isDigit :=
  Nat.isDigit_of_mem_toDigits (by decide) (by decide) h

theorem parseNat?_toDigits (n : Nat) : parseNat? (Nat.toDigits 10 n) = some n := by
  unfold parseNat?
  rw [if_pos, Text.decimalValue_toDigits]
  exact ⟨Nat.toDigits_ne_nil, List.all_eq_true.mpr fun c hc => isDigit_of_mem_toDigits hc⟩

theorem parseLength?_toDigits {count : Nat} (h : count < 2 ^ 64) :
    parseLength? (Nat.toDigits 10 count) = some count := by
  rw [parseLength?, parseNat?_toDigits, Option.filter_some, if_pos]
  exact decide_eq_true h

/-- A count and its colon are read as the count. -/
theorem readLength_counted {count : Nat} (h : count < 2 ^ 64) (offset : Nat) (rest : List UInt8) :
    readLength ⟨offset, encode (Nat.toDigits 10 count ++ [':']) ++ rest⟩ =
      .done count ⟨offset + size (Nat.toDigits 10 count ++ [':']), rest⟩ := by
  have hpart : ∀ c ∈ Nat.toDigits 10 count,
      c.toNat < 128 ∧ isDigit (UInt8.ofNat c.toNat) = true := by
    intro c hc
    have hdigit := isDigit_of_mem_toDigits hc
    exact ⟨ascii_of_isDigit hdigit, isDigit_ofNat hdigit⟩
  have hcolon : Stops isDigit (encode [':'] ++ rest) := by
    intro byte hbyte
    cases hbyte
    rfl
  have hsize : size (Nat.toDigits 10 count ++ [':']) = size (Nat.toDigits 10 count) + 1 := by
    rw [size_append]
    rfl
  rw [encode_append, List.append_assoc, hsize, ← Nat.add_assoc, readLength,
    readRun_encode hpart (parseLength?_toDigits h) _ _ hcolon]
  rfl

theorem toList_toString (n : Int) :
    (toString n).toList =
      if 0 ≤ n then Nat.toDigits 10 n.toNat else '-' :: Nat.toDigits 10 (-n).toNat := by
  rw [Int.toString_eq_repr, Int.repr_eq_if]
  split
  · exact Nat.toList_repr
  · rw [String.toList_append, Nat.toList_repr]
    rfl

/-- An integer is read back from its digits. -/
theorem parseInteger?_toString (n : Int32) :
    parseInteger? (toString n.toInt).toList = some n := by
  have hrange : Int32.minValue.toInt ≤ n.toInt ∧ n.toInt ≤ Int32.maxValue.toInt :=
    ⟨n.minValue_le_toInt, n.toInt_le⟩
  rw [toList_toString]
  split
  · rename_i hsign
    unfold parseInteger?
    split
    · rename_i digits hdigits
      have hminus : '-' ∈ Nat.toDigits 10 n.toInt.toNat := by
        rw [hdigits]
        exact List.mem_cons_self
      exact absurd (isDigit_of_mem_toDigits hminus) (by decide)
    · have hvalue : Int.ofNat n.toInt.toNat = n.toInt := Int.toNat_of_nonneg hsign
      rw [parseNat?_toDigits, Option.map_some, hvalue, Option.bind_some, if_pos hrange,
        Int32.ofInt_toInt]
  · rename_i hsign
    have hvalue : Int.negOfNat (-n.toInt).toNat = n.toInt := by
      rw [Int.negOfNat_eq, Int.ofNat_eq_natCast]
      omega
    rw [parseInteger?, parseNat?_toDigits, Option.map_some, hvalue, Option.bind_some,
      if_pos hrange, Int32.ofInt_toInt]

theorem toString_isIntegerByte {n : Int} :
    ∀ c ∈ (toString n).toList, c.toNat < 128 ∧ isIntegerByte (UInt8.ofNat c.toNat) = true := by
  intro c hc
  apply isIntegerByte_ofNat
  rw [toList_toString] at hc
  split at hc
  · exact Or.inl (isDigit_of_mem_toDigits hc)
  · rcases List.mem_cons.mp hc with rfl | hc
    · exact Or.inr rfl
    · exact Or.inl (isDigit_of_mem_toDigits hc)

/-! ## Doubles -/

theorem ne_of_isDigit {byte other : UInt8} (h : isDigit byte = true)
    (hother : isDigit other = false) : (other == byte) = false := by
  rw [beq_eq_false_iff_ne]
  rintro rfl
  rw [h] at hother
  cases hother

theorem find_word_of_digit {byte : UInt8} (h : isDigit byte = true) (bytes : List UInt8) :
    (words.find? fun (word, _) => word.isPrefixOf (byte :: bytes)) = none := by
  have hminus := ne_of_isDigit h (rfl : isDigit 0x2d = false)
  have hi := ne_of_isDigit h (rfl : isDigit 0x69 = false)
  have hn := ne_of_isDigit h (rfl : isDigit 0x4e = false)
  simp only [words, List.find?, List.isPrefixOf, hminus, hi, hn, Bool.false_and]

theorem find_word_of_minus {byte : UInt8} (h : isDigit byte = true) (bytes : List UInt8) :
    (words.find? fun (word, _) => word.isPrefixOf (0x2d :: byte :: bytes)) = none := by
  have hminus : ∀ other : UInt8, (other == 0x2d) = false →
      ∀ word, (other :: word).isPrefixOf (0x2d :: byte :: bytes) = false := by
    intro other hother word
    rw [List.isPrefixOf, hother, Bool.false_and]
  simp only [words, List.find?, hminus 0x69 rfl, hminus 0x4e rfl]
  rw [List.isPrefixOf, List.isPrefixOf, ne_of_isDigit h (rfl : isDigit 0x69 = false),
    Bool.false_and, Bool.and_false]

/-- The text of a finite double is no word. -/
theorem find_word_finite (negative : Bool) (magnitude : Magnitude) (rest : List UInt8) :
    (words.find? fun (word, _) => word.isPrefixOf
      (encode (Double.finite negative magnitude).text.toList ++ rest)) = none := by
  obtain ⟨_, c, text, hc, htext⟩ := Double.text_finite negative magnitude
  have hbyte : String.utf8EncodeChar c = [UInt8.ofNat c.toNat] :=
    Text.Utf8.utf8EncodeChar_ascii (ascii_of_isDigit hc)
  rw [htext]
  cases negative with
  | false =>
    rw [if_neg Bool.false_ne_true, encode_cons, hbyte]
    exact find_word_of_digit (isDigit_ofNat hc) _
  | true =>
    rw [if_pos rfl, encode_cons, encode_cons, hbyte]
    exact find_word_of_minus (isDigit_ofNat hc) _

/-- A double is read back from its text. -/
theorem readDouble_text (d : Double) (offset : Nat) {rest : List UInt8}
    (h : Stops isDoubleByte rest) :
    readDouble ⟨offset, encode d.text.toList ++ rest⟩ =
      .done (.double d) ⟨offset + size d.text.toList, rest⟩ := by
  cases d with
  | nan => rfl
  | infinite negative => cases negative <;> rfl
  | finite negative magnitude =>
    unfold readDouble
    rw [find_word_finite]
    have hpart := fun c hc =>
      isDoubleByte_ofNat ((Double.text_finite negative magnitude).1 c hc)
    dsimp only
    rw [readRun_encode hpart (Double.parse?_text negative magnitude) _ _ h]
    rfl

/-! ## Strings -/

theorem textOf_encode (text : String) : textOf (encode text.toList) = text :=
  Text.received_encode text

theorem readPayload_encode (text : List Char) (offset : Nat) (rest : List UInt8) :
    readPayload (size text) ⟨offset, encode text ++ rest⟩ =
      .done (encode text) ⟨offset + size text, rest⟩ := by
  have htake : (encode text ++ rest).take (size text) = encode text := by
    rw [← length_encode, List.take_left]
  simp only [readPayload, htake, length_encode, if_true, move_encode]

/-! ## Tags -/

/-- Every item begins with a tag, which is no part of a number and does not stand alone. -/
theorem item_eq_cons (value : Value) :
    ∃ tag payload, item value = tag :: payload ∧ tag.toNat < 128 ∧
      isDoubleByte (UInt8.ofNat tag.toNat) = false ∧ UInt8.ofNat tag.toNat ≠ 0x73 := by
  cases value with
  | uninit => exact ⟨_, _, by rw [item], by decide⟩
  | boolean b => exact ⟨_, _, by rw [item], by decide⟩
  | integer n => exact ⟨_, _, by rw [item], by decide⟩
  | double d => exact ⟨_, _, by rw [item], by decide⟩
  | string text => exact ⟨_, _, by rw [item, counted, List.cons_append], by decide⟩
  | array values => exact ⟨_, _, by rw [item, counted, List.cons_append], by decide⟩

/-- An item ends the run before it. -/
theorem stops_item (value : Value) (rest : List UInt8) :
    Stops isDoubleByte (encode (item value) ++ rest) := by
  obtain ⟨tag, payload, hitem, hplain, htag, _⟩ := item_eq_cons value
  rw [hitem, encode_cons, Text.Utf8.utf8EncodeChar_ascii hplain]
  intro byte hbyte
  cases hbyte
  exact htag

/-- Items end the run before them, when what follows them does. -/
theorem stops_items {rest : List UInt8} (h : Stops isDoubleByte rest) (values : List Value) :
    Stops isDoubleByte (encode (items values) ++ rest) := by
  cases values with
  | nil => exact h
  | cons value values =>
    rw [items, encode_append, List.append_assoc]
    exact stops_item value _

theorem encode_tag {tag : Char} (h : tag.toNat < 128) (payload : List Char) (rest : List UInt8) :
    encode (tag :: payload) ++ rest = UInt8.ofNat tag.toNat :: (encode payload ++ rest) := by
  rw [encode_cons, Text.Utf8.utf8EncodeChar_ascii h]
  rfl

theorem size_tag {tag : Char} (h : tag.utf8Size = 1) (payload : List Char) :
    size (tag :: payload) = 1 + size payload := by
  rw [Text.Utf8.size_cons, h]

/-! ## One item -/

theorem readItem_uninit (allowance offset : Nat) (rest : List UInt8) :
    readItem allowance ⟨offset, encode (item .uninit) ++ rest⟩ =
      .done .uninit ⟨offset + size (item .uninit), rest⟩ := by
  unfold readItem
  rfl

theorem readItem_boolean (b : Bool) (allowance offset : Nat) (rest : List UInt8) :
    readItem allowance ⟨offset, encode (item (.boolean b)) ++ rest⟩ =
      .done (.boolean b) ⟨offset + size (item (.boolean b)), rest⟩ := by
  unfold readItem
  cases b <;> rfl

theorem readItem_integer (n : Int32) (allowance offset : Nat) {rest : List UInt8}
    (h : Stops isDoubleByte rest) :
    readItem allowance ⟨offset, encode (item (.integer n)) ++ rest⟩ =
      .done (.integer n) ⟨offset + size (item (.integer n)), rest⟩ := by
  have hread := readRun_encode toString_isIntegerByte (parseInteger?_toString n) .badInteger
    (offset + 1) h.integer
  rw [item, encode_tag (by decide), size_tag (by decide), ← Nat.add_assoc, readItem]
  exact congrArg (Reading.map Value.integer) hread

theorem readItem_double (d : Double) (allowance offset : Nat) {rest : List UInt8}
    (h : Stops isDoubleByte rest) :
    readItem allowance ⟨offset, encode (item (.double d)) ++ rest⟩ =
      .done (.double d) ⟨offset + size (item (.double d)), rest⟩ := by
  rw [item, encode_tag (by decide), size_tag (by decide), ← Nat.add_assoc, readItem]
  exact readDouble_text d (offset + 1) h

theorem readItem_string {text : String} (h : size text.toList < 2 ^ 64) (allowance offset : Nat)
    (rest : List UInt8) :
    readItem allowance ⟨offset, encode (item (.string text)) ++ rest⟩ =
      .done (.string text) ⟨offset + size (item (.string text)), rest⟩ := by
  have hread : readString ⟨offset + 1, encode (Nat.toDigits 10 (size text.toList) ++ [':']) ++
      (encode text.toList ++ rest)⟩ =
        .done (.string text) ⟨offset + 1 + size (Nat.toDigits 10 (size text.toList) ++ [':']) +
          size text.toList, rest⟩ := by
    rw [readString, readLength_counted h, Reading.bind, readPayload_encode, Reading.map,
      Reading.bind, textOf_encode]
  rw [item, counted, List.cons_append, encode_tag (by decide), size_tag (by decide), encode_append,
    List.append_assoc, size_append, ← Nat.add_assoc, ← Nat.add_assoc, readItem]
  exact hread

/-- An array is read as its count and its elements, when one more array is allowed. -/
theorem readItem_array {values : List Value} (h : values.length < 2 ^ 64) (allowance offset : Nat)
    (rest : List UInt8) :
    readItem (allowance + 1) ⟨offset, encode (item (.array values)) ++ rest⟩ =
      (readMany (readItem allowance) values.length
        ⟨offset + size (counted 'a' values.length), encode (items values) ++ rest⟩).map .array := by
  have hlength := readLength_counted h (offset + 1) (encode (items values) ++ rest)
  rw [item, counted, List.cons_append, encode_tag (by decide), size_tag (by decide), encode_append,
    List.append_assoc, ← Nat.add_assoc, readItem]
  exact congrArg (Reading.bind · fun count cursor =>
    (readMany (readItem allowance) count cursor).map Value.array) hlength

/-- An array that is not allowed is refused at its tag. -/
theorem readItem_array_zero (values : List Value) (offset : Nat) (rest : List UInt8) :
    readItem 0 ⟨offset, encode (item (.array values)) ++ rest⟩ =
      .failed .tooDeep ⟨offset, encode (item (.array values)) ++ rest⟩ := by
  rw [item, counted, List.cons_append, encode_tag (by decide), readItem]
  rfl

end ScriptHost.Pack

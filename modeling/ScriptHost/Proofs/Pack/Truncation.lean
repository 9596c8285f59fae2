import ScriptHost.Proofs.Pack.Bounds

/-!
# Packed values that are cut off

Every item says where it ends, but for numbers. The front of a packed value is therefore refused,
unless the value ends with a number and the cut goes through that number: the digits before the cut
then make a number of their own.

* `Value.lastLeaf`, `Value.withLastLeaf` : what a value ends with, and its exchange.
* `Pack.Shortened` : a number and what the front of its text writes.
* `Pack.item_of_prefix` : items of the grammar that stand where the stream form of a value stands.
* `Value.unpack_truncated` : the front of a packed value is refused or ends inside a number.
-/

namespace ScriptHost

open Text.Utf8 (encode encode_append length_encode size)

/-! ## The end of a value -/

namespace Value

mutual

/-- What a value ends with: the value itself, or what the last of its elements ends with. -/
def lastLeaf : Value → Value
  | .array items => lastLeafOf items
  | value => value

/-- What an array with the given elements ends with. -/
def lastLeafOf : List Value → Value
  | [] => .array []
  | [item] => lastLeaf item
  | _ :: item :: items => lastLeafOf (item :: items)

end

mutual

/-- The value with what it ends with exchanged. -/
def withLastLeaf : Value → Value → Value
  | .array items, leaf => if items.isEmpty then leaf else .array (withLastLeafOf items leaf)
  | _, leaf => leaf

/-- The elements with what the last of them ends with exchanged. -/
def withLastLeafOf : List Value → Value → List Value
  | [], _ => []
  | [item], leaf => [withLastLeaf item leaf]
  | first :: item :: items, leaf => first :: withLastLeafOf (item :: items) leaf

end

end Value

namespace Pack

/-- A number, and the number of the same kind that is left when bytes at the end of its text are
lost. -/
inductive Shortened (lost : List UInt8) : Value → Value → Prop
  | integer {n m : Int32} {kept : List UInt8} :
    encode (toString n.toInt).toList = kept ++ lost → IntegerText kept m.toInt →
    Shortened lost (.integer n) (.integer m)
  | double {negative : Bool} {magnitude : Magnitude} {d : Double} {kept : List UInt8} :
    encode (Double.finite negative magnitude).text.toList = kept ++ lost →
    Double.parse? (characters kept) = some d →
    Shortened lost (.double (.finite negative magnitude)) (.double d)

/-- How the front of a stream form may be read, given the bytes behind it that are lost: as the
value if nothing is, and otherwise as the value with the number at its end shortened. -/
def ReadAs (lost : List UInt8) (value result : Value) : Prop :=
  (lost = [] ∧ result = value) ∨
    (lost ≠ [] ∧ ∃ leaf, Shortened lost value.lastLeaf leaf ∧ result = value.withLastLeaf leaf)

/-- The same for several values, of which only the last one can be cut. -/
def ReadAllAs (lost : List UInt8) (values results : List Value) : Prop :=
  (lost = [] ∧ results = values) ∨
    (lost ≠ [] ∧ ∃ leaf, Shortened lost (Value.lastLeafOf values) leaf ∧
      results = Value.withLastLeafOf values leaf)

/-! ## Tags -/

/-- The tag of the items of a kind. -/
def tag : Kind → UInt8
  | .uninit => 0x75
  | .boolean => 0x62
  | .integer => 0x69
  | .double => 0x72
  | .string => 0x53
  | .array => 0x61

theorem tag_injective {kind kind' : Kind} (h : tag kind = tag kind') : kind = kind' := by
  cases kind <;> cases kind' <;> first | rfl | exact absurd h (by decide)

theorem Item.head? {bytes : List UInt8} {value : Value} (h : Item bytes value) :
    bytes.head? = some (tag value.kind) := by
  cases h with
  | uninit | no | yes | integer | double | string | array => rfl

theorem head?_encode_item (value : Value) :
    (encode (item value)).head? = some (tag value.kind) := by
  cases value with
  | uninit | boolean | integer | double | string | array => rw [item]; rfl

/-! ## Runs -/

/-- Two runs that begin the same bytes: when nothing goes on with the second, the first is the front
of it. -/
theorem run_split {isPart : UInt8 → Bool} {kept whole other rest : List UInt8}
    (hkept : ∀ byte ∈ kept, isPart byte = true) (hstop : Stops isPart rest)
    (heq : kept ++ other = whole ++ rest) :
    ∃ lost, whole = kept ++ lost ∧ other = lost ++ rest := by
  rcases List.append_eq_append_iff.mp heq with ⟨lost, hwhole, hother⟩ | ⟨more, hmore, hrest⟩
  · exact ⟨lost, hwhole, hother⟩
  · cases more with
    | nil =>
      rw [List.append_nil] at hmore
      rw [List.nil_append] at hrest
      exact ⟨[], by rw [hmore, List.append_nil], by rw [hrest, List.nil_append]⟩
    | cons byte more =>
      have hpart := hkept byte (by simp [hmore])
      rw [hstop byte (by simp [hrest])] at hpart
      cases hpart

theorem characters_encode_toDigits (n : Nat) :
    characters (encode (Nat.toDigits 10 n)) = Nat.toDigits 10 n :=
  characters_encode fun _ hc => ascii_of_isDigit (isDigit_of_mem_toDigits hc)

theorem isDigit_encode_toDigits (n : Nat) :
    ∀ byte ∈ encode (Nat.toDigits 10 n), isDigit byte = true := by
  rw [← all_isDigit_characters, characters_encode_toDigits, List.all_eq_true]
  exact fun _ hc => isDigit_of_mem_toDigits hc

/-- A length or a count ends at its colon, so that none is the front of another. -/
theorem Counted.unique {bytes other rest : List UInt8} {count n : Nat} (h : Counted bytes count)
    (heq : bytes ++ other = encode (Nat.toDigits 10 n ++ [':']) ++ rest) :
    bytes = encode (Nat.toDigits 10 n ++ [':']) ∧ count = n ∧ other = rest := by
  obtain ⟨_, digits, hdigits, rfl⟩ := h
  have hcolon : ∀ bytes, Stops isDigit (plain ":" ++ bytes) := by
    rintro bytes byte ⟨⟩
    rfl
  rw [encode_append, List.append_assoc, List.append_assoc] at heq
  -- Each of the two runs of digits is the front of the other.
  obtain ⟨lost, hwhole, hother⟩ := run_split hdigits.isDigit (hcolon rest) heq
  have hlost : lost = [] := by
    cases lost with
    | nil => rfl
    | cons byte lost =>
      have hdigit := isDigit_encode_toDigits n byte (by simp [hwhole])
      rw [(List.cons.inj hother).1.symm] at hdigit
      cases hdigit
  subst hlost
  rw [List.append_nil] at hwhole
  have hcount := hdigits.decimalValue
  rw [← hwhole, characters_encode_toDigits, Text.decimalValue_toDigits] at hcount
  rw [encode_append, hwhole]
  exact ⟨rfl, hcount.symm, List.append_cancel_left hother⟩

/-! ## Numbers -/

theorem Shortened.isDoubleByte {lost : List UInt8} {value leaf : Value}
    (h : Shortened lost value leaf) : ∀ byte ∈ lost, isDoubleByte byte = true := by
  intro byte hbyte
  cases h with
  | @integer n _ _ htext _ =>
    have hmem : byte ∈ encode (toString n.toInt).toList := htext ▸ List.mem_append_right _ hbyte
    have hpart := isPart_of_mem_encode toString_isIntegerByte byte hmem
    simp [Pack.isDoubleByte, hpart]
  | double htext _ =>
    apply isPart_of_mem_encode fun c hc => isDoubleByte_ofNat ((Double.text_finite _ _).1 c hc)
    rw [htext]
    exact List.mem_append_right _ hbyte

theorem characters_encode_toString (n : Int) :
    characters (encode (toString n).toList) = (toString n).toList :=
  characters_encode fun c hc => (toString_isIntegerByte c hc).1

theorem ReadAs.whole (value : Value) : ReadAs [] value value := .inl ⟨rfl, rfl⟩

/-- The front of an integer's text. -/
theorem integer_of_prefix {n m : Int32} {kept other rest : List UInt8}
    (h : IntegerText kept m.toInt) (hstop : Stops isDoubleByte rest)
    (heq : kept ++ other = encode (toString n.toInt).toList ++ rest) :
    ∃ lost, encode (toString n.toInt).toList = kept ++ lost ∧ other = lost ++ rest ∧
      ReadAs lost (.integer n) (.integer m) := by
  obtain ⟨lost, hwhole, hother⟩ := run_split h.isIntegerByte hstop.integer heq
  refine ⟨lost, hwhole, hother, ?_⟩
  by_cases hlost : lost = []
  · have hparse := parseInteger?_eq_some.mpr h
    rw [← List.append_nil kept, ← hlost, ← hwhole, characters_encode_toString,
      parseInteger?_toString] at hparse
    cases hparse
    exact .inl ⟨hlost, rfl⟩
  · exact .inr ⟨hlost, _, .integer hwhole h, rfl⟩

/-- Bytes that begin with a word begin with no other word. -/
theorem find_word {word : List UInt8} {d : Double} (h : (word, d) ∈ words) (rest : List UInt8) :
    (words.find? fun (other, _) => other.isPrefixOf (word ++ rest)) = some (word, d) := by
  simp only [words, List.mem_cons, Prod.mk.injEq, List.not_mem_nil, or_false] at h
  rcases h with ⟨rfl, rfl⟩ | ⟨rfl, rfl⟩ | ⟨rfl, rfl⟩ <;> rfl

theorem DoubleText.word_or_numeral {bytes : List UInt8} {d : Double} (h : DoubleText bytes d) :
    (bytes, d) ∈ words ∨
      (∀ byte ∈ bytes, isDoubleByte byte = true) ∧ Double.parse? (characters bytes) = some d := by
  cases h with
  | infinity | negativeInfinity | nan => exact .inl (by simp [words, plain])
  | numeral halphabet hparse =>
    exact .inr ⟨fun byte hbyte => isDoubleByte_iff.mpr (halphabet byte hbyte), hparse⟩

theorem word_or_finite (d : Double) :
    (encode d.text.toList, d) ∈ words ∨ ∃ negative magnitude, d = .finite negative magnitude := by
  cases d with
  | nan => exact .inl (by decide)
  | infinite negative => cases negative <;> exact .inl (by decide)
  | finite negative magnitude => exact .inr ⟨negative, magnitude, rfl⟩

theorem characters_encode_text (negative : Bool) (magnitude : Magnitude) :
    characters (encode (Double.finite negative magnitude).text.toList) =
      (Double.finite negative magnitude).text.toList :=
  characters_encode fun c hc => (isDoubleByte_ofNat ((Double.text_finite _ _).1 c hc)).1

/-- The front of a double's text. Words and numerals begin differently, and no word is the front of
another. -/
theorem double_of_prefix {d e : Double} {kept other rest : List UInt8} (h : DoubleText kept e)
    (hstop : Stops isDoubleByte rest) (heq : kept ++ other = encode d.text.toList ++ rest) :
    ∃ lost, encode d.text.toList = kept ++ lost ∧ other = lost ++ rest ∧
      ReadAs lost (.double d) (.double e) := by
  rcases h.word_or_numeral with hword | ⟨hpart, hparse⟩
  · have hfind := find_word hword other
    rw [heq] at hfind
    rcases word_or_finite d with hword' | ⟨negative, magnitude, rfl⟩
    · rw [find_word hword' rest] at hfind
      cases hfind
      exact ⟨[], (List.append_nil _).symm, List.append_cancel_left heq, .whole _⟩
    · rw [find_word_finite] at hfind
      cases hfind
  · rcases word_or_finite d with hword' | ⟨negative, magnitude, rfl⟩
    · have hfind := find_word hword' rest
      rw [← heq, find_word_of_numeral hpart hparse] at hfind
      cases hfind
    · obtain ⟨lost, hwhole, hother⟩ := run_split hpart hstop heq
      refine ⟨lost, hwhole, hother, ?_⟩
      by_cases hlost : lost = []
      · rw [← List.append_nil kept, ← hlost, ← hwhole, characters_encode_text,
          Double.parse?_text] at hparse
        cases hparse
        exact .inl ⟨hlost, rfl⟩
      · exact .inr ⟨hlost, _, .double hwhole hparse, rfl⟩

/-! ## Items -/

/-- An item that begins the same bytes as the stream form of a value is of the same kind. -/
theorem Item.kind_eq {taken other rest : List UInt8} {value result : Value} (h : Item taken result)
    (heq : taken ++ other = encode (item value) ++ rest) : result.kind = value.kind := by
  have hhead := congrArg List.head? heq
  rw [List.head?_append, List.head?_append, h.head?, head?_encode_item] at hhead
  exact tag_injective (Option.some.inj hhead)

theorem encode_counted {tag : Char} (h : tag.toNat < 128) (count : Nat) (payload : List Char) :
    encode (counted tag count ++ payload) =
      [UInt8.ofNat tag.toNat] ++ encode (Nat.toDigits 10 count ++ [':']) ++ encode payload := by
  rw [counted, List.cons_append, Text.Utf8.encode_cons, Text.Utf8.utf8EncodeChar_ascii h,
    encode_append, List.append_assoc]

/-- An array without elements is no number that could be cut. -/
theorem Shortened.values_ne_nil {lost : List UInt8} {leaf : Value} {values : List Value}
    (h : Shortened lost (Value.lastLeafOf values) leaf) : values ≠ [] := by
  rintro rfl
  cases h

/-- What is read of the elements, seen from the array. -/
theorem ReadAllAs.array {lost : List UInt8} {values results : List Value}
    (h : ReadAllAs lost values results) : ReadAs lost (.array values) (.array results) := by
  rcases h with ⟨hlost, rfl⟩ | ⟨hlost, leaf, hshort, rfl⟩
  · exact .inl ⟨hlost, rfl⟩
  · refine .inr ⟨hlost, leaf, hshort, ?_⟩
    rw [Value.withLastLeaf, if_neg (by simpa using hshort.values_ne_nil)]

/-- What is read of the elements behind one that is read as it is. -/
theorem ReadAllAs.behind {lost : List UInt8} {values results : List Value} (first : Value)
    (h : ReadAllAs lost values results) : ReadAllAs lost (first :: values) (first :: results) := by
  rcases h with ⟨hlost, rfl⟩ | ⟨hlost, leaf, hshort, rfl⟩
  · exact .inl ⟨hlost, rfl⟩
  · obtain ⟨value, values, rfl⟩ := List.exists_cons_of_ne_nil hshort.values_ne_nil
    exact .inr ⟨hlost, leaf, hshort, rfl⟩

mutual

/-- An item of the grammar and the stream form of a value begin the same bytes. Then the item is the
stream form, or the front of it up to some place in the number at its end. -/
theorem item_of_prefix {rest : List UInt8} (hstop : Stops isDoubleByte rest) :
    ∀ (value : Value) {taken other : List UInt8} {result : Value}, Item taken result →
      taken ++ other = encode (item value) ++ rest →
      ∃ lost, encode (item value) = taken ++ lost ∧ other = lost ++ rest ∧
        ReadAs lost value result
  | .uninit, taken, other, result, h, heq => by
    have hkind := h.kind_eq heq
    cases h with
    | uninit =>
      rw [item] at heq ⊢
      exact ⟨[], rfl, List.append_cancel_left heq, .whole _⟩
    | no | yes | integer | double | string | array => cases hkind
  | .boolean b, taken, other, result, h, heq => by
    have hkind := h.kind_eq heq
    rw [item] at heq ⊢
    cases h with
    | no =>
      cases b with
      | false => exact ⟨[], rfl, List.append_cancel_left heq, .whole _⟩
      | true => cases heq
    | yes =>
      cases b with
      | false => cases heq
      | true => exact ⟨[], rfl, List.append_cancel_left heq, .whole _⟩
    | uninit | integer | double | string | array => cases hkind
  | .integer n, taken, other, result, h, heq => by
    have hkind := h.kind_eq heq
    have htag : ∀ text, encode ('i' :: text) = plain "i" ++ encode text := fun _ => rfl
    rw [item, htag] at heq ⊢
    cases h with
    | integer htext =>
      rw [List.append_assoc, List.append_assoc] at heq
      obtain ⟨lost, hwhole, hother, hread⟩ :=
        integer_of_prefix htext hstop (List.append_cancel_left heq)
      exact ⟨lost, by rw [hwhole, List.append_assoc], hother, hread⟩
    | uninit | no | yes | double | string | array => cases hkind
  | .double d, taken, other, result, h, heq => by
    have hkind := h.kind_eq heq
    have htag : ∀ text, encode ('r' :: text) = plain "r" ++ encode text := fun _ => rfl
    rw [item, htag] at heq ⊢
    cases h with
    | double htext =>
      rw [List.append_assoc, List.append_assoc] at heq
      obtain ⟨lost, hwhole, hother, hread⟩ :=
        double_of_prefix htext hstop (List.append_cancel_left heq)
      exact ⟨lost, by rw [hwhole, List.append_assoc], hother, hread⟩
    | uninit | no | yes | integer | string | array => cases hkind
  | .string text, taken, other, result, h, heq => by
    have hkind := h.kind_eq heq
    rw [item, encode_counted (by decide)] at heq ⊢
    cases h with
    | @string length payload hcounted =>
      simp only [List.append_assoc] at heq
      obtain ⟨rfl, hsize, hrest⟩ := hcounted.unique (List.append_cancel_left heq)
      -- The length is the same, and so are that many bytes.
      obtain ⟨rfl, hother⟩ := List.append_inj hrest (by rw [hsize, length_encode])
      rw [textOf_encode]
      exact ⟨[], (List.append_nil _).symm, hother, .whole _⟩
    | uninit | no | yes | integer | double | array => cases hkind
  | .array values, taken, other, result, h, heq => by
    have hkind := h.kind_eq heq
    rw [item, encode_counted (by decide)] at heq ⊢
    cases h with
    | @array count bytes results hcounted hitems =>
      simp only [List.append_assoc] at heq
      obtain ⟨rfl, hlength, hrest⟩ := hcounted.unique (List.append_cancel_left heq)
      obtain ⟨lost, hwhole, hother, hread⟩ := items_of_prefix hstop values hitems hlength hrest
      exact ⟨lost, by simp only [hwhole, List.append_assoc]; rfl, hother, hread.array⟩
    | uninit | no | yes | integer | double | string => cases hkind

theorem items_of_prefix {rest : List UInt8} (hstop : Stops isDoubleByte rest) :
    ∀ (values : List Value) {taken other : List UInt8} {results : List Value},
      Items taken results → results.length = values.length →
      taken ++ other = encode (items values) ++ rest →
      ∃ lost, encode (items values) = taken ++ lost ∧ other = lost ++ rest ∧
        ReadAllAs lost values results
  | [], taken, other, results, h, hlength, heq => by
    cases h with
    | nil => exact ⟨[], by rw [items]; rfl, heq, .inl ⟨rfl, rfl⟩⟩
    | cons => cases hlength
  | value :: values, taken, other, results, h, hlength, heq => by
    cases h with
    | nil => cases hlength
    | @cons first more result results hitem hitems =>
      rw [items, encode_append] at heq ⊢
      rw [List.append_assoc, List.append_assoc] at heq
      obtain ⟨lost, hwhole, hother, hread⟩ :=
        item_of_prefix (stops_items hstop values) value hitem heq
      rcases hread with ⟨rfl, rfl⟩ | ⟨hlost, leaf, hshort, rfl⟩
      · -- The first item is whole, and a cut can only be behind it.
        obtain ⟨lost, hwhole', hother', hread'⟩ :=
          items_of_prefix hstop values hitems (Nat.succ.inj hlength) hother
        exact ⟨lost, by rw [hwhole, hwhole']; simp, hother', hread'.behind _⟩
      · -- The first item is cut inside a number, so that no other item follows it.
        cases hitems with
        | nil =>
          cases values with
          | nil =>
            refine ⟨lost, by rw [hwhole, items]; simp, ?_, .inr ⟨hlost, leaf, hshort, rfl⟩⟩
            rwa [items] at hother
          | cons => cases hlength
        | @cons first' more' result' results' hitem' hitems' =>
          obtain ⟨byte, lost, rfl⟩ := List.exists_cons_of_ne_nil hlost
          have hpart := hshort.isDoubleByte byte List.mem_cons_self
          have hstops := hitem'.stops (more' ++ other)
          rw [← List.append_assoc, hother] at hstops
          rw [hstops byte rfl] at hpart
          cases hpart

end

end Pack

/-! ## Packed values -/

namespace Value

theorem number_of_shortened {lost : List UInt8} {value leaf : Value}
    (h : Pack.Shortened lost value leaf) :
    (∃ n, value = .integer n) ∨
      ∃ negative magnitude, value = .double (.finite negative magnitude) := by
  cases h with
  | integer => exact .inl ⟨_, rfl⟩
  | double => exact .inr ⟨_, _, rfl⟩

/-- The front of a packed value is refused, or read as the value with its last number shortened. -/
theorem unpack_front {value : Value} (hkind : value.kind ≠ .string) {front back : List UInt8}
    (hpacked : value.packBytes = front ++ back) (hback : back ≠ []) :
    (∃ offset fault, unpack front = .error (.deserialize offset fault) ∧ offset ≤ front.length) ∨
      ∃ leaf, Pack.Shortened back value.lastLeaf leaf ∧
        unpack front = .ok (value.withLastLeaf leaf) := by
  have hstring : ¬ ∃ text, value = .string text := by
    rintro ⟨text, rfl⟩
    exact hkind rfl
  rw [packBytes_eq hstring] at hpacked
  cases hunpack : unpack front with
  | error e =>
    obtain ⟨offset, fault, rfl, hle⟩ := offset_le_of_unpack hunpack
    exact .inl ⟨offset, fault, rfl, hle⟩
  | ok result =>
    rcases unpack_eq_ok hunpack with ⟨payload, rfl, _⟩ | ⟨hitem, _⟩
    · -- No item begins like a string that stands alone.
      have hhead := Pack.head?_encode_item value
      rw [hpacked] at hhead
      cases value with
      | string text => exact absurd rfl hkind
      | uninit | boolean | integer | double | array => cases hhead
    · have heq : front ++ back = encode (Pack.item value) ++ [] := by simp [hpacked]
      obtain ⟨lost, -, hlost, hread⟩ :=
        Pack.item_of_prefix (Pack.stops_nil _) value hitem heq
      rw [List.append_nil] at hlost
      subst hlost
      rcases hread with ⟨hnil, -⟩ | ⟨-, leaf, hshort, rfl⟩
      · exact absurd hnil hback
      · exact .inr ⟨leaf, hshort, rfl⟩

/-- A value other than a string has been packed and bytes at the end are lost. What is left is
refused, with a fault in it or at its end, or else the value ends with an integer or a finite double
and the cut goes through its text: what is left is then unpacked as the value with that number
exchanged for the one that the front of its text writes. A value that ends with anything else is
refused, wherever it is cut. -/
theorem unpack_truncated {value : Value} (hkind : value.kind ≠ .string) {front back : List UInt8}
    (hpacked : value.packBytes = front ++ back) (hback : back ≠ []) :
    ((∃ offset fault, unpack front = .error (.deserialize offset fault) ∧ offset ≤ front.length) ∨
      ∃ leaf, Pack.Shortened back value.lastLeaf leaf ∧
        unpack front = .ok (value.withLastLeaf leaf)) ∧
    ((∀ n, value.lastLeaf ≠ .integer n) →
      (∀ negative magnitude, value.lastLeaf ≠ .double (.finite negative magnitude)) →
      ∃ offset fault, unpack front = .error (.deserialize offset fault) ∧
        offset ≤ front.length) := by
  have hfront := unpack_front hkind hpacked hback
  refine ⟨hfront, fun hinteger hdouble => ?_⟩
  rcases hfront with hrefused | ⟨leaf, hshort, -⟩
  · exact hrefused
  · rcases number_of_shortened hshort with ⟨n, hn⟩ | ⟨negative, magnitude, hd⟩
    · exact absurd hn (hinteger n)
    · exact absurd hd (hdouble negative magnitude)

/-- A cut inside the last number of nested arrays, and one inside a character of a text. -/
theorem unpack_truncated_nested :
    (∃ leaf, Pack.Shortened (Pack.plain "0") (.integer (-120)) leaf ∧
      unpack (Pack.plain "a2:ua1:i-12") = .ok (.array [.uninit, .array [leaf]])) ∧
    ∃ offset fault,
      unpack (Pack.plain "a2:i5S2:" ++ [0xc3]) = .error (.deserialize offset fault) ∧
        offset ≤ 9 := by
  have hnumber : (Value.array [.uninit, .array [.integer (-120)]]).packBytes =
      Pack.plain "a2:ua1:i-12" ++ Pack.plain "0" := by decide +kernel
  have htext : (Value.array [.integer 5, .string "é"]).packBytes =
      Pack.plain "a2:i5S2:" ++ [0xc3] ++ [0xa9] := by decide +kernel
  refine ⟨?_, (unpack_truncated (by decide) htext (by decide)).2 ?_ ?_⟩
  · rcases (unpack_truncated (by decide) hnumber (by decide)).1 with ⟨_, _, herror, _⟩ | h
    · have hok : (unpack (Pack.plain "a2:ua1:i-12")).isOk = true := by decide +kernel
      rw [herror] at hok
      cases hok
    · exact h
  · rintro n ⟨⟩
  · rintro negative magnitude ⟨⟩

end Value

end ScriptHost

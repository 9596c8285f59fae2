import ScriptHost.Proofs.Pack.Truncation

/-!
# Unpacked values are packed in normal form

Many byte sequences pack one value: a number may be written with zeros in front or with an exponent,
a text may be damaged, a string may stand alone or have its length before it. Packing the value that
was unpacked gives one of them, and from there on nothing changes.

* `Value.texts` : the texts in a value.
* `Pack.Item.normal` : what the grammar packs, it also packs in the form that is written.
* `Value.relay` : unpacking and packing again, once or along a chain.
* `Value.relay_normalises` : the value stays, and so do the bytes after the first time.
-/

namespace ScriptHost

open Text.Utf8 (encode size length_encode)

/-! ## Texts in a value -/

namespace Value

mutual

/-- The texts in a value, at any depth. -/
def texts : Value → List String
  | .string text => [text]
  | .array items => textsOfAll items
  | _ => []

/-- The texts in several values. -/
def textsOfAll : List Value → List String
  | [] => []
  | item :: items => texts item ++ textsOfAll items

end

end Value

namespace Pack

/-! ## The form that is written is in the grammar -/

theorem counted_of_lt {n : Nat} (h : n < 2 ^ 64) :
    Counted (encode (Nat.toDigits 10 n ++ [':'])) n := by
  refine ⟨h, encode (Nat.toDigits 10 n), ?_, by rw [Text.Utf8.encode_append]; rfl⟩
  rw [← parseNat?_eq_some, characters_encode_toDigits, parseNat?_toDigits]

theorem integerText_toString (n : Int32) :
    IntegerText (encode (toString n.toInt).toList) n.toInt := by
  rw [← parseInteger?_eq_some, characters_encode_toString, parseInteger?_toString]

theorem doubleText_text (d : Double) : DoubleText (encode d.text.toList) d := by
  rcases word_or_finite d with hword | ⟨negative, magnitude, rfl⟩
  · exact doubleText_of_word hword
  · have hparse := Double.parse?_text negative magnitude
    rw [← characters_encode_text] at hparse
    refine .numeral (fun byte hbyte => ?_) hparse
    have hpart := fun c hc => isDoubleByte_ofNat ((Double.text_finite negative magnitude).1 c hc)
    exact isDoubleByte_iff.mp (isPart_of_mem_encode hpart byte hbyte)

mutual

/-- What the grammar packs, it also packs in the form that is written. Counts of elements have been
read, hence can be read again; texts may have grown when they were repaired. -/
theorem Item.normal :
    ∀ (value : Value) {bytes : List UInt8}, Item bytes value →
      (∀ text ∈ value.texts, size text.toList < 2 ^ 64) → Item (encode (item value)) value
  | .uninit, _, _, _ => .uninit
  | .boolean false, _, _, _ => .no
  | .boolean true, _, _, _ => .yes
  | .integer n, _, _, _ => .integer (integerText_toString n)
  | .double d, _, _, _ => .double (doubleText_text d)
  | .string text, _, _, htexts => by
    have hsize := htexts text (by simp [Value.texts])
    have hcounted : Counted (encode (Nat.toDigits 10 (size text.toList) ++ [':']))
        (encode text.toList).length := by
      rw [length_encode]
      exact counted_of_lt hsize
    have hitem := Item.string hcounted
    rw [textOf_encode] at hitem
    rwa [item, encode_counted (by decide)]
  | .array values, _, .array hcounted hitems, htexts => by
    rw [Value.texts] at htexts
    rw [item, encode_counted (by decide)]
    exact .array (counted_of_lt hcounted.1) (Items.normal values hitems htexts)

theorem Items.normal :
    ∀ (values : List Value) {bytes : List UInt8}, Items bytes values →
      (∀ text ∈ Value.textsOfAll values, size text.toList < 2 ^ 64) →
      Items (encode (items values)) values
  | [], _, _, _ => .nil
  | value :: values, _, .cons hitem hitems, htexts => by
    rw [Value.textsOfAll] at htexts
    rw [items, Text.Utf8.encode_append]
    exact .cons (Item.normal value hitem fun text h => htexts text (List.mem_append_left _ h))
      (Items.normal values hitems fun text h => htexts text (List.mem_append_right _ h))

end

end Pack

/-! ## Packing again -/

namespace Value

/-- What a relay sends on: the value of the bytes that it receives, packed by itself. -/
def relay (bytes : List UInt8) : Except Error (List UInt8) := (unpack bytes).map packBytes

/-- What comes out of a chain of relays. -/
def relayAlong : Nat → List UInt8 → Except Error (List UInt8)
  | 0, bytes => .ok bytes
  | count + 1, bytes => (relay bytes).bind (relayAlong count)

/-- A value that was unpacked is unpacked again when it has been packed. -/
theorem unpack_packBytes_of_unpack {bytes : List UInt8} {value : Value}
    (h : unpack bytes = .ok value)
    (htexts : ∀ text ∈ value.texts, size text.toList < 2 ^ 64) :
    unpack value.packBytes = .ok value := by
  by_cases hstring : ∃ text, value = .string text
  · obtain ⟨text, rfl⟩ := hstring
    exact unpack_standing text
  · rcases unpack_eq_ok h with ⟨payload, _, rfl⟩ | ⟨hitem, hdepth⟩
    · exact absurd ⟨_, rfl⟩ hstring
    · rw [packBytes_eq hstring]
      exact unpack_of_packs (.inr ⟨hitem.normal value htexts, hdepth⟩)

theorem relayAlong_of_relay {bytes : List UInt8} (h : relay bytes = .ok bytes) (count : Nat) :
    relayAlong count bytes = .ok bytes := by
  induction count with
  | zero => rfl
  | succ count ih => rw [relayAlong, h, Except.bind, ih]

/-- Bytes have been unpacked, in whatever form they packed their value. Packing the value gives
bytes that are unpacked to the same value, and packing that one again gives the same text. Whoever
receives the bytes through relays, one or many, therefore receives the packed form of the value.
Texts are shorter than `2 ^ 64` bytes, as any text in memory is. -/
theorem relay_normalises {bytes : List UInt8} {value : Value} (h : unpack bytes = .ok value)
    (htexts : ∀ text ∈ value.texts, size text.toList < 2 ^ 64) :
    unpack value.packBytes = .ok value ∧
      (unpack value.packBytes).map pack = .ok value.pack ∧
      ∀ count, relayAlong (count + 1) bytes = .ok value.packBytes := by
  have hagain := unpack_packBytes_of_unpack h htexts
  have hrelay : relay value.packBytes = .ok value.packBytes := by rw [relay, hagain]; rfl
  refine ⟨hagain, by rw [hagain]; rfl, fun count => ?_⟩
  rw [relayAlong, relay, h]
  exact relayAlong_of_relay hrelay count

/-- A zero with a sign, a damaged text that grows, a number out of range and zeros in front. -/
theorem relay_normalises_mixed :
    let bytes := Pack.plain "a4:i-0S2:" ++ [0xff, 0x41] ++ Pack.plain "r1e999i007"
    let value := Value.array [.integer 0, .string "\ufffdA", .double (.infinite false), .integer 7]
    unpack bytes = .ok value ∧ unpack value.packBytes = .ok value ∧
      relayAlong 3 bytes = .ok value.packBytes := by
  intro bytes value
  have hcount : Pack.Counted (Pack.plain "4:") 4 := Pack.counted_of_lt (by decide)
  have hlength : Pack.Counted (Pack.plain "2:") 2 := Pack.counted_of_lt (by decide)
  have hzero : Pack.IntegerText (Pack.plain "-0") (0 : Int32).toInt :=
    Pack.parseInteger?_eq_some.mp (by decide +kernel)
  have hseven : Pack.IntegerText (Pack.plain "007") (7 : Int32).toInt :=
    Pack.parseInteger?_eq_some.mp (by decide +kernel)
  have hdouble : Pack.DoubleText (Pack.plain "1e999") (.infinite false) :=
    .numeral (by decide +kernel) (by decide +kernel)
  have htext : Pack.textOf [0xff, 0x41] = "\ufffdA" := by decide +kernel
  have hbytes : Pack.plain "a4:i-0S2:" ++ [0xff, 0x41] ++ Pack.plain "r1e999i007" =
      Pack.plain "a" ++ Pack.plain "4:" ++ (Pack.plain "i" ++ Pack.plain "-0" ++
        (Pack.plain "S" ++ Pack.plain "2:" ++ [0xff, 0x41] ++
          (Pack.plain "r" ++ Pack.plain "1e999" ++
            (Pack.plain "i" ++ Pack.plain "007" ++ [])))) := by
    decide +kernel
  have hitem : Pack.Item bytes value := by
    dsimp only [bytes, value]
    rw [hbytes, ← htext]
    exact .array hcount (.cons (.integer hzero) (.cons (.string hlength) (.cons (.double hdouble)
      (.cons (.integer hseven) .nil))))
  have h : unpack bytes = .ok value := unpack_of_packs (.inr ⟨hitem, by decide⟩)
  obtain ⟨hagain, -, hrelays⟩ := relay_normalises h (by decide +kernel)
  exact ⟨h, hagain, hrelays 2⟩

end Value

end ScriptHost

import Mathlib.Data.List.Induction
import Mathlib.Data.List.Infix
import ScriptHost.Pack.Grammar
import ScriptHost.Proofs.Pack.Item

/-!
# The reader accepts the grammar

What the reader takes away is an item of the grammar, and it takes away every item of the grammar
that does not go on in the bytes behind it. A number goes on as long as there are bytes that numbers
are written with; no item begins with such a byte.

* `Pack.Reading.Takes` : a reading takes away only what a grammar allows.
* `Pack.readItem_takes`, `Pack.readItem_of_item` : the reader and the grammar of items.
* `Value.unpack_ok_iff` : what is unpacked is what the grammar packs, and all else is refused.
-/

namespace ScriptHost

namespace Pack

/-! ## Digits -/

theorem toNat_character (byte : UInt8) : (Char.ofNat byte.toNat).toNat = byte.toNat := by
  have hlt := byte.toNat_lt
  have hvalid : byte.toNat.isValidChar := Or.inl (by omega)
  rw [Char.ofNat, dif_pos hvalid]
  rfl

theorem isDigit_character (byte : UInt8) : (Char.ofNat byte.toNat).isDigit = isDigit byte := by
  have hvalue : (Char.ofNat byte.toNat).val.toNat = byte.toNat := toNat_character byte
  rw [Char.isDigit, isDigit, Bool.eq_iff_iff]
  simp only [Bool.and_eq_true, decide_eq_true_eq, ge_iff_le, UInt32.le_iff_toNat_le, hvalue,
    UInt8.le_iff_toNat_le]
  rfl

theorem characters_append (front back : List UInt8) :
    characters (front ++ back) = characters front ++ characters back := List.map_append

theorem all_isDigit_characters {bytes : List UInt8} :
    (characters bytes).all Char.isDigit = true ↔ ∀ byte ∈ bytes, isDigit byte = true := by
  rw [characters, List.all_map, List.all_eq_true]
  simp only [Function.comp_apply, isDigit_character]

theorem isDigit_iff {byte : UInt8} :
    isDigit byte = true ↔ ∃ digit < 10, byte = UInt8.ofNat (0x30 + digit) := by
  simp only [isDigit, Bool.and_eq_true, decide_eq_true_eq, UInt8.le_iff_toNat_le]
  constructor
  · rintro ⟨hlow, hhigh⟩
    have hlow' : 0x30 ≤ byte.toNat := hlow
    have hhigh' : byte.toNat ≤ 0x39 := hhigh
    refine ⟨byte.toNat - 0x30, by omega, ?_⟩
    rw [Nat.add_sub_cancel' hlow', UInt8.ofNat_toNat]
  · rintro ⟨digit, hdigit, rfl⟩
    rw [Text.Utf8.toNat_ofNat_of_lt (by omega)]
    exact ⟨Nat.le_add_right _ _, Nat.add_le_add_left (Nat.le_of_lt_succ hdigit) 0x30⟩

theorem decimalValue_nil : Text.decimalValue (characters []) = 0 := Text.decimalValue_eq_foldl []

theorem decimalValue_concat (bytes : List UInt8) {digit : Nat} (h : digit < 10) :
    Text.decimalValue (characters (bytes ++ [UInt8.ofNat (0x30 + digit)])) =
      10 * Text.decimalValue (characters bytes) + digit := by
  have hdigit : Text.digitValue (Char.ofNat (UInt8.ofNat (0x30 + digit)).toNat) = digit := by
    rw [Text.digitValue, toNat_character, Text.Utf8.toNat_ofNat_of_lt (by omega)]
    exact Nat.add_sub_cancel_left 0x30 digit
  rw [characters_append, Text.decimalValue_eq_foldl, List.foldl_append,
    ← Text.decimalValue_eq_foldl, Nat.mul_comm]
  exact congrArg _ hdigit

namespace Digits

variable {bytes : List UInt8} {n : Nat}

theorem ne_nil (h : Digits bytes n) : bytes ≠ [] := by
  cases h with
  | single => exact List.cons_ne_nil _ _
  | more => exact List.append_ne_nil_of_right_ne_nil _ (List.cons_ne_nil _ _)

theorem isDigit (h : Digits bytes n) : ∀ byte ∈ bytes, isDigit byte = true := by
  induction h with
  | single hdigit => exact List.forall_mem_singleton.mpr (isDigit_iff.mpr ⟨_, hdigit, rfl⟩)
  | more _ hdigit ih =>
    intro byte hbyte
    rcases List.mem_append.mp hbyte with hbyte | hbyte
    · exact ih byte hbyte
    · cases List.mem_singleton.mp hbyte
      exact isDigit_iff.mpr ⟨_, hdigit, rfl⟩

theorem decimalValue (h : Digits bytes n) : Text.decimalValue (characters bytes) = n := by
  induction h with
  | single hdigit =>
    have hvalue := decimalValue_concat [] hdigit
    rwa [decimalValue_nil, Nat.mul_zero, Nat.zero_add] at hvalue
  | more _ hdigit ih => rw [decimalValue_concat _ hdigit, ih]

theorem of_isDigit (hne : bytes ≠ []) (h : ∀ byte ∈ bytes, Pack.isDigit byte = true) :
    Digits bytes (Text.decimalValue (characters bytes)) := by
  induction bytes using List.reverseRecOn with
  | nil => exact absurd rfl hne
  | append_singleton front byte ih =>
    obtain ⟨digit, hdigit, rfl⟩ := isDigit_iff.mp (h byte List.mem_concat_self)
    rw [decimalValue_concat front hdigit]
    by_cases hfront : front = []
    · subst hfront
      rw [decimalValue_nil, Nat.mul_zero, Nat.zero_add]
      exact .single hdigit
    · exact .more (ih hfront fun other hother => h other (List.mem_append_left _ hother)) hdigit

end Digits

/-- What is read as a natural number are the digits that write it. -/
theorem parseNat?_eq_some {bytes : List UInt8} {n : Nat} :
    parseNat? (characters bytes) = some n ↔ Digits bytes n := by
  constructor
  · intro hparse
    unfold parseNat? at hparse
    split at hparse
    · rename_i hwritten
      cases hparse
      exact .of_isDigit (fun hnil => hwritten.1 (by rw [hnil]; rfl))
        (all_isDigit_characters.mp hwritten.2)
    · cases hparse
  · intro hdigits
    have hne : characters bytes ≠ [] := fun hnil => hdigits.ne_nil (List.map_eq_nil_iff.mp hnil)
    rw [parseNat?, if_pos ⟨hne, all_isDigit_characters.mpr hdigits.isDigit⟩, hdigits.decimalValue]

/-! ## Integers -/

theorem narrow_eq_some {m : Int} {n : Int32} :
    (if Int32.minValue.toInt ≤ m ∧ m ≤ Int32.maxValue.toInt then some (Int32.ofInt m) else none) =
      some n ↔ m = n.toInt := by
  constructor
  · intro h
    split at h
    · rename_i hrange
      cases h
      exact (Int32.toInt_ofInt_of_le hrange.1 (Int.lt_add_one_of_le hrange.2)).symm
    · cases h
  · rintro rfl
    rw [if_pos ⟨n.minValue_le_toInt, n.toInt_le⟩, Int32.ofInt_toInt]

theorem parseInteger?_minus {bytes : List UInt8} {n : Int32} :
    parseInteger? (characters (0x2d :: bytes)) = some n ↔
      ∃ size, Digits bytes size ∧ Int.negOfNat size = n.toInt := by
  have hcharacters : characters (0x2d :: bytes) = '-' :: characters bytes := rfl
  simp only [hcharacters, parseInteger?, Option.bind_eq_some_iff, Option.map_eq_some_iff,
    narrow_eq_some, parseNat?_eq_some]
  constructor
  · rintro ⟨_, ⟨size, hsize, heq⟩, hn⟩
    exact ⟨size, hsize, heq.trans hn⟩
  · rintro ⟨size, hsize, hn⟩
    exact ⟨_, ⟨size, hsize, rfl⟩, hn⟩

theorem parseInteger?_digits {bytes : List UInt8} (h : bytes.head? ≠ some 0x2d) {n : Int32} :
    parseInteger? (characters bytes) = some n ↔
      ∃ size, Digits bytes size ∧ Int.ofNat size = n.toInt := by
  have hminus : ∀ digits, characters bytes ≠ '-' :: digits := by
    intro digits heq
    cases bytes with
    | nil => cases heq
    | cons byte rest =>
      have hbyte := congrArg Char.toNat (List.cons.inj heq).1
      rw [toNat_character] at hbyte
      exact h (congrArg some (UInt8.toNat_inj.mp hbyte))
  unfold parseInteger?
  split
  · rename_i digits heq
    exact absurd heq (hminus digits)
  · simp only [Option.bind_eq_some_iff, Option.map_eq_some_iff, narrow_eq_some, parseNat?_eq_some]
    exact ⟨fun ⟨_, ⟨size, hsize, heq⟩, hn⟩ => ⟨size, hsize, heq.trans hn⟩,
      fun ⟨size, hsize, hn⟩ => ⟨_, ⟨size, hsize, rfl⟩, hn⟩⟩

/-- What is read as an integer are the digits and the sign that write it. -/
theorem parseInteger?_eq_some {bytes : List UInt8} {n : Int32} :
    parseInteger? (characters bytes) = some n ↔ IntegerText bytes n.toInt := by
  by_cases hminus : bytes.head? = some 0x2d
  · obtain ⟨digits, rfl⟩ : ∃ digits, bytes = 0x2d :: digits := List.head?_eq_some_iff.mp hminus
    rw [parseInteger?_minus]
    constructor
    · rintro ⟨size, hsize, hn⟩
      rw [← hn, Int.negOfNat_eq]
      exact .negative hsize
    · intro h
      generalize hbytes : (0x2d :: digits : List UInt8) = bytes at h
      generalize hm : n.toInt = m at h
      cases h with
      | positive hsize =>
        subst hbytes
        exact absurd (hsize.isDigit 0x2d List.mem_cons_self) (by decide)
      | negative hsize =>
        cases hbytes
        exact ⟨_, hsize, Int.negOfNat_eq⟩
  · rw [parseInteger?_digits hminus]
    constructor
    · rintro ⟨size, hsize, hn⟩
      rw [← hn]
      exact .positive hsize
    · intro h
      generalize hm : n.toInt = m at h
      cases h with
      | positive hsize => exact ⟨_, hsize, rfl⟩
      | negative _ => exact absurd rfl hminus

/-! ## Doubles -/

theorem isDoubleByte_iff {byte : UInt8} :
    isDoubleByte byte = true ↔ byte ∈ plain "0123456789+-.eE" := by
  have halphabet : plain "0123456789+-.eE" = [0x30, 0x31, 0x32, 0x33, 0x34, 0x35, 0x36, 0x37, 0x38,
      0x39, 0x2b, 0x2d, 0x2e, 0x65, 0x45] := rfl
  rw [halphabet]
  simp only [isDoubleByte, isIntegerByte, isDigit, Bool.or_eq_true, Bool.and_eq_true, beq_iff_eq,
    decide_eq_true_eq, List.mem_cons, List.not_mem_nil, or_false, UInt8.le_iff_toNat_le,
    ← UInt8.toNat_inj, UInt8.reduceToNat]
  omega

theorem doubleText_of_word {word : List UInt8} {d : Double} (h : (word, d) ∈ words) :
    DoubleText word d := by
  simp only [words, List.mem_cons, Prod.mk.injEq, List.not_mem_nil, or_false] at h
  rcases h with ⟨rfl, rfl⟩ | ⟨rfl, rfl⟩ | ⟨rfl, rfl⟩
  · exact .negativeInfinity
  · exact .infinity
  · exact .nan

/-- No numeral begins with a word, whatever follows it. -/
theorem find_word_of_numeral {bytes : List UInt8} {d : Double}
    (h : ∀ byte ∈ bytes, isDoubleByte byte = true)
    (hparse : Double.parse? (characters bytes) = some d) (rest : List UInt8) :
    (words.find? fun (word, _) => word.isPrefixOf (bytes ++ rest)) = none := by
  have hother : ∀ {byte other : UInt8}, isDoubleByte byte = true → isDoubleByte other = false →
      (other == byte) = false := by
    intro byte other hbyte hfalse
    rw [beq_eq_false_iff_ne]
    rintro rfl
    rw [hbyte] at hfalse
    cases hfalse
  cases bytes with
  | nil => cases hparse
  | cons first bytes =>
    have hfirst := h first List.mem_cons_self
    have hi := hother hfirst (rfl : isDoubleByte 0x69 = false)
    have hn := hother hfirst (rfl : isDoubleByte 0x4e = false)
    cases bytes with
    | nil =>
      -- A sign alone is no numeral, so the first byte is no sign.
      have hminus : (0x2d == first) = false := by
        rw [beq_eq_false_iff_ne]
        rintro rfl
        cases hparse
      simp only [words, List.cons_append, List.find?, List.isPrefixOf, hminus, hi, hn,
        Bool.false_and]
    | cons second bytes =>
      have hsecond := h second (List.mem_cons_of_mem _ List.mem_cons_self)
      have hi' := hother hsecond (rfl : isDoubleByte 0x69 = false)
      simp only [words, List.cons_append, List.find?, List.isPrefixOf, hi, hi', hn,
        Bool.false_and, Bool.and_false]

/-! ## What a reading takes away -/

/-- A reading that succeeds takes away bytes that a grammar allows for its result. -/
def Reading.Takes {α : Type} (reading : Reading α) (bytes : List UInt8)
    (allowed : List UInt8 → α → Prop) : Prop :=
  ∀ result cursor, reading = .done result cursor →
    ∃ taken, bytes = taken ++ cursor.rest ∧ allowed taken result

section Takes

variable {α β : Type} {reading : Reading α} {bytes taken : List UInt8}
  {allowed : List UInt8 → α → Prop} {allowed' : List UInt8 → β → Prop}

theorem Reading.takes_failed (fault : Fault) (cursor : Cursor) :
    (Reading.failed fault cursor : Reading α).Takes bytes allowed := by
  intro result behind h
  cases h

theorem Reading.takes_done {result : α} {cursor : Cursor} (hbytes : bytes = taken ++ cursor.rest)
    (h : allowed taken result) : (Reading.done result cursor).Takes bytes allowed := by
  intro other behind hdone
  cases hdone
  exact ⟨taken, hbytes, h⟩

theorem Reading.Takes.bind (h : reading.Takes bytes allowed) {next : α → Cursor → Reading β}
    (hnext : ∀ taken result cursor, allowed taken result →
      (next result cursor).Takes cursor.rest fun more last => allowed' (taken ++ more) last) :
    (reading.bind next).Takes bytes allowed' := by
  intro last behind hlast
  cases hreading : reading with
  | failed fault cursor =>
    rw [hreading] at hlast
    cases hlast
  | done result cursor =>
    rw [hreading] at hlast
    obtain ⟨taken, rfl, hallowed⟩ := h result cursor hreading
    obtain ⟨more, hmore, hallowed'⟩ := hnext taken result cursor hallowed last behind hlast
    exact ⟨taken ++ more, by rw [hmore, List.append_assoc], hallowed'⟩

theorem Reading.Takes.map (h : reading.Takes bytes allowed) {f : α → β}
    (hf : ∀ taken result, allowed taken result → allowed' taken (f result)) :
    (reading.map f).Takes bytes allowed' := by
  apply h.bind
  intro taken result cursor hallowed
  exact Reading.takes_done (List.nil_append _).symm (by
    rw [List.append_nil]
    exact hf taken result hallowed)

/-- Bytes in front of a reading count as taken. -/
theorem Reading.Takes.behind (front : List UInt8)
    (h : reading.Takes bytes fun taken result => allowed (front ++ taken) result) :
    reading.Takes (front ++ bytes) allowed := by
  intro result cursor hdone
  obtain ⟨taken, rfl, hallowed⟩ := h result cursor hdone
  exact ⟨front ++ taken, (List.append_assoc _ _ _).symm, hallowed⟩

end Takes

/-! ## Parts of an item are taken away -/

theorem readRun_takes {α : Type} (isPart : UInt8 → Bool) (parse? : List Char → Option α)
    (fault : String → Fault) (cursor : Cursor) :
    (readRun isPart parse? fault cursor).Takes cursor.rest fun taken number =>
      (∀ byte ∈ taken, isPart byte = true) ∧ parse? (characters taken) = some number := by
  unfold readRun
  dsimp only
  split
  · rename_i number hparse
    have hrest := List.prefix_append_drop (List.takeWhile_prefix isPart (l := cursor.rest))
    exact Reading.takes_done hrest ⟨fun byte => List.mem_takeWhile_imp, hparse⟩
  · exact Reading.takes_failed _ _

theorem readColon_takes (cursor : Cursor) :
    (readColon cursor).Takes cursor.rest fun taken _ => taken = plain ":" := by
  unfold readColon
  split
  · exact Reading.takes_failed _ _
  · rename_i byte rest hrest
    split
    · rename_i hcolon
      subst hcolon
      have hmove : cursor.rest = plain ":" ++ (move cursor 1).rest := by
        rw [move, hrest]
        rfl
      exact Reading.takes_done hmove rfl
    · exact Reading.takes_failed _ _

theorem readLength_takes (cursor : Cursor) :
    (readLength cursor).Takes cursor.rest Counted := by
  unfold readLength
  apply (readRun_takes _ _ _ cursor).bind
  rintro digits count behind ⟨_, hparse⟩
  obtain ⟨hcount, hlimit⟩ := Option.filter_eq_some_iff.mp hparse
  apply (readColon_takes behind).map
  rintro colon _ rfl
  exact ⟨of_decide_eq_true hlimit, digits, parseNat?_eq_some.mp hcount, rfl⟩

theorem readPayload_takes (count : Nat) (cursor : Cursor) :
    (readPayload count cursor).Takes cursor.rest fun taken payload =>
      taken = payload ∧ payload.length = count := by
  unfold readPayload
  dsimp only
  split
  · rename_i hlength
    refine Reading.takes_done ?_ ⟨rfl, hlength⟩
    exact (List.take_append_drop count cursor.rest).symm
  · exact Reading.takes_failed _ _

theorem readString_takes (cursor : Cursor) :
    (readString cursor).Takes cursor.rest fun taken value =>
      Item (plain "S" ++ taken) value ∧ value.depth = 0 := by
  unfold readString
  apply (readLength_takes cursor).bind
  intro length count behind hcounted
  apply (readPayload_takes count behind).map
  rintro taken payload ⟨rfl, rfl⟩
  rw [← List.append_assoc]
  exact ⟨.string hcounted, rfl⟩

theorem readBoolean_takes (cursor : Cursor) :
    (readBoolean cursor).Takes cursor.rest fun taken value =>
      Item (plain "b" ++ taken) value ∧ value.depth = 0 := by
  unfold readBoolean
  split
  · exact Reading.takes_failed _ _
  · rename_i byte rest hrest
    have hmove : cursor.rest = [byte] ++ (move cursor 1).rest := by
      rw [move, hrest]
      rfl
    split
    · rename_i hbyte
      subst hbyte
      exact Reading.takes_done hmove ⟨.yes, rfl⟩
    · split
      · rename_i hbyte
        subst hbyte
        exact Reading.takes_done hmove ⟨.no, rfl⟩
      · exact Reading.takes_failed _ _

theorem readInteger_takes (cursor : Cursor) :
    ((readRun isIntegerByte parseInteger? .badInteger cursor).map Value.integer).Takes cursor.rest
      fun taken value => Item (plain "i" ++ taken) value ∧ value.depth = 0 := by
  apply (readRun_takes _ _ _ cursor).map
  rintro taken n ⟨_, hparse⟩
  exact ⟨.integer (parseInteger?_eq_some.mp hparse), rfl⟩

theorem readDouble_takes (cursor : Cursor) :
    (readDouble cursor).Takes cursor.rest fun taken value =>
      Item (plain "r" ++ taken) value ∧ value.depth = 0 := by
  unfold readDouble
  split
  · rename_i word d hfind
    have hprefix := List.find?_some hfind
    have hrest := List.prefix_append_drop (List.isPrefixOf_iff_prefix.mp hprefix)
    exact Reading.takes_done hrest
      ⟨.double (doubleText_of_word (List.mem_of_find?_eq_some hfind)), rfl⟩
  · apply (readRun_takes _ _ _ cursor).map
    rintro taken d ⟨hpart, hparse⟩
    have halphabet := fun byte hbyte => isDoubleByte_iff.mp (hpart byte hbyte)
    exact ⟨.double (.numeral halphabet hparse), rfl⟩

/-! ## Items are taken away -/

theorem readMany_takes {read : Cursor → Reading Value} {depth : Nat}
    (h : ∀ cursor, (read cursor).Takes cursor.rest fun taken value =>
      Item taken value ∧ value.depth ≤ depth) (count : Nat) (cursor : Cursor) :
    (readMany read count cursor).Takes cursor.rest fun taken values =>
      Items taken values ∧ values.length = count ∧ Value.depthAll values ≤ depth := by
  induction count generalizing cursor with
  | zero => exact Reading.takes_done (List.nil_append _).symm ⟨.nil, rfl, Nat.zero_le _⟩
  | succ count ih =>
    apply (h cursor).bind
    rintro first value behind ⟨hitem, hdepth⟩
    apply (ih behind).map
    rintro rest values ⟨hitems, hlength, hdepths⟩
    refine ⟨.cons hitem hitems, congrArg (· + 1) hlength, ?_⟩
    rw [Value.depthAll]
    exact Nat.max_le.mpr ⟨hdepth, hdepths⟩

theorem readArray_takes {depth : Nat}
    (h : ∀ cursor, (readItem depth cursor).Takes cursor.rest fun taken value =>
      Item taken value ∧ value.depth ≤ depth) (cursor : Cursor) :
    ((readLength cursor).bind fun count cursor =>
      (readMany (readItem depth) count cursor).map Value.array).Takes cursor.rest
        fun taken value => Item (plain "a" ++ taken) value ∧ value.depth ≤ depth + 1 := by
  apply (readLength_takes cursor).bind
  intro counted count behind hcounted
  apply (readMany_takes h count behind).map
  rintro taken values ⟨hitems, rfl, hdepth⟩
  rw [← List.append_assoc]
  exact ⟨.array hcounted hitems, Nat.succ_le_succ hdepth⟩

/-- The payload of an item without elements, with its tag in front. -/
theorem Reading.Takes.tagged {reading : Reading Value} {bytes : List UInt8} (tag : UInt8)
    (h : reading.Takes bytes fun taken value => Item (tag :: taken) value ∧ value.depth = 0)
    (allowance : Nat) :
    reading.Takes (tag :: bytes) fun taken value => Item taken value ∧ value.depth ≤ allowance := by
  apply Reading.Takes.behind [tag]
  intro value cursor hdone
  obtain ⟨taken, hbytes, hitem, hdepth⟩ := h value cursor hdone
  exact ⟨taken, hbytes, hitem, Nat.le_trans (Nat.le_of_eq hdepth) (Nat.zero_le _)⟩

/-- What is read as an item is an item of the grammar, nested no deeper than is allowed. -/
theorem readItem_takes (allowance : Nat) (cursor : Cursor) :
    (readItem allowance cursor).Takes cursor.rest fun taken value =>
      Item taken value ∧ value.depth ≤ allowance := by
  induction allowance using Nat.strongRecOn generalizing cursor with
  | ind allowance ih =>
    unfold readItem
    split
    · exact Reading.takes_failed _ _
    · rename_i tag rest hrest
      have hpayload : rest = (move cursor 1).rest := by
        rw [move, hrest]
        rfl
      rw [hrest, hpayload]
      dsimp only
      -- One case for each tag, in the order of the reader.
      split
      · rename_i htag
        subst htag
        exact Reading.takes_done rfl ⟨.uninit, Nat.zero_le _⟩
      split
      · rename_i htag
        subst htag
        exact (readBoolean_takes _).tagged 0x62 allowance
      split
      · rename_i htag
        subst htag
        exact (readInteger_takes _).tagged 0x69 allowance
      split
      · rename_i htag
        subst htag
        exact (readDouble_takes _).tagged 0x72 allowance
      split
      · rename_i htag
        subst htag
        exact (readString_takes _).tagged 0x53 allowance
      split
      · rename_i htag
        subst htag
        split
        · exact Reading.takes_failed _ _
        · rename_i allowance
          apply Reading.Takes.behind [0x61]
          exact readArray_takes (ih allowance (Nat.lt_succ_self allowance)) _
      split
      · exact Reading.takes_failed _ _
      · exact Reading.takes_failed _ _

/-! ## Parts of the grammar are read -/

theorem move_append (offset : Nat) (front rest : List UInt8) :
    move ⟨offset, front ++ rest⟩ front.length = ⟨offset + front.length, rest⟩ := by
  rw [move, List.drop_left]

theorem readRun_of_stops {α : Type} {isPart : UInt8 → Bool} {parse? : List Char → Option α}
    {bytes rest : List UInt8} {number : α} (hpart : ∀ byte ∈ bytes, isPart byte = true)
    (hparse : parse? (characters bytes) = some number) (hstop : Stops isPart rest)
    (fault : String → Fault) (offset : Nat) :
    readRun isPart parse? fault ⟨offset, bytes ++ rest⟩ =
      .done number ⟨offset + bytes.length, rest⟩ := by
  have hrun : (bytes ++ rest).takeWhile isPart = bytes := by
    rw [List.takeWhile_append_of_pos hpart, takeWhile_of_stops hstop, List.append_nil]
  have hparse' : parse? (bytes.map fun byte => Char.ofNat byte.toNat) = some number := hparse
  simp only [readRun, hrun, hparse', move_append]

theorem readLength_of_counted {bytes : List UInt8} {count : Nat} (h : Counted bytes count)
    (offset : Nat) (rest : List UInt8) :
    readLength ⟨offset, bytes ++ rest⟩ = .done count ⟨offset + bytes.length, rest⟩ := by
  obtain ⟨hlimit, digits, hdigits, rfl⟩ := h
  have hparse : parseLength? (characters digits) = some count := by
    rw [parseLength?, parseNat?_eq_some.mpr hdigits, Option.filter_some,
      if_pos (decide_eq_true hlimit)]
  have hcolon : Stops isDigit (plain ":" ++ rest) := by
    intro byte hbyte
    cases hbyte
    rfl
  rw [List.append_assoc, List.length_append, ← Nat.add_assoc, readLength,
    readRun_of_stops hdigits.isDigit hparse hcolon]
  rfl

theorem readPayload_of_length (payload : List UInt8) (offset : Nat) (rest : List UInt8) :
    readPayload payload.length ⟨offset, payload ++ rest⟩ =
      .done payload ⟨offset + payload.length, rest⟩ := by
  simp only [readPayload, List.take_left, if_true, move_append]

theorem IntegerText.isIntegerByte {bytes : List UInt8} {n : Int} (h : IntegerText bytes n) :
    ∀ byte ∈ bytes, isIntegerByte byte = true := by
  have hdigits : ∀ {bytes : List UInt8} {size : Nat}, Digits bytes size →
      ∀ byte ∈ bytes, Pack.isIntegerByte byte = true := by
    intro bytes size hsize byte hbyte
    rw [Pack.isIntegerByte, hsize.isDigit byte hbyte, Bool.or_true]
  cases h with
  | positive hsize => exact hdigits hsize
  | negative hsize => exact List.forall_mem_cons.mpr ⟨rfl, hdigits hsize⟩

theorem readDouble_of_text {bytes rest : List UInt8} {d : Double} (h : DoubleText bytes d)
    (hstop : Stops isDoubleByte rest) (offset : Nat) :
    readDouble ⟨offset, bytes ++ rest⟩ = .done (.double d) ⟨offset + bytes.length, rest⟩ := by
  cases h with
  | infinity => rfl
  | negativeInfinity => rfl
  | nan => rfl
  | numeral halphabet hparse =>
    have hpart := fun byte hbyte => isDoubleByte_iff.mpr (halphabet byte hbyte)
    unfold readDouble
    rw [find_word_of_numeral hpart hparse]
    dsimp only
    rw [readRun_of_stops hpart hparse hstop]
    rfl

/-! ## Items of the grammar are read -/

/-- An item begins with a tag, which is no part of a number and does not stand alone. -/
theorem Item.eq_cons {bytes : List UInt8} {value : Value} (h : Item bytes value) :
    ∃ tag payload, bytes = tag :: payload ∧ isDoubleByte tag = false ∧ tag ≠ 0x73 := by
  cases h with
  | uninit | no | yes | integer | double | string | array => exact ⟨_, _, rfl, by decide⟩

theorem Item.stops {bytes : List UInt8} {value : Value} (h : Item bytes value)
    (rest : List UInt8) : Stops isDoubleByte (bytes ++ rest) := by
  obtain ⟨tag, payload, rfl, htag, _⟩ := h.eq_cons
  intro byte hbyte
  cases hbyte
  exact htag

theorem Items.stops {bytes rest : List UInt8} {values : List Value} (h : Items bytes values)
    (hstop : Stops isDoubleByte rest) : Stops isDoubleByte (bytes ++ rest) := by
  cases h with
  | nil => exact hstop
  | cons hitem _ =>
    rw [List.append_assoc]
    exact hitem.stops _

mutual

/-- An item of the grammar that is not nested too deeply is read, and reading ends behind it. -/
theorem readItem_of_item (allowance offset : Nat) {rest : List UInt8}
    (hstop : Stops isDoubleByte rest) :
    ∀ (value : Value) {bytes : List UInt8}, Item bytes value → value.depth ≤ allowance →
      readItem allowance ⟨offset, bytes ++ rest⟩ = .done value ⟨offset + bytes.length, rest⟩
  | .uninit, _, .uninit, _ => by
    unfold readItem
    rfl
  | .boolean _, _, .no, _ => by
    unfold readItem
    rfl
  | .boolean _, _, .yes, _ => by
    unfold readItem
    rfl
  | .integer n, _, .integer htext, _ => by
    have hread := readRun_of_stops htext.isIntegerByte (parseInteger?_eq_some.mpr htext)
      hstop.integer .badInteger (offset + 1)
    rw [List.append_assoc, List.length_append, ← Nat.add_assoc, readItem]
    exact congrArg (Reading.map Value.integer) hread
  | .double d, _, .double htext, _ => by
    rw [List.append_assoc, List.length_append, ← Nat.add_assoc, readItem]
    exact readDouble_of_text htext hstop (offset + 1)
  | .string _, _, @Item.string length payload hlength, _ => by
    have hread : readString ⟨offset + 1, length ++ (payload ++ rest)⟩ =
        .done (.string (textOf payload)) ⟨offset + 1 + length.length + payload.length, rest⟩ := by
      rw [readString, readLength_of_counted hlength, Reading.bind, readPayload_of_length]
      rfl
    rw [List.append_assoc, List.append_assoc, List.append_assoc, List.length_append,
      List.length_append, ← Nat.add_assoc, ← Nat.add_assoc, readItem]
    exact hread
  | .array values, _, @Item.array count bytes _ hcount hitems, hdepth => by
    rw [Value.depth] at hdepth
    obtain ⟨allowance, rfl⟩ : ∃ n, allowance = n + 1 := ⟨allowance - 1, by omega⟩
    have hmany := readMany_of_items allowance (offset + 1 + count.length) hstop values hitems
      (by omega)
    have hlength := readLength_of_counted hcount (offset + 1) (bytes ++ rest)
    rw [List.append_assoc, List.append_assoc, List.append_assoc, List.length_append,
      List.length_append, ← Nat.add_assoc, ← Nat.add_assoc, readItem]
    refine (congrArg (Reading.bind · fun count cursor =>
      (readMany (readItem allowance) count cursor).map Value.array) hlength).trans ?_
    exact congrArg (Reading.map Value.array) hmany

theorem readMany_of_items (allowance offset : Nat) {rest : List UInt8}
    (hstop : Stops isDoubleByte rest) :
    ∀ (values : List Value) {bytes : List UInt8}, Items bytes values →
      Value.depthAll values ≤ allowance →
      readMany (readItem allowance) values.length ⟨offset, bytes ++ rest⟩ =
        .done values ⟨offset + bytes.length, rest⟩
  | [], _, .nil, _ => rfl
  | value :: values, _, @Items.cons first _ _ _ hitem hitems, hdepth => by
    rw [Value.depthAll] at hdepth
    have hvalue := readItem_of_item allowance offset (hitems.stops hstop) value hitem (by omega)
    have hvalues := readMany_of_items allowance (offset + first.length) hstop values hitems
      (by omega)
    rw [List.append_assoc, List.length_append, ← Nat.add_assoc, List.length_cons, readMany, hvalue,
      Reading.bind, hvalues]
    rfl

end

end Pack

namespace Value

open Pack (Packs Item)

/-- Unpacking takes a whole item, or a string that stands alone. -/
theorem unpack_eq_ok {bytes : List UInt8} {value : Value} (h : unpack bytes = .ok value) :
    Packs bytes value := by
  unfold unpack at h
  split at h
  · cases h
    exact Or.inl ⟨_, rfl, rfl⟩
  · split at h
    · cases h
    · rename_i value cursor hnext
      split at h
      · rename_i hend
        cases h
        obtain ⟨taken, hbytes, hitem, hdepth⟩ := Pack.readItem_takes _ _ _ _ hnext
        rw [List.isEmpty_iff.mp hend, List.append_nil] at hbytes
        refine Or.inr ⟨?_, hdepth⟩
        rwa [← hbytes] at hitem
      · cases h

theorem unpack_of_packs {bytes : List UInt8} {value : Value} (h : Packs bytes value) :
    unpack bytes = .ok value := by
  rcases h with ⟨payload, rfl, rfl⟩ | ⟨hitem, hdepth⟩
  · rfl
  · obtain ⟨tag, payload, rfl, _, htag⟩ := hitem.eq_cons
    have hread := Pack.readItem_of_item Pack.maxDepth 0 (Pack.stops_nil _) value hitem hdepth
    rw [List.append_nil] at hread
    unfold unpack
    split
    · rename_i hbytes
      cases hbytes
      exact absurd rfl htag
    · rw [Cursor.next, Cursor.ofBytes, hread]
      rfl

theorem unpack_eq_error {bytes : List UInt8} {e : Error} (h : unpack bytes = .error e) :
    ∃ offset fault, e = .deserialize offset fault := by
  unfold unpack at h
  split at h
  · cases h
  · split at h
    · cases h
      exact ⟨_, _, rfl⟩
    · split at h
      · cases h
      · cases h
        exact ⟨_, _, rfl⟩

/-- The bytes that the grammar packs into a value are exactly those that are unpacked into it. Bytes
that it packs into no value are exactly those that are refused, with the place of the fault. -/
theorem unpack_ok_iff (bytes : List UInt8) :
    (∀ value, unpack bytes = .ok value ↔ Packs bytes value) ∧
      ((∃ offset fault, unpack bytes = .error (.deserialize offset fault)) ↔
        ¬ ∃ value, Packs bytes value) := by
  refine ⟨fun value => ⟨unpack_eq_ok, unpack_of_packs⟩, ?_, fun h => ?_⟩
  · rintro ⟨offset, fault, herror⟩ ⟨value, hvalue⟩
    rw [unpack_of_packs hvalue] at herror
    cases herror
  · cases hunpack : unpack bytes with
    | ok value => exact absurd ⟨value, unpack_eq_ok hunpack⟩ h
    | error e =>
      obtain ⟨offset, fault, rfl⟩ := unpack_eq_error hunpack
      exact ⟨offset, fault, rfl⟩

end Value

end ScriptHost

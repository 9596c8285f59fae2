import ScriptHost.Text.Incoming

/-!
# Encoded texts are read back

The bytes of a text are read as its characters, whatever bytes follow.

* `Utf8.length_encode` : the size of a text is the number of its bytes.
* `Utf8.lead?_ofNat`, `Utf8.contains_ofNat` : the reading of one byte in terms of its number.
* `Utf8.pieces_encode_append` : the bytes of a text are read as its characters.
* `Utf8.repair_encode` : nothing is repaired in the bytes of a text.
* `received_encode` : the bytes of a text from outside are that text.
-/

namespace ScriptHost.Text

namespace Utf8

/-! ## Bytes of a text -/

@[simp]
theorem encode_nil : encode [] = [] := rfl

theorem encode_cons (c : Char) (text : List Char) :
    encode (c :: text) = String.utf8EncodeChar c ++ encode text := rfl

@[simp]
theorem encode_append (l r : List Char) : encode (l ++ r) = encode l ++ encode r :=
  List.flatMap_append

@[simp]
theorem size_nil : size [] = 0 := rfl

@[simp]
theorem size_cons (c : Char) (text : List Char) : size (c :: text) = c.utf8Size + size text := rfl

theorem size_append (l r : List Char) : size (l ++ r) = size l + size r := by
  induction l with
  | nil => exact (Nat.zero_add _).symm
  | cons c l ih => rw [List.cons_append, size_cons, size_cons, ih, Nat.add_assoc]

theorem length_encode (text : List Char) : (encode text).length = size text := by
  induction text with
  | nil => rfl
  | cons c text ih =>
    rw [encode_cons, List.length_append, String.length_utf8EncodeChar, ih]
    rfl

/-- A character below 128 is its own byte. -/
theorem utf8EncodeChar_ascii {c : Char} (h : c.toNat < 128) :
    String.utf8EncodeChar c = [UInt8.ofNat c.toNat] := by
  unfold String.utf8EncodeChar
  exact if_pos (Nat.le_of_lt_succ h)

theorem encode_ascii {text : List Char} (h : ∀ c ∈ text, c.toNat < 128) :
    encode text = text.map fun c => UInt8.ofNat c.toNat := by
  induction text with
  | nil => rfl
  | cons c text ih =>
    obtain ⟨hc, htext⟩ := List.forall_mem_cons.mp h
    rw [encode_cons, utf8EncodeChar_ascii hc, ih htext]
    rfl

/-! ## Single bytes -/

theorem toNat_ofNat_of_lt {n : Nat} (h : n < 256) : (UInt8.ofNat n).toNat = n := by
  rw [UInt8.toNat_ofNat', Nat.mod_eq_of_lt h]

/-- What a first byte announces, in terms of its number. -/
theorem lead?_ofNat {n : Nat} (h : n < 256) :
    lead? (UInt8.ofNat n) =
      if n ≤ 0x7f then some (n, [])
      else if n < 0xc2 then none
      else if n ≤ 0xdf then some (n - 0xc0, [continuation])
      else if n = 0xe0 then some (0, [⟨0xa0, 0xbf⟩, continuation])
      else if n = 0xed then some (0xd, [⟨0x80, 0x9f⟩, continuation])
      else if n ≤ 0xef then some (n - 0xe0, [continuation, continuation])
      else if n = 0xf0 then some (0, [⟨0x90, 0xbf⟩, continuation, continuation])
      else if n ≤ 0xf3 then some (n - 0xf0, [continuation, continuation, continuation])
      else if n = 0xf4 then some (4, [⟨0x80, 0x8f⟩, continuation, continuation])
      else none := by
  simp only [lead?, UInt8.le_iff_toNat_le, UInt8.lt_iff_toNat_lt, ← UInt8.toNat_inj,
    toNat_ofNat_of_lt h, UInt8.reduceToNat]

theorem contains_iff {low high byte : UInt8} :
    ByteRange.contains ⟨low, high⟩ byte = true ↔
      low.toNat ≤ byte.toNat ∧ byte.toNat ≤ high.toNat := by
  simp only [ByteRange.contains, Bool.and_eq_true, decide_eq_true_eq, UInt8.le_iff_toNat_le]

theorem contains_ofNat {n : Nat} (h : n < 256) (low high : UInt8) :
    ByteRange.contains ⟨low, high⟩ (UInt8.ofNat n) = true ↔ low.toNat ≤ n ∧ n ≤ high.toNat := by
  rw [contains_iff, toNat_ofNat_of_lt h]

theorem continuation_contains_iff {byte : UInt8} :
    continuation.contains byte = true ↔ 0x80 ≤ byte.toNat ∧ byte.toNat ≤ 0xbf := contains_iff

theorem continuation_contains {n : Nat} (h : n < 64) :
    continuation.contains (UInt8.ofNat (n + 0x80)) = true := by
  rw [continuation_contains_iff, toNat_ofNat_of_lt (by omega)]
  omega

/-! ## Readings -/

theorem piecesFrom_start {byte : UInt8} {bits : Nat} {next : ByteRange} {later : List ByteRange}
    (h : lead? byte = some (bits, next :: later)) (bytes : List UInt8) :
    piecesFrom .between (byte :: bytes) = piecesFrom (.within bits next later) bytes := by
  simp only [piecesFrom, advance, start, h, List.nil_append]

theorem piecesFrom_more {next : ByteRange} {byte : UInt8} (h : next.contains byte = true)
    (bits : Nat) (next' : ByteRange) (later : List ByteRange) (bytes : List UInt8) :
    piecesFrom (.within bits next (next' :: later)) (byte :: bytes) =
      piecesFrom (.within (bits * 64 + byte.toNat % 64) next' later) bytes := by
  simp only [piecesFrom, advance, h, if_true, List.nil_append]

theorem piecesFrom_last {next : ByteRange} {byte : UInt8} (h : next.contains byte = true)
    (bits : Nat) (bytes : List UInt8) :
    piecesFrom (.within bits next []) (byte :: bytes) =
      .intact (Char.ofNat (bits * 64 + byte.toNat % 64)) :: piecesFrom .between bytes := by
  simp only [piecesFrom, advance, h, if_true, List.cons_append, List.nil_append]

theorem toNat_tail_mod (n : Nat) : (UInt8.ofNat (n % 0x40 + 0x80)).toNat % 64 = n % 64 := by
  rw [toNat_ofNat_of_lt (by omega)]
  omega

/-- The last byte of a character. -/
theorem piecesFrom_tail (n bits : Nat) (bytes : List UInt8) :
    piecesFrom (.within bits continuation []) (UInt8.ofNat (n % 0x40 + 0x80) :: bytes) =
      .intact (Char.ofNat (bits * 64 + n % 64)) :: piecesFrom .between bytes := by
  rw [piecesFrom_last (continuation_contains (Nat.mod_lt n (by decide))), toNat_tail_mod]

/-- The last two bytes of a character. -/
theorem piecesFrom_tail_two (n bits : Nat) (bytes : List UInt8) :
    piecesFrom (.within bits continuation [continuation])
        (UInt8.ofNat (n / 64 % 0x40 + 0x80) :: UInt8.ofNat (n % 0x40 + 0x80) :: bytes) =
      .intact (Char.ofNat ((bits * 64 + n / 64 % 64) * 64 + n % 64)) ::
        piecesFrom .between bytes := by
  rw [piecesFrom_more (continuation_contains (Nat.mod_lt _ (by decide))), toNat_tail_mod,
    piecesFrom_tail]

/-! ## Characters -/

theorem validCodePoint (c : Char) :
    c.val.toNat < 0xd800 ∨ (0xdfff < c.val.toNat ∧ c.val.toNat < 0x110000) := c.valid

theorem ofNat_eq {c : Char} {n : Nat} (h : n = c.val.toNat) : Char.ofNat n = c := by
  rw [h]
  exact Char.ofNat_toNat c

theorem lead?_two {v : Nat} (h : 0x7f < v) (h' : v ≤ 0x7ff) :
    lead? (UInt8.ofNat (v / 64 % 0x20 + 0xc0)) = some (v / 64, [continuation]) := by
  have hn : v / 64 % 0x20 + 0xc0 < 256 := by omega
  have hbits : v / 64 % 0x20 + 0xc0 - 0xc0 = v / 64 := by omega
  have hlead := lead?_ofNat hn
  rwa [if_neg (by omega), if_neg (by omega), if_pos (by omega), hbits] at hlead

/-- The first two bytes of a character of three. The second one is in the narrower range where the
first one sets one: long forms and surrogates are no characters. -/
theorem lead?_three {v : Nat} (h : 0x7ff < v) (h' : v ≤ 0xffff) (hs : v < 0xd800 ∨ 0xdfff < v) :
    ∃ next, lead? (UInt8.ofNat (v / 4096 % 0x10 + 0xe0)) =
        some (v / 4096, [next, continuation]) ∧
      next.contains (UInt8.ofNat (v / 64 % 0x40 + 0x80)) = true := by
  have hn : v / 4096 % 0x10 + 0xe0 < 256 := by omega
  have hlead := lead?_ofNat hn
  rw [if_neg (by omega), if_neg (by omega), if_neg (by omega)] at hlead
  rw [hlead]
  have hsecond : v / 64 % 0x40 + 0x80 < 256 := by omega
  by_cases hlong : v < 0x1000
  · refine ⟨⟨0xa0, 0xbf⟩, ?_, ?_⟩
    · rw [if_pos (by omega), show v / 4096 = 0 by omega]
    · rw [contains_ofNat hsecond]
      simp only [UInt8.reduceToNat]
      omega
  · by_cases hsurrogate : v / 4096 = 0xd
    · refine ⟨⟨0x80, 0x9f⟩, ?_, ?_⟩
      · rw [if_neg (by omega), if_pos (by omega), hsurrogate]
      · rw [contains_ofNat hsecond]
        simp only [UInt8.reduceToNat]
        omega
    · refine ⟨continuation, ?_, continuation_contains (Nat.mod_lt _ (by decide))⟩
      rw [if_neg (by omega), if_neg (by omega), if_pos (by omega),
        show v / 4096 % 0x10 + 0xe0 - 0xe0 = v / 4096 by omega]

/-- The first two bytes of a character of four, with the narrower ranges against long forms and
against what is past the last code point. -/
theorem lead?_four {v : Nat} (h : 0xffff < v) (h' : v < 0x110000) :
    ∃ next, lead? (UInt8.ofNat (v / 262144 % 0x08 + 0xf0)) =
        some (v / 262144, [next, continuation, continuation]) ∧
      next.contains (UInt8.ofNat (v / 4096 % 0x40 + 0x80)) = true := by
  have hn : v / 262144 % 0x08 + 0xf0 < 256 := by omega
  have hlead := lead?_ofNat hn
  rw [if_neg (by omega), if_neg (by omega), if_neg (by omega), if_neg (by omega),
    if_neg (by omega), if_neg (by omega)] at hlead
  rw [hlead]
  have hsecond : v / 4096 % 0x40 + 0x80 < 256 := by omega
  by_cases hlong : v < 0x40000
  · refine ⟨⟨0x90, 0xbf⟩, ?_, ?_⟩
    · rw [if_pos (by omega), show v / 262144 = 0 by omega]
    · rw [contains_ofNat hsecond]
      simp only [UInt8.reduceToNat]
      omega
  · by_cases hlast : v / 262144 = 4
    · refine ⟨⟨0x80, 0x8f⟩, ?_, ?_⟩
      · rw [if_neg (by omega), if_neg (by omega), if_pos (by omega), hlast]
      · rw [contains_ofNat hsecond]
        simp only [UInt8.reduceToNat]
        omega
    · refine ⟨continuation, ?_, continuation_contains (Nat.mod_lt _ (by decide))⟩
      rw [if_neg (by omega), if_pos (by omega),
        show v / 262144 % 0x08 + 0xf0 - 0xf0 = v / 262144 by omega]

/-- The bytes of a character are read as this character, whatever bytes follow. -/
theorem piecesFrom_encodeChar (c : Char) (bytes : List UInt8) :
    piecesFrom .between (String.utf8EncodeChar c ++ bytes) =
      .intact c :: piecesFrom .between bytes := by
  have hvalid := validCodePoint c
  unfold String.utf8EncodeChar
  dsimp only
  generalize hv : c.val.toNat = v at hvalid
  split
  · rename_i h1
    have hlead : lead? (UInt8.ofNat v) = some (v, []) := by
      rw [lead?_ofNat (by omega), if_pos h1]
    have hc : Char.ofNat v = c := ofNat_eq hv.symm
    simp only [List.cons_append, List.nil_append, piecesFrom, advance, start, hlead, hc]
  · rename_i h1
    split
    · rename_i h2
      have hlead := lead?_two (Nat.lt_of_not_le h1) h2
      have hc : Char.ofNat (v / 64 * 64 + v % 64) = c := ofNat_eq (by omega)
      rw [List.cons_append, List.cons_append, List.nil_append, piecesFrom_start hlead,
        piecesFrom_tail, hc]
    · rename_i h2
      split
      · rename_i h3
        obtain ⟨next, hlead, hnext⟩ := lead?_three (Nat.lt_of_not_le h2) h3 (by omega)
        have hc : Char.ofNat ((v / 4096 * 64 + v / 64 % 64) * 64 + v % 64) = c :=
          ofNat_eq (by omega)
        rw [List.cons_append, List.cons_append, List.cons_append, List.nil_append,
          piecesFrom_start hlead, piecesFrom_more hnext, toNat_tail_mod, piecesFrom_tail, hc]
      · rename_i h3
        obtain ⟨next, hlead, hnext⟩ := lead?_four (Nat.lt_of_not_le h3) (by omega)
        have hc : Char.ofNat (((v / 262144 * 64 + v / 4096 % 64) * 64 + v / 64 % 64) * 64 + v % 64)
            = c := ofNat_eq (by omega)
        rw [List.cons_append, List.cons_append, List.cons_append, List.cons_append,
          List.nil_append, piecesFrom_start hlead, piecesFrom_more hnext, toNat_tail_mod,
          piecesFrom_tail_two, hc]

/-! ## Texts -/

/-- The bytes of a text are read as its characters, whatever bytes follow. -/
theorem pieces_encode_append (text : List Char) (bytes : List UInt8) :
    pieces (encode text ++ bytes) = text.map .intact ++ pieces bytes := by
  induction text with
  | nil => rfl
  | cons c text ih =>
    rw [encode_cons, List.append_assoc, pieces, piecesFrom_encodeChar]
    exact congrArg _ ih

@[simp]
theorem pieces_encode (text : List Char) : pieces (encode text) = text.map .intact := by
  have h := pieces_encode_append text []
  rw [List.append_nil] at h
  rw [h]
  exact List.append_nil _

/-- Nothing is repaired in the bytes of a text. -/
@[simp]
theorem repair_encode (text : List Char) : repair (encode text) = text := by
  rw [repair, pieces_encode, List.map_map]
  exact List.map_id text

theorem check_encode (text : List Char) : check (encode text) = .ok (String.ofList text) := by
  have hvalid : (encode text).toByteArray.IsValidUTF8 := ⟨text, rfl⟩
  rw [check, String.fromUTF8?, dif_pos hvalid]
  refine congrArg Except.ok (String.toByteArray_inj.mp ?_)
  rw [String.toByteArray_ofList]
  rfl

end Utf8

theorem received_encode (text : String) : received (Utf8.encode text.toList) = text := by
  rw [received, Utf8.check_encode, String.ofList_toList]

end ScriptHost.Text

import Mathlib.Data.List.Forall2
import ScriptHost.Proofs.Text.Utf8
import ScriptHost.Text.Damage

/-!
# The bytes of one character

The first byte of a character announces the ranges of the bytes that follow, and whatever follows it
in these ranges makes it a character.

* `Utf8.Follow` : bytes that lie one by one in given ranges.
* `Utf8.encodeChar_follows` : the bytes of a character lie in the ranges that it announces.
* `Utf8.exists_encodeChar` : bytes that lie in the announced ranges are those of a character.
* `Utf8.isBrokenOff_iff` : the starts of characters in terms of the announced ranges.
-/

namespace ScriptHost.Text.Utf8

/-- Bytes that lie one by one in given ranges. -/
abbrev Follow (ranges : List ByteRange) (bytes : List UInt8) : Prop :=
  List.Forall₂ (fun range byte => range.contains byte = true) ranges bytes

/-! ## From the character to the ranges -/

/-- The bytes of a character lie in the ranges that the first one announces. -/
theorem encodeChar_follows (c : Char) :
    ∃ byte more bits ranges, String.utf8EncodeChar c = byte :: more ∧
      lead? byte = some (bits, ranges) ∧ Follow ranges more := by
  have hvalid := validCodePoint c
  have htail : ∀ n, continuation.contains (UInt8.ofNat (n % 0x40 + 0x80)) = true :=
    fun n => continuation_contains (Nat.mod_lt n (by decide))
  unfold String.utf8EncodeChar
  dsimp only
  generalize c.val.toNat = v at hvalid
  split
  · rename_i h1
    have hlead : lead? (UInt8.ofNat v) = some (v, []) := by
      rw [lead?_ofNat (by omega), if_pos h1]
    exact ⟨_, _, _, _, rfl, hlead, .nil⟩
  · rename_i h1
    split
    · rename_i h2
      exact ⟨_, _, _, _, rfl, lead?_two (by omega) h2, .cons (htail v) .nil⟩
    · rename_i h2
      split
      · rename_i h3
        obtain ⟨next, hlead, hnext⟩ := lead?_three (by omega) h3 (by omega)
        exact ⟨_, _, _, _, rfl, hlead, .cons hnext (.cons (htail v) .nil)⟩
      · rename_i h3
        obtain ⟨next, hlead, hnext⟩ := lead?_four (by omega) (by omega : v < 0x110000)
        exact ⟨_, _, _, _, rfl, hlead, .cons hnext (.cons (htail _) (.cons (htail v) .nil))⟩

/-! ## From the ranges to the character -/

theorem toNat_ofNat_of_valid {v : Nat} (h : v < 0xd800 ∨ (0xdfff < v ∧ v < 0x110000)) :
    (Char.ofNat v).val.toNat = v := by
  have hvalid : v.isValidChar := h
  rw [Char.ofNat, dif_pos hvalid]
  rfl

theorem encodeChar_one {a : UInt8} (ha : a.toNat ≤ 0x7f) :
    String.utf8EncodeChar (Char.ofNat a.toNat) = [a] := by
  have hv := toNat_ofNat_of_valid (v := a.toNat) (by omega)
  rw [utf8EncodeChar_ascii (by simp only [Char.toNat, hv]; omega)]
  simp only [Char.toNat, hv, UInt8.ofNat_toNat]

theorem encodeChar_two {a b : UInt8} (ha : 0xc2 ≤ a.toNat ∧ a.toNat ≤ 0xdf)
    (hb : 0x80 ≤ b.toNat ∧ b.toNat ≤ 0xbf) :
    String.utf8EncodeChar (Char.ofNat ((a.toNat - 0xc0) * 64 + (b.toNat - 0x80))) = [a, b] := by
  have hv := toNat_ofNat_of_valid (v := (a.toNat - 0xc0) * 64 + (b.toNat - 0x80)) (by omega)
  generalize hval : (a.toNat - 0xc0) * 64 + (b.toNat - 0x80) = v at hv
  have h1 : v / 64 % 0x20 + 0xc0 = a.toNat := by omega
  have h2 : v % 0x40 + 0x80 = b.toNat := by omega
  unfold String.utf8EncodeChar
  dsimp only
  rw [hv, if_neg (by omega), if_pos (by omega), h1, h2, UInt8.ofNat_toNat, UInt8.ofNat_toNat]

/-- A character of three bytes. Long forms and surrogates are kept out by the second byte. -/
theorem encodeChar_three {a b c : UInt8} (ha : 0xe0 ≤ a.toNat ∧ a.toNat ≤ 0xef)
    (hb : 0x80 ≤ b.toNat ∧ b.toNat ≤ 0xbf) (hc : 0x80 ≤ c.toNat ∧ c.toNat ≤ 0xbf)
    (hlong : a.toNat = 0xe0 → 0xa0 ≤ b.toNat) (hsurrogate : a.toNat = 0xed → b.toNat ≤ 0x9f) :
    String.utf8EncodeChar (Char.ofNat
      ((a.toNat - 0xe0) * 4096 + (b.toNat - 0x80) * 64 + (c.toNat - 0x80))) = [a, b, c] := by
  have hv := toNat_ofNat_of_valid
    (v := (a.toNat - 0xe0) * 4096 + (b.toNat - 0x80) * 64 + (c.toNat - 0x80)) (by omega)
  generalize hval : (a.toNat - 0xe0) * 4096 + (b.toNat - 0x80) * 64 + (c.toNat - 0x80) = v at hv
  have h1 : v / 4096 % 0x10 + 0xe0 = a.toNat := by omega
  have h2 : v / 64 % 0x40 + 0x80 = b.toNat := by omega
  have h3 : v % 0x40 + 0x80 = c.toNat := by omega
  unfold String.utf8EncodeChar
  dsimp only
  rw [hv, if_neg (by omega), if_neg (by omega), if_pos (by omega), h1, h2, h3]
  simp only [UInt8.ofNat_toNat]

/-- A character of four bytes. Long forms and what is past the last code point are kept out by the
second byte. -/
theorem encodeChar_four {a b c d : UInt8} (ha : 0xf0 ≤ a.toNat ∧ a.toNat ≤ 0xf4)
    (hb : 0x80 ≤ b.toNat ∧ b.toNat ≤ 0xbf) (hc : 0x80 ≤ c.toNat ∧ c.toNat ≤ 0xbf)
    (hd : 0x80 ≤ d.toNat ∧ d.toNat ≤ 0xbf) (hlong : a.toNat = 0xf0 → 0x90 ≤ b.toNat)
    (hlast : a.toNat = 0xf4 → b.toNat ≤ 0x8f) :
    String.utf8EncodeChar (Char.ofNat ((a.toNat - 0xf0) * 262144 + (b.toNat - 0x80) * 4096 +
      (c.toNat - 0x80) * 64 + (d.toNat - 0x80))) = [a, b, c, d] := by
  have hv := toNat_ofNat_of_valid
    (v := (a.toNat - 0xf0) * 262144 + (b.toNat - 0x80) * 4096 + (c.toNat - 0x80) * 64 +
      (d.toNat - 0x80)) (by omega)
  generalize hval : (a.toNat - 0xf0) * 262144 + (b.toNat - 0x80) * 4096 + (c.toNat - 0x80) * 64 +
    (d.toNat - 0x80) = v at hv
  have h1 : v / 262144 % 0x08 + 0xf0 = a.toNat := by omega
  have h2 : v / 4096 % 0x40 + 0x80 = b.toNat := by omega
  have h3 : v / 64 % 0x40 + 0x80 = c.toNat := by omega
  have h4 : v % 0x40 + 0x80 = d.toNat := by omega
  unfold String.utf8EncodeChar
  dsimp only
  rw [hv, if_neg (by omega), if_neg (by omega), if_neg (by omega), h1, h2, h3, h4]
  simp only [UInt8.ofNat_toNat]

/-- What a byte announces that begins a character. -/
theorem lead?_cases {byte : UInt8} {bits : Nat} {ranges : List ByteRange}
    (h : lead? byte = some (bits, ranges)) :
    (byte.toNat ≤ 0x7f ∧ ranges = []) ∨
    ((0xc2 ≤ byte.toNat ∧ byte.toNat ≤ 0xdf) ∧ ranges = [continuation]) ∨
    ∃ low high : UInt8, (0x80 ≤ low.toNat ∧ low.toNat ≤ high.toNat ∧ high.toNat ≤ 0xbf) ∧
      ((ranges = [⟨low, high⟩, continuation] ∧ (0xe0 ≤ byte.toNat ∧ byte.toNat ≤ 0xef) ∧
          (byte.toNat = 0xe0 → 0xa0 ≤ low.toNat) ∧ (byte.toNat = 0xed → high.toNat ≤ 0x9f)) ∨
        (ranges = [⟨low, high⟩, continuation, continuation] ∧
          (0xf0 ≤ byte.toNat ∧ byte.toNat ≤ 0xf4) ∧
          (byte.toNat = 0xf0 → 0x90 ≤ low.toNat) ∧ (byte.toNat = 0xf4 → high.toNat ≤ 0x8f))) := by
  have htable := lead?_ofNat byte.toNat_lt
  rw [UInt8.ofNat_toNat, h] at htable
  generalize byte.toNat = n at htable ⊢
  split at htable
  · simp only [Option.some.injEq, Prod.mk.injEq] at htable
    exact .inl ⟨‹_›, htable.2⟩
  split at htable
  · cases htable
  split at htable
  · simp only [Option.some.injEq, Prod.mk.injEq] at htable
    exact .inr (.inl ⟨by omega, htable.2⟩)
  refine .inr (.inr ?_)
  repeat' split at htable
  all_goals simp only [Option.some.injEq, Prod.mk.injEq, reduceCtorEq] at htable
  · refine ⟨0xa0, 0xbf, by decide, .inl ⟨htable.2, ?_⟩⟩
    simp only [UInt8.reduceToNat]
    omega
  · refine ⟨0x80, 0x9f, by decide, .inl ⟨htable.2, ?_⟩⟩
    simp only [UInt8.reduceToNat]
    omega
  · refine ⟨0x80, 0xbf, by decide, .inl ⟨htable.2, ?_⟩⟩
    simp only [UInt8.reduceToNat]
    omega
  · refine ⟨0x90, 0xbf, by decide, .inr ⟨htable.2, ?_⟩⟩
    simp only [UInt8.reduceToNat]
    omega
  · refine ⟨0x80, 0xbf, by decide, .inr ⟨htable.2, ?_⟩⟩
    simp only [UInt8.reduceToNat]
    omega
  · refine ⟨0x80, 0x8f, by decide, .inr ⟨htable.2, ?_⟩⟩
    simp only [UInt8.reduceToNat]
    omega

/-- Bytes that lie in the ranges that their first one announces are those of a character. -/
theorem exists_encodeChar {byte : UInt8} {bits : Nat} {ranges : List ByteRange}
    {more : List UInt8} (hlead : lead? byte = some (bits, ranges)) (hmore : Follow ranges more) :
    ∃ c, String.utf8EncodeChar c = byte :: more := by
  rcases lead?_cases hlead with ⟨hbyte, rfl⟩ | ⟨hbyte, rfl⟩ | ⟨low, high, hrange, hthree | hfour⟩
  · cases hmore
    exact ⟨_, encodeChar_one hbyte⟩
  · obtain _ | ⟨hb, _ | _⟩ := hmore
    exact ⟨_, encodeChar_two hbyte (continuation_contains_iff.mp hb)⟩
  · obtain ⟨rfl, hbyte, hlong, hsurrogate⟩ := hthree
    obtain _ | ⟨hb, _ | ⟨hc, _ | _⟩⟩ := hmore
    rw [contains_iff] at hb
    exact ⟨_, encodeChar_three hbyte (by omega) (continuation_contains_iff.mp hc) (by omega)
      (by omega)⟩
  · obtain ⟨rfl, hbyte, hlong, hlast⟩ := hfour
    obtain _ | ⟨hb, _ | ⟨hc, _ | ⟨hd, _ | _⟩⟩⟩ := hmore
    rw [contains_iff] at hb
    exact ⟨_, encodeChar_four hbyte (by omega) (continuation_contains_iff.mp hc)
      (continuation_contains_iff.mp hd) (by omega) (by omega)⟩

/-! ## The announced ranges -/

/-- All announced ranges lie among the bytes that begin no character, and none is empty. -/
theorem range_of_lead? {byte : UInt8} {bits : Nat} {ranges : List ByteRange}
    (h : lead? byte = some (bits, ranges)) {range : ByteRange} (hrange : range ∈ ranges) :
    0x80 ≤ range.low.toNat ∧ range.low.toNat ≤ range.high.toNat ∧ range.high.toNat ≤ 0xbf := by
  rcases lead?_cases h with ⟨_, rfl⟩ | ⟨_, rfl⟩ | ⟨low, high, hbounds, ⟨rfl, _⟩ | ⟨rfl, _⟩⟩ <;>
    simp only [List.mem_cons, List.not_mem_nil, or_false, or_self] at hrange
  · subst hrange
    decide
  · rcases hrange with rfl | rfl
    · exact hbounds
    · decide
  · rcases hrange with rfl | rfl
    · exact hbounds
    · decide

/-- The lowest bytes of ranges that were announced lie in these ranges. -/
theorem follow_lows {byte : UInt8} {bits : Nat} {passed ranges : List ByteRange}
    (h : lead? byte = some (bits, passed ++ ranges)) :
    Follow ranges (ranges.map ByteRange.low) := by
  apply List.forall₂_map_right_iff.mpr
  apply List.forall₂_same.mpr
  intro range hrange
  obtain ⟨_, hle, _⟩ := range_of_lead? h (List.mem_append_right _ hrange)
  exact contains_iff.mpr ⟨Nat.le_refl _, hle⟩

/-! ## Characters that are broken off -/

/-- The first bytes of a character, but not all, lie in the first of the ranges that it announces,
but not in all. -/
theorem isBrokenOff_iff {front : List UInt8} :
    IsBrokenOff front ↔ ∃ byte middle bits passed next later, front = byte :: middle ∧
      lead? byte = some (bits, passed ++ next :: later) ∧ Follow passed middle := by
  constructor
  · rintro ⟨hne, c, ⟨missing, hmissing⟩, hwhole⟩
    obtain ⟨byte, more, bits, ranges, hbytes, hlead, hfollow⟩ := encodeChar_follows c
    cases front with
    | nil => exact absurd rfl hne
    | cons first middle =>
      rw [hbytes, List.cons_append, List.cons.injEq] at hmissing
      obtain ⟨rfl, rfl⟩ := hmissing
      have hpassed := List.forall₂_take_append _ _ _ hfollow
      have hrest := List.forall₂_drop_append _ _ _ hfollow
      cases missing with
      | nil =>
        rw [List.append_nil] at hbytes
        exact absurd hbytes.symm hwhole
      | cons last missing =>
        obtain ⟨next, later, _, _, hsplit⟩ := List.forall₂_cons_right_iff.mp hrest
        refine ⟨first, middle, bits, ranges.take middle.length, next, later, rfl, ?_, hpassed⟩
        rw [← hsplit, List.take_append_drop]
        exact hlead
  · rintro ⟨byte, middle, bits, passed, next, later, rfl, hlead, hpassed⟩
    have hmissing := follow_lows hlead
    obtain ⟨c, hc⟩ := exists_encodeChar hlead (List.rel_append hpassed hmissing)
    refine ⟨List.cons_ne_nil _ _, c, ⟨_, (hc.trans (List.cons_append ..)).symm⟩, ?_⟩
    intro heq
    have hlength := congrArg List.length (heq.trans hc)
    simp at hlength

end ScriptHost.Text.Utf8

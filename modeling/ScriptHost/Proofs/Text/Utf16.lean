import ScriptHost.Proofs.Text.Character
import ScriptHost.Text.Utf16

/-!
# Units of sixteen and of thirty-two bits

A text is read back from its units, and units are written back from what is read of them, but for
the surrogates that have no partner. Partners stand side by side, the high one first; since no unit
is both high and low, no surrogate has more than one partner.

* `Utf16.pairAt`, `Utf16.isLone` : the surrogates with and without a partner.
* `Utf16.mended` : units with a replacement for every surrogate that has no partner.
* `Utf16.decode_encode`, `Utf16.encode_decode` : reading and writing undo each other.
* `Utf16.length_encode` : the number of units.
* `Utf32.decodeOne_encode`, `Utf32.encode_decodeOne` : the characters of codes.
-/

namespace ScriptHost.Text

/-! ## Codes -/

namespace Utf32

/-- The codes of characters. -/
def IsScalar (code : Nat) : Prop := code < 0xd800 ∨ (0xdfff < code ∧ code < 0x110000)

instance (code : Nat) : Decidable (IsScalar code) := inferInstanceAs (Decidable (_ ∨ _))

theorem isScalar_toNat (c : Char) : IsScalar c.toNat := Utf8.validCodePoint c

theorem toNat_decodeOne {code : Nat} (h : IsScalar code) : (decodeOne code).toNat = code := by
  have hvalid : code.isValidChar := h
  rw [decodeOne, if_pos hvalid]
  exact Utf8.toNat_ofNat_of_valid h

theorem decodeOne_of_not_scalar {code : Nat} (h : ¬ IsScalar code) :
    decodeOne code = replacement := if_neg h

@[simp]
theorem decodeOne_toNat (c : Char) : decodeOne c.toNat = c :=
  Char.toNat_inj.mp (toNat_decodeOne (isScalar_toNat c))

/-- The characters of its codes make up a text. -/
theorem decodeOne_encode (text : List Char) :
    (encode text).flatMap (fun code => [decodeOne code.toNat]) = text := by
  have hone : ∀ c ∈ text, [decodeOne c.val.toNat] = [c] := by
    intro c _
    exact congrArg (fun d => [d]) (decodeOne_toNat c)
  rw [encode, List.flatMap_map]
  exact (List.flatMap_congr hone).trans (List.flatMap_singleton' text)

/-- The code of the character of a code is this code, if some character has it. -/
theorem encode_decodeOne (code : UInt32) :
    encode [decodeOne code.toNat] = if IsScalar code.toNat then [code] else [0xfffd] := by
  by_cases hscalar : IsScalar code.toNat
  · have hcode : (decodeOne code.toNat).val = code :=
      UInt32.toNat_inj.mp (toNat_decodeOne hscalar)
    rw [if_pos hscalar, encode, List.map_singleton, hcode]
  · rw [if_neg hscalar, decodeOne_of_not_scalar hscalar]
    rfl

end Utf32

open Utf32

namespace Utf16

/-! ## Surrogates -/

/-- Whether a unit is one half of a pair. -/
def isSurrogate (unit : UInt16) : Bool := isHigh unit || isLow unit

/-- Whether a surrogate pair begins at a position. -/
def pairAt (units : List UInt16) (position : Nat) : Bool :=
  units[position]?.any isHigh && units[position + 1]?.any isLow

/-- Whether there is a surrogate at a position without a partner behind it or in front of it. -/
def isLone (units : List UInt16) (position : Nat) : Bool :=
  units[position]?.any isSurrogate && !pairAt units position &&
    !(0 < position && pairAt units (position - 1))

/-- The unit of the replacement character. -/
def replacementUnit : UInt16 := 0xfffd

/-- Units with a replacement for every surrogate that has no partner. -/
def mended (units : List UInt16) : List UInt16 :=
  units.mapIdx fun position unit => if isLone units position then replacementUnit else unit

theorem isHigh_iff {unit : UInt16} :
    isHigh unit = true ↔ 0xd800 ≤ unit.toNat ∧ unit.toNat ≤ 0xdbff := by
  simp [isHigh, UInt16.le_iff_toNat_le]

theorem isLow_iff {unit : UInt16} :
    isLow unit = true ↔ 0xdc00 ≤ unit.toNat ∧ unit.toNat ≤ 0xdfff := by
  simp [isLow, UInt16.le_iff_toNat_le]

theorem isSurrogate_iff {unit : UInt16} : isSurrogate unit = true ↔ ¬ IsScalar unit.toNat := by
  have hlt := unit.toNat_lt
  rw [isSurrogate, Bool.or_eq_true, isHigh_iff, isLow_iff, IsScalar]
  omega

theorem pairAt_succ (unit : UInt16) (units : List UInt16) (position : Nat) :
    pairAt (unit :: units) (position + 1) = pairAt units position := rfl

/-- A surrogate looks no further than to its neighbours. -/
theorem isLone_succ_succ (unit : UInt16) (units : List UInt16) (position : Nat) :
    isLone (unit :: units) (position + 2) = isLone units (position + 1) := by
  simp [isLone, pairAt_succ]

theorem isLone_succ {unit : UInt16} {units : List UInt16} (h : pairAt (unit :: units) 0 = false)
    (position : Nat) : isLone (unit :: units) (position + 1) = isLone units position := by
  cases position with
  | zero => simp [isLone, pairAt_succ, h]
  | succ position => exact isLone_succ_succ unit units position

theorem mended_cons {unit : UInt16} {units : List UInt16} (h : pairAt (unit :: units) 0 = false) :
    mended (unit :: units) =
      (if isSurrogate unit then replacementUnit else unit) :: mended units := by
  rw [mended, List.mapIdx_cons, mended]
  simp only [isLone_succ h]
  simp [isLone, h]

theorem isHigh_eq_false_of_isLow {unit : UInt16} (h : isLow unit = true) : isHigh unit = false := by
  rw [isLow_iff] at h
  rw [← Bool.not_eq_true, isHigh_iff]
  omega

theorem mended_pair {high low : UInt16} (hhigh : isHigh high = true) (hlow : isLow low = true)
    (units : List UInt16) : mended (high :: low :: units) = high :: low :: mended units := by
  have hpair : pairAt (high :: low :: units) 0 = true := by simp [pairAt, hhigh, hlow]
  have hnone : pairAt (low :: units) 0 = false := by
    simp [pairAt, isHigh_eq_false_of_isLow hlow]
  rw [mended, List.mapIdx_cons, List.mapIdx_cons, mended]
  simp only [isLone_succ_succ, isLone_succ hnone, Nat.add_assoc]
  simp [isLone, hpair]

/-- Only what has no partner is replaced. -/
theorem mended_eq_self_iff {units : List UInt16} :
    mended units = units ↔ ∀ position, isLone units position = false := by
  constructor
  · intro h position
    by_contra hlone
    rw [Bool.not_eq_false] at hlone
    obtain ⟨unit, hunit, hsurrogate⟩ : ∃ unit, units[position]? = some unit ∧
        isSurrogate unit = true := by
      rw [isLone, Bool.and_eq_true, Bool.and_eq_true, Option.any_eq_true] at hlone
      exact hlone.1.1
    have hreplaced : (mended units)[position]? = some replacementUnit := by
      rw [mended, List.getElem?_mapIdx, hunit, Option.map_some, if_pos hlone]
    rw [h, hunit] at hreplaced
    cases hreplaced
    cases hsurrogate
  · intro h
    rw [mended]
    simp only [h, Bool.false_eq_true, if_false]
    exact List.mapIdx_eq_iff.mpr fun _ => Option.map_id'.symm

/-! ## Characters -/

/-- A unit that stands alone is written back, unless it is a surrogate. -/
theorem encodeChar_decodeOne (unit : UInt16) :
    encodeChar (decodeOne unit.toNat) = [if isSurrogate unit then replacementUnit else unit] := by
  by_cases hscalar : IsScalar unit.toNat
  · rw [if_neg (by rwa [isSurrogate_iff, not_not]), encodeChar, toNat_decodeOne hscalar,
      if_pos unit.toNat_lt, UInt16.ofNat_toNat]
  · rw [if_pos (isSurrogate_iff.mpr hscalar), decodeOne_of_not_scalar hscalar]
    rfl

theorem toNat_pair {high low : UInt16} (hhigh : isHigh high = true) (hlow : isLow low = true) :
    (pair high low).toNat =
      0x10000 + (high.toNat - 0xd800) * 0x400 + (low.toNat - 0xdc00) := by
  rw [isHigh_iff] at hhigh
  rw [isLow_iff] at hlow
  exact Utf8.toNat_ofNat_of_valid (by omega)

/-- A pair is written back. -/
theorem encodeChar_pair {high low : UInt16} (hhigh : isHigh high = true)
    (hlow : isLow low = true) : encodeChar (pair high low) = [high, low] := by
  rw [encodeChar, toNat_pair hhigh hlow, if_neg (by omega)]
  rw [isHigh_iff] at hhigh
  rw [isLow_iff] at hlow
  dsimp only
  generalize habove :
    0x10000 + (high.toNat - 0xd800) * 0x400 + (low.toNat - 0xdc00) - 0x10000 = above
  rw [show 0xd800 + above / 0x400 = high.toNat by omega,
    show 0xdc00 + above % 0x400 = low.toNat by omega, UInt16.ofNat_toNat, UInt16.ofNat_toNat]

theorem decode_cons {unit : UInt16} {units : List UInt16} (h : pairAt (unit :: units) 0 = false) :
    decode (unit :: units) = decodeOne unit.toNat :: decode units := by
  cases units with
  | nil => rfl
  | cons next rest =>
    have hnone : (isHigh unit && isLow next) = false := h
    rw [decode, hnone]
    rfl

theorem decode_pair {high low : UInt16} (hhigh : isHigh high = true) (hlow : isLow low = true)
    (units : List UInt16) : decode (high :: low :: units) = pair high low :: decode units := by
  rw [decode, hhigh, hlow]
  rfl

/-- The units of a character are read as this character, whatever units follow. -/
theorem decode_encodeChar (c : Char) (units : List UInt16) :
    decode (encodeChar c ++ units) = c :: decode units := by
  have hvalid := isScalar_toNat c
  rw [IsScalar] at hvalid
  rw [encodeChar]
  split
  · rename_i hplane
    have hunit := UInt16.toNat_ofNat_of_lt' hplane
    have hsurrogate : isSurrogate (UInt16.ofNat c.toNat) = false := by
      rw [← Bool.not_eq_true, isSurrogate_iff, hunit, not_not]
      exact hvalid
    have hnone : pairAt (UInt16.ofNat c.toNat :: units) 0 = false := by
      rw [isSurrogate, Bool.or_eq_false_iff] at hsurrogate
      simp [pairAt, hsurrogate.1]
    rw [List.singleton_append, decode_cons hnone, hunit, decodeOne_toNat]
  · rename_i hplane
    dsimp only
    generalize habove : c.toNat - 0x10000 = above
    have hhigh := UInt16.toNat_ofNat_of_lt' (show 0xd800 + above / 0x400 < 0x10000 by omega)
    have hlow := UInt16.toNat_ofNat_of_lt' (show 0xdc00 + above % 0x400 < 0x10000 by omega)
    have hisHigh := isHigh_iff.mpr (by rw [hhigh]; omega)
    have hisLow := isLow_iff.mpr (by rw [hlow]; omega)
    rw [List.cons_append, List.singleton_append, decode_pair hisHigh hisLow, List.cons.injEq,
      ← Char.toNat_inj, toNat_pair hisHigh hisLow, hhigh, hlow]
    exact ⟨by omega, rfl⟩

/-! ## Texts -/

theorem encode_cons (c : Char) (text : List Char) :
    encode (c :: text) = encodeChar c ++ encode text := rfl

/-- A text is read back from its units. -/
@[simp]
theorem decode_encode (text : List Char) : decode (encode text) = text := by
  induction text with
  | nil => rfl
  | cons c text ih => rw [encode_cons, decode_encodeChar, ih]

/-- What is read of units is written back with replacements for the surrogates without partners. -/
theorem encode_decode (units : List UInt16) : encode (decode units) = mended units := by
  fun_induction decode units with
  | case1 => rfl
  | case2 unit =>
    have hnone : pairAt [unit] 0 = false := by simp [pairAt]
    rw [mended_cons hnone]
    exact (List.append_nil _).trans (encodeChar_decodeOne unit)
  | case3 unit next rest hpair ih =>
    rw [Bool.and_eq_true] at hpair
    rw [encode_cons, encodeChar_pair hpair.1 hpair.2, ih, mended_pair hpair.1 hpair.2]
    rfl
  | case4 unit next rest hnone ih =>
    have hpair : pairAt (unit :: next :: rest) 0 = false := Bool.not_eq_true _ ▸ hnone
    rw [encode_cons, encodeChar_decodeOne, ih, mended_cons hpair]
    rfl

/-- A first half in front of another one, a second half in front of any, and a first half at the
end are lone. -/
example : encode (decode [0xd801, 0xd801, 0xdc37, 0xdc37, 0x61, 0xd801]) =
    [0xfffd, 0xd801, 0xdc37, 0xfffd, 0x61, 0xfffd] := by decide

/-- There is one unit for every character, and a second one for those past the first plane. -/
theorem length_encode (text : List Char) :
    (encode text).length = text.length + text.countP fun c => 0xffff < c.toNat := by
  induction text with
  | nil => rfl
  | cons c text ih =>
    rw [encode_cons, List.length_append, ih, List.length_cons, List.countP_cons, encodeChar]
    by_cases hplane : c.toNat < 0x10000
    · rw [if_pos hplane, if_neg (by rw [decide_eq_true_eq]; omega)]
      simp only [List.length_singleton]
      omega
    · rw [if_neg hplane, if_pos (by rw [decide_eq_true_eq]; omega)]
      simp only [List.length_cons, List.length_nil]
      omega

end Utf16

end ScriptHost.Text

import ScriptHost.Proofs.Comparison.Lawful
import ScriptHost.Proofs.Text.Utf8

/-!
# The order of bytes is the order of code points

The first byte of a character grows with its code point, and where two characters share it, the
bits behind it are written in as many bytes, the highest ones first. So the first byte in which two
texts differ decides as the first character does in which they differ.

* `Utf8.encodeChar_eq` : the bytes of a character by their number.
* `compareBytes_sixes`, `compareBytes_encodeChar` : bytes that begin with different characters.
* `compare_eq_compareCodePoints` : texts are compared by their code points.
* `ordered_by_code_points` : the order of texts, and what is sorted by it.
-/

namespace ScriptHost.Text

namespace Utf8

/-! ## The bytes of a character by their number -/

/-- How many bytes follow the first one of a character. -/
def followers (code : Nat) : Nat :=
  if code ≤ 0x7f then 0 else if code ≤ 0x7ff then 1 else if code ≤ 0xffff then 2 else 3

/-- The first byte of a character without its bits. It tells how many others follow. -/
def mark : Nat → Nat
  | 0 => 0
  | 1 => 0xc0
  | 2 => 0xe0
  | _ => 0xf0

/-- The last `count` bytes of a character, with six bits each. -/
def sixes : Nat → Nat → List UInt8
  | 0, _ => []
  | count + 1, code => UInt8.ofNat (code / 64 ^ count % 64 + 0x80) :: sixes count code

/-- The first byte has the bits that do not fit into the others. -/
def leading (code : Nat) : Nat := code / 64 ^ followers code + mark (followers code)

theorem encodeChar_eq (c : Char) :
    String.utf8EncodeChar c =
      UInt8.ofNat (leading c.toNat) :: sixes (followers c.toNat) c.toNat := by
  have hvalid := validCodePoint c
  unfold String.utf8EncodeChar leading followers
  rw [Char.toNat]
  dsimp only
  generalize c.val.toNat = v at hvalid ⊢
  split
  · simp only [sixes, mark, Nat.pow_zero, Nat.div_one, Nat.add_zero]
  · split
    · simp only [sixes, mark, Nat.reducePow, Nat.div_one, show v / 64 % 0x20 = v / 64 by omega]
    · split
      · simp only [sixes, mark, Nat.reducePow, Nat.div_one,
          show v / 4096 % 0x10 = v / 4096 by omega]
      · simp only [sixes, mark, Nat.reducePow, Nat.div_one,
          show v / 262144 % 0x08 = v / 262144 by omega]

/-- The first byte grows with the code point. -/
theorem leading_mono {a b : Nat} (h : a ≤ b) : leading a ≤ leading b := by
  unfold leading followers
  repeat' split
  all_goals simp only [mark, Nat.reducePow]
  all_goals omega

theorem leading_lt (c : Char) : leading c.toNat < 256 := by
  have hvalid := validCodePoint c
  rw [Char.toNat]
  unfold leading followers
  repeat' split
  all_goals simp only [mark, Nat.reducePow]
  all_goals omega

/-- The first byte tells how many others follow. -/
theorem followers_eq_of_leading_eq {c d : Char} (h : leading c.toNat = leading d.toNat) :
    followers c.toNat = followers d.toNat := by
  have hc := validCodePoint c
  have hd := validCodePoint d
  rw [Char.toNat, Char.toNat] at h ⊢
  unfold leading followers at h
  unfold followers
  repeat' split
  all_goals simp only [*, mark, Nat.reducePow, if_true, if_false] at h
  all_goals omega

end Utf8

open Utf8

/-! ## The first difference -/

theorem compareBytes_self_cons (byte : UInt8) (l r : List UInt8) :
    compareBytes (byte :: l) (byte :: r) = compareBytes l r := by
  rw [compareBytes, if_neg (UInt8.lt_irrefl byte), if_neg (UInt8.lt_irrefl byte)]

theorem compareBytes_self_append (front l r : List UInt8) :
    compareBytes (front ++ l) (front ++ r) = compareBytes l r := by
  induction front with
  | nil => rfl
  | cons byte front ih => rw [List.cons_append, List.cons_append, compareBytes_self_cons, ih]

theorem compareBytes_of_lt {a b : Nat} (h : a < b) (hb : b < 256) (l r : List UInt8) :
    compareBytes (UInt8.ofNat a :: l) (UInt8.ofNat b :: r) = .lt := by
  have hlt : UInt8.ofNat a < UInt8.ofNat b := by
    rwa [UInt8.lt_iff_toNat_lt, toNat_ofNat_of_lt (h.trans hb), toNat_ofNat_of_lt hb]
  rw [compareBytes, if_pos hlt]

/-- Bits of equally many bytes are compared with the highest ones first. -/
theorem compareBytes_sixes {count a b : Nat} (h : a % 64 ^ count < b % 64 ^ count)
    (l r : List UInt8) : compareBytes (sixes count a ++ l) (sixes count b ++ r) = .lt := by
  induction count with
  | zero => simp [Nat.mod_one] at h
  | succ count ih =>
    rw [sixes, sixes, List.cons_append, List.cons_append]
    have hbits : b / 64 ^ count % 64 < 64 := Nat.mod_lt _ (by decide)
    rcases Nat.lt_trichotomy (a / 64 ^ count % 64) (b / 64 ^ count % 64) with hlt | heq | hgt
    · exact compareBytes_of_lt (Nat.add_lt_add_right hlt _) (by omega) _ _
    · rw [heq, compareBytes_self_cons]
      apply ih
      rw [Nat.mod_pow_succ, Nat.mod_pow_succ, heq] at h
      exact Nat.lt_of_add_lt_add_right h
    · exfalso
      rw [Nat.mod_pow_succ, Nat.mod_pow_succ] at h
      have hsteps := Nat.mul_le_mul_left (64 ^ count) (Nat.succ_le_of_lt hgt)
      have hrest : b % 64 ^ count < 64 ^ count := Nat.mod_lt _ (Nat.pow_pos (by decide))
      rw [Nat.mul_succ] at hsteps
      omega

/-- The first character in which two texts differ decides. -/
theorem compareBytes_encodeChar {c d : Char} (h : c.toNat < d.toNat) (l r : List UInt8) :
    compareBytes (String.utf8EncodeChar c ++ l) (String.utf8EncodeChar d ++ r) = .lt := by
  rw [encodeChar_eq, encodeChar_eq, List.cons_append, List.cons_append]
  rcases Nat.lt_or_eq_of_le (leading_mono (Nat.le_of_lt h)) with hlt | heq
  · exact compareBytes_of_lt hlt (leading_lt d) _ _
  · rw [heq, compareBytes_self_cons]
    have hfollowers := followers_eq_of_leading_eq heq
    rw [hfollowers]
    apply compareBytes_sixes
    have hbits : c.toNat / 64 ^ followers d.toNat = d.toNat / 64 ^ followers d.toNat := by
      rw [leading, leading, hfollowers] at heq
      exact Nat.add_right_cancel heq
    have hquotient := Nat.div_add_mod c.toNat (64 ^ followers d.toNat)
    have hquotient' := Nat.div_add_mod d.toNat (64 ^ followers d.toNat)
    rw [hbits] at hquotient
    omega

/-! ## Texts -/

/-- The numbers of the characters of a text. -/
def codePoints (text : String) : List Nat := text.toList.map Char.toNat

/-- Texts are compared by the first code points in which they differ. -/
def compareCodePoints (l r : String) : Ordering :=
  List.compareLex Ord.compare (codePoints l) (codePoints r)

instance : Std.TransCmp compareCodePoints := inferInstanceAs (Std.TransCmp (compareOn codePoints))

theorem compareCodePoints_eq_eq {l r : String} : compareCodePoints l r = .eq ↔ l = r := by
  change Ord.compare (codePoints l) (codePoints r) = .eq ↔ l = r
  rw [Std.compare_eq_iff_eq, codePoints, codePoints,
    List.map_inj_right fun _ _ => Char.toNat_inj.mp, String.toList_inj]

theorem compareBytes_swap (l r : List UInt8) : compareBytes r l = (compareBytes l r).swap := by
  rw [compareBytes_eq, compareBytes_eq]
  exact Std.OrientedCmp.eq_swap

/-- A text is the shorter one of two if it is the front of the other, in bytes as in characters. -/
theorem compareBytes_encode (l r : List Char) :
    compareBytes (encode l) (encode r) =
      List.compareLex Ord.compare (l.map Char.toNat) (r.map Char.toNat) := by
  induction l generalizing r with
  | nil =>
    cases r with
    | nil => rfl
    | cons d r =>
      rw [encode_cons, encodeChar_eq]
      rfl
  | cons c l ih =>
    cases r with
    | nil =>
      rw [encode_cons, encodeChar_eq]
      rfl
    | cons d r =>
      rw [encode_cons, encode_cons, List.map_cons, List.map_cons, List.compareLex_cons_cons]
      rcases Nat.lt_trichotomy c.toNat d.toNat with hlt | heq | hgt
      · rw [compareBytes_encodeChar hlt, Std.compare_eq_lt.mpr hlt, Ordering.lt_then]
      · rw [heq, Char.toNat_inj.mp heq, compareBytes_self_append, ih, Std.compare_self,
          Ordering.eq_then]
      · rw [compareBytes_swap, compareBytes_encodeChar hgt, Std.compare_eq_gt.mpr hgt,
          Ordering.gt_then]
        rfl

theorem compare_eq_compareCodePoints : compare = compareCodePoints :=
  funext fun _ => funext fun _ => compareBytes_encode _ _

/-- The order of texts, which is that of their bytes, is that of their code points. It is a total
order in which no text is equal to another, values compare by it, and what is sorted by it is sorted
by code points. -/
theorem ordered_by_code_points :
    (∀ l r : String, compare l r = compareCodePoints l r) ∧
    Std.TransCmp compare ∧
    (∀ l r : String, compare l r = .eq ↔ l = r) ∧
    (∀ l r : String, (Value.string l).compare (.string r) = some (compareCodePoints l r)) ∧
    ∀ texts : List String, (sort texts).Perm texts ∧
      (sort texts).Pairwise fun l r => (compareCodePoints l r).isLE = true := by
  rw [compare_eq_compareCodePoints]
  refine ⟨fun _ _ => rfl, inferInstance, fun _ _ => compareCodePoints_eq_eq, ?_, ?_⟩
  · intro l r
    exact congrArg some (compareBytes_encode _ _)
  · intro texts
    rw [sort, compare_eq_compareCodePoints]
    refine ⟨List.mergeSort_perm _ _, List.pairwise_mergeSort ?_ ?_ _⟩
    · intro a b c
      exact Std.TransCmp.isLE_trans
    · intro a b
      rw [@Std.OrientedCmp.eq_swap _ compareCodePoints _ b a]
      cases compareCodePoints a b <;> rfl

end ScriptHost.Text

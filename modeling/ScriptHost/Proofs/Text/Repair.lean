import Mathlib.Data.List.Infix
import Mathlib.Data.Nat.Find
import ScriptHost.Proofs.Text.Character

/-!
# Reading and repair agree

The machine that reads one byte after the other finds the pieces that a reading with a look at all
that follows would find.

* `Utf8.pieces_damage` : damage is read as one piece, whatever follows it.
* `Utf8.exists_damage` : where no character begins, there is damage.
* `Utf8.repaired_iff` : the repaired text is the one that the reading from left to right gives.
* `Utf8.isValid_iff` : what needs no repair is a text.
* `Utf8.longest_intact` : the bytes before the first damage are the longest text at the front.
-/

namespace ScriptHost.Text.Utf8

/-! ## Damage -/

/-- Bytes in the first of the ranges that are waited for complete no piece. -/
theorem piecesFrom_passed {passed : List ByteRange} {middle : List UInt8}
    (h : Follow passed middle) {first next : ByteRange} {ranges later : List ByteRange}
    (hranges : first :: ranges = passed ++ next :: later) (bits : Nat) :
    ∃ bits', ∀ rest, piecesFrom (.within bits first ranges) (middle ++ rest) =
      piecesFrom (.within bits' next later) rest := by
  induction h generalizing bits first ranges with
  | nil =>
    cases hranges
    exact ⟨bits, fun _ => rfl⟩
  | @cons range byte passed middle hbyte _ ih =>
    rw [List.cons_append, List.cons.injEq] at hranges
    obtain ⟨rfl, hranges⟩ := hranges
    cases ranges with
    | nil => simp at hranges
    | cons second ranges =>
      obtain ⟨bits', hrest⟩ := ih hranges (bits * 64 + byte.toNat % 64)
      refine ⟨bits', fun rest => ?_⟩
      rw [List.cons_append, piecesFrom_more hbyte, hrest]

theorem piecesFrom_refused {next : ByteRange} {byte : UInt8} (h : next.contains byte ≠ true)
    (bits : Nat) (later : List ByteRange) (bytes : List UInt8) :
    piecesFrom (.within bits next later) (byte :: bytes) = .damage :: pieces (byte :: bytes) := by
  simp only [pieces, piecesFrom, advance, h, if_false, List.cons_append, Bool.false_eq_true]

/-- The byte after a character that is broken off does not go on with it. -/
theorem IsDamage.refused {byte after : UInt8} {middle bytes : List UInt8} {bits : Nat}
    {passed later : List ByteRange} {next : ByteRange}
    (h : IsDamage (byte :: middle ++ after :: bytes) (byte :: middle))
    (hlongest : Longest IsBrokenOff (byte :: middle ++ after :: bytes) (byte :: middle))
    (hlead : lead? byte = some (bits, passed ++ next :: later)) (hpassed : Follow passed middle) :
    next.contains after ≠ true := by
  intro hafter
  have hfollow : Follow (passed ++ [next]) (middle ++ [after]) :=
    List.rel_append hpassed (.cons hafter .nil)
  have hpre : byte :: (middle ++ [after]) <+: byte :: middle ++ after :: bytes :=
    ⟨bytes, by simp⟩
  have hlead' : lead? byte = some (bits, (passed ++ [next]) ++ later) := by
    rw [hlead, List.append_assoc, List.singleton_append]
  cases later with
  | nil =>
    -- the character would be whole
    rw [List.append_nil] at hlead'
    obtain ⟨c, hc⟩ := exists_encodeChar hlead' hfollow
    exact h.noCharacter c (hc ▸ hpre)
  | cons second later =>
    -- a longer part of the character would be there
    have hbroken := isBrokenOff_iff.mpr ⟨_, _, _, _, _, _, rfl, hlead', hfollow⟩
    have hle := hlongest.longest _ hpre hbroken
    simp only [List.length_cons, List.length_append, List.length_nil] at hle
    omega

/-- Damage is read as one piece, whatever follows it. -/
theorem pieces_damage {skipped bytes : List UInt8} (h : IsDamage (skipped ++ bytes) skipped) :
    pieces (skipped ++ bytes) = .damage :: pieces bytes := by
  rcases h.skips with hlongest | ⟨hnone, byte, rest, hbytes, hskipped⟩
  · obtain ⟨byte, middle, bits, passed, next, later, rfl, hlead, hpassed⟩ :=
      isBrokenOff_iff.mp hlongest.isKind
    obtain ⟨first, ranges, hranges⟩ :
        ∃ first ranges, first :: ranges = passed ++ next :: later := by
      cases passed with
      | nil => exact ⟨_, _, rfl⟩
      | cons first passed => exact ⟨_, _, rfl⟩
    obtain ⟨bits', hrest⟩ := piecesFrom_passed hpassed hranges bits
    rw [List.cons_append, pieces, piecesFrom_start (hranges ▸ hlead), hrest]
    cases bytes with
    | nil => rfl
    | cons after bytes => rw [piecesFrom_refused (h.refused hlongest hlead hpassed)]
  · subst hskipped
    cases hlead : lead? byte with
    | none =>
      simp only [pieces, List.singleton_append, piecesFrom, advance, start, hlead]
    | some announced =>
      obtain ⟨bits, ranges⟩ := announced
      cases ranges with
      | nil =>
        obtain ⟨c, hc⟩ := exists_encodeChar hlead .nil
        exact absurd ⟨bytes, by rw [hc]⟩ (h.noCharacter c)
      | cons next later =>
        refine absurd ?_ (hnone [byte] (List.prefix_append _ _))
        exact isBrokenOff_iff.mpr ⟨byte, [], bits, [], next, later, rfl, hlead, .nil⟩

/-! ## The reading exists -/

theorem exists_longest {kind : List UInt8 → Prop} {bytes front : List UInt8}
    (hpre : front <+: bytes) (hkind : kind front) : ∃ longest, Longest kind bytes longest := by
  classical
  have htake : ∀ {other}, other <+: bytes → kind other → kind (bytes.take other.length) :=
    fun hother h => by rwa [← List.prefix_iff_eq_take.mp hother]
  refine ⟨bytes.take (Nat.findGreatest (fun n => kind (bytes.take n)) bytes.length),
    List.take_prefix _ _, ?_, ?_⟩
  · exact Nat.findGreatest_spec (P := fun n => kind (bytes.take n)) hpre.length_le
      (htake hpre hkind)
  · intro other hother h
    rw [List.length_take, Nat.min_eq_left (Nat.findGreatest_le _)]
    exact Nat.le_findGreatest hother.length_le (htake hother h)

/-- Where no character begins, there is damage. -/
theorem exists_damage {bytes : List UInt8} (hne : bytes ≠ [])
    (hnone : ∀ c, ¬ String.utf8EncodeChar c <+: bytes) :
    ∃ skipped rest, bytes = skipped ++ rest ∧ skipped ≠ [] ∧ IsDamage bytes skipped := by
  by_cases hbroken : ∃ front, front <+: bytes ∧ IsBrokenOff front
  · obtain ⟨front, hpre, hfront⟩ := hbroken
    obtain ⟨skipped, hlongest⟩ := exists_longest hpre hfront
    obtain ⟨rest, hrest⟩ := hlongest.isPrefix
    exact ⟨skipped, rest, hrest.symm, hlongest.isKind.1, hnone, .inl hlongest⟩
  · obtain ⟨byte, rest, rfl⟩ := List.exists_cons_of_ne_nil hne
    refine ⟨[byte], rest, rfl, List.cons_ne_nil _ _, hnone, .inr ⟨?_, byte, rest, rfl, rfl⟩⟩
    exact fun front hpre hfront => hbroken ⟨front, hpre, hfront⟩

theorem repair_copied (c : Char) (bytes : List UInt8) :
    repair (String.utf8EncodeChar c ++ bytes) = c :: repair bytes := by
  rw [repair, pieces, piecesFrom_encodeChar]
  rfl

theorem repair_damage {skipped bytes : List UInt8} (h : IsDamage (skipped ++ bytes) skipped) :
    repair (skipped ++ bytes) = replacement :: repair bytes := by
  rw [repair, pieces_damage h]
  rfl

/-- The repaired text is one that the reading from left to right gives. -/
theorem repaired_repair (bytes : List UInt8) : Repaired bytes (repair bytes) := by
  induction h : bytes.length using Nat.strongRecOn generalizing bytes with
  | ind n ih =>
    by_cases hne : bytes = []
    · subst hne
      exact .nil
    by_cases hcharacter : ∃ c, String.utf8EncodeChar c <+: bytes
    · obtain ⟨c, rest, rfl⟩ := hcharacter
      rw [repair_copied]
      refine .copied c (ih rest.length ?_ rest rfl)
      have hpos := Char.utf8Size_pos c
      rw [← h, List.length_append, String.length_utf8EncodeChar]
      omega
    · obtain ⟨skipped, rest, rfl, hskipped, hdamage⟩ :=
        exists_damage hne (not_exists.mp hcharacter)
      rw [repair_damage hdamage]
      refine .replaced hdamage (ih rest.length ?_ rest rfl)
      have hpos := List.length_pos_iff.mpr hskipped
      rw [← h, List.length_append]
      omega

/-- The repaired text is the one that the reading from left to right gives. -/
theorem repaired_iff {bytes : List UInt8} {text : List Char} :
    Repaired bytes text ↔ text = repair bytes := by
  constructor
  · intro h
    induction h with
    | nil => rfl
    | copied c _ ih => rw [repair_copied, ih]
    | replaced hdamage _ ih => rw [repair_damage hdamage, ih]
  · rintro rfl
    exact repaired_repair bytes

/-! ## What needs no repair -/

theorem isText_encode (text : List Char) : IsText (encode text) := ⟨text, rfl⟩

theorem isValid_encode (text : List Char) : isValid (encode text) = true := by
  simp [isValid, Piece.isIntact]

theorem isValid_damage {skipped bytes : List UInt8} (h : IsDamage (skipped ++ bytes) skipped) :
    isValid (skipped ++ bytes) = false := by
  rw [isValid, pieces_damage h]
  rfl

theorem isValid_copied (c : Char) (bytes : List UInt8) :
    isValid (String.utf8EncodeChar c ++ bytes) = isValid bytes := by
  rw [isValid, pieces, piecesFrom_encodeChar]
  rfl

theorem encode_repair_of_isValid {bytes : List UInt8} (h : isValid bytes = true) :
    encode (repair bytes) = bytes := by
  have hreading := repaired_repair bytes
  generalize repair bytes = text at hreading
  induction hreading with
  | nil => rfl
  | copied c _ ih =>
    rw [isValid_copied] at h
    rw [encode_cons, ih h]
  | replaced hdamage _ _ =>
    rw [isValid_damage hdamage] at h
    cases h

/-- What needs no repair is a text. -/
theorem isValid_iff {bytes : List UInt8} : isValid bytes = true ↔ IsText bytes := by
  constructor
  · intro h
    exact ⟨repair bytes, (encode_repair_of_isValid h).symm⟩
  · rintro ⟨text, rfl⟩
    exact isValid_encode text

/-! ## The bytes before the first damage -/

/-- The characters before the first damage. -/
def intact (bytes : List UInt8) : List Char :=
  ((pieces bytes).takeWhile Piece.isIntact).map Piece.toChar

theorem intactLength?_of_not_isText {bytes : List UInt8} (h : ¬ IsText bytes) :
    intactLength? bytes = some (encode (intact bytes)).length := by
  rw [intactLength?, if_neg (mt isValid_iff.mp h), length_encode]
  rfl

theorem intact_copied (c : Char) (bytes : List UInt8) :
    intact (String.utf8EncodeChar c ++ bytes) = c :: intact bytes := by
  rw [intact, pieces, piecesFrom_encodeChar]
  rfl

theorem intact_damage {skipped bytes : List UInt8} (h : IsDamage (skipped ++ bytes) skipped) :
    intact (skipped ++ bytes) = [] := by
  rw [intact, pieces_damage h]
  rfl

/-- Of two characters that begin in one place there is only one. -/
theorem encodeChar_inj {c c' : Char} {bytes bytes' : List UInt8}
    (h : String.utf8EncodeChar c ++ bytes = String.utf8EncodeChar c' ++ bytes') :
    c = c' ∧ bytes = bytes' := by
  have hpieces := congrArg (piecesFrom .between) h
  rw [piecesFrom_encodeChar, piecesFrom_encodeChar, List.cons.injEq, Piece.intact.injEq] at hpieces
  obtain ⟨rfl, -⟩ := hpieces
  exact ⟨rfl, List.append_cancel_left h⟩

/-- The bytes before the first damage are the longest text at the front. -/
theorem longest_intact (bytes : List UInt8) : Longest IsText bytes (encode (intact bytes)) := by
  have hreading := repaired_repair bytes
  generalize repair bytes = text at hreading
  induction hreading with
  | nil => exact ⟨List.prefix_refl _, isText_encode _, fun _ hother _ => hother.length_le⟩
  | @copied c bytes _ _ ih =>
    rw [intact_copied, encode_cons]
    refine ⟨(List.prefix_append_right_inj _).mpr ih.isPrefix, isText_encode (c :: _), ?_⟩
    rintro _ ⟨rest, hrest⟩ ⟨text, rfl⟩
    cases text with
    | nil => exact Nat.zero_le _
    | cons c' text =>
      rw [encode_cons, List.append_assoc] at hrest
      obtain ⟨rfl, hbytes⟩ := encodeChar_inj hrest
      have hle := ih.longest _ ⟨rest, hbytes⟩ (isText_encode text)
      rw [encode_cons, List.length_append, List.length_append]
      omega
  | replaced hdamage _ _ =>
    rw [intact_damage hdamage]
    refine ⟨List.nil_prefix, isText_encode [], ?_⟩
    rintro _ hother ⟨text, rfl⟩
    cases text with
    | nil => exact Nat.le_refl _
    | cons c text =>
      rw [encode_cons] at hother
      exact absurd ((List.prefix_append _ _).trans hother) (hdamage.noCharacter c)

/-- The bytes before the first damage are repaired to themselves, and a replacement follows them. -/
theorem repair_intact {bytes : List UInt8} (h : ¬ IsText bytes) :
    intact bytes ++ [replacement] <+: repair bytes := by
  have hreading := repaired_repair bytes
  generalize repair bytes = text at hreading
  induction hreading with
  | nil => exact absurd (isText_encode []) h
  | @copied c bytes text _ ih =>
    rw [intact_copied, List.cons_append, List.prefix_cons_inj]
    refine ih fun htext => h ?_
    rwa [← isValid_iff, isValid_copied, isValid_iff]
  | @replaced _ _ text hdamage _ _ =>
    rw [intact_damage hdamage]
    exact ⟨text, rfl⟩

end ScriptHost.Text.Utf8

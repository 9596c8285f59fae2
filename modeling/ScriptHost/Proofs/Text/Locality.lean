import ScriptHost.Proofs.Text.Incoming

/-!
# Repair is local

A reading that waits for more bytes of a character waits for none that begins another one. So a
character ends whatever stands before it, and nothing that stands before or behind it is read in
another way for its presence.

* `Utf8.Patient` : the readings that occur.
* `Utf8.piecesFrom_append` : bytes behind which something begins anew.
* `Utf8.repair_around` : a text between any bytes.
* `sanitize_local` : repair in place leaves texts alone, whatever stands around them.
-/

namespace ScriptHost.Text

open Utf8

namespace Utf8

/-- A reading that waits only for bytes that begin no character. -/
def Patient : Reading → Prop
  | .between => True
  | .within _ next later =>
    ∀ range ∈ next :: later, 0x80 ≤ range.low.toNat ∧ range.high.toNat ≤ 0xbf

/-- A byte that begins nothing; it can only go on with a character. -/
def GoesOn (byte : UInt8) : Prop := 0x80 ≤ byte.toNat ∧ byte.toNat ≤ 0xbf

theorem start_patient (byte : UInt8) : Patient (start byte).2 := by
  unfold start
  split
  · trivial
  · trivial
  · rename_i bits next later hlead
    intro range hrange
    obtain ⟨hlow, _, hhigh⟩ := range_of_lead? hlead hrange
    exact ⟨hlow, hhigh⟩

theorem advance_patient {reading : Reading} (h : Patient reading) (byte : UInt8) :
    Patient (advance reading byte).2 := by
  cases reading with
  | between => exact start_patient byte
  | within bits next later =>
    unfold advance
    dsimp only
    split
    · cases later with
      | nil => trivial
      | cons second later => exact fun range hrange => h range (List.mem_cons_of_mem _ hrange)
    · exact start_patient byte

theorem refused_of_begins {bits : Nat} {next : ByteRange} {later : List ByteRange} {byte : UInt8}
    (h : Patient (.within bits next later)) (hbyte : ¬ GoesOn byte) :
    next.contains byte ≠ true := by
  obtain ⟨hlow, hhigh⟩ := h next List.mem_cons_self
  obtain ⟨low, high⟩ := next
  rw [Ne, contains_iff]
  rintro ⟨hle, hle'⟩
  exact hbyte ⟨hlow.trans hle, hle'.trans hhigh⟩

/-- Where something begins, whatever is read before it comes to an end. -/
theorem piecesFrom_append {reading : Reading} (h : Patient reading) (front : List UInt8)
    {bytes : List UInt8} (hbytes : ∀ byte ∈ bytes.head?, ¬ GoesOn byte) :
    piecesFrom reading (front ++ bytes) = piecesFrom reading front ++ pieces bytes := by
  induction front generalizing reading with
  | nil =>
    cases reading with
    | between => rfl
    | within bits next later =>
      cases bytes with
      | nil => rfl
      | cons byte bytes => exact piecesFrom_refused (refused_of_begins h (hbytes byte rfl)) ..
  | cons byte front ih =>
    have hmore := ih (advance_patient h byte)
    rw [List.cons_append, piecesFrom, piecesFrom]
    dsimp only
    rw [hmore, List.append_assoc]

/-! ## Texts -/

theorem not_goesOn_of_head? {text : List Char} {byte : UInt8} (h : byte ∈ (encode text).head?) :
    ¬ GoesOn byte := by
  cases text with
  | nil => cases h
  | cons c text =>
    obtain ⟨first, more, bits, ranges, hbytes, hlead, _⟩ := encodeChar_follows c
    rw [encode_cons, hbytes, List.cons_append, List.head?_cons, Option.mem_def,
      Option.some.injEq] at h
    subst h
    rintro ⟨hlow, hhigh⟩
    rcases lead?_cases hlead with ⟨_, _⟩ | ⟨⟨_, _⟩, _⟩ | ⟨_, _, _, ⟨_, _, _⟩ | ⟨_, _, _⟩⟩ <;> omega

/-- A text between any bytes is read as it is, and they are read as if it were not there. -/
theorem repair_around {text : List Char} (h : text ≠ []) (before after : List UInt8) :
    repair (before ++ encode text ++ after) = repair before ++ text ++ repair after := by
  have hbegins : ∀ byte ∈ (encode text ++ after).head?, ¬ GoesOn byte := by
    intro byte hbyte
    refine @not_goesOn_of_head? text byte ?_
    cases text with
    | nil => exact absurd rfl h
    | cons c text =>
      obtain ⟨first, more, _, _, hbytes, _⟩ := encodeChar_follows c
      rwa [encode_cons, hbytes] at hbyte ⊢
  have hpieces : pieces (before ++ encode text ++ after) =
      pieces before ++ (text.map .intact ++ pieces after) := by
    have hbetween : Patient .between := trivial
    rw [List.append_assoc, ← pieces_encode_append]
    exact piecesFrom_append hbetween before hbegins
  rw [repair, hpieces, List.map_append, List.map_append, List.map_map, ← List.append_assoc]
  congr 2
  exact List.map_id text

end Utf8

/-- Repair in place leaves a text behind, which a second repair leaves alone. A text that is not
empty stays as it is whatever stands around it, and what stands around it is repaired as if it
stood alone. -/
theorem sanitize_local :
    (∀ bytes, IsText (sanitize bytes).1 ∧
      sanitize (sanitize bytes).1 = ((sanitize bytes).1, false)) ∧
    ∀ before text after, IsText text → text ≠ [] →
      (sanitize (before ++ text ++ after)).1 =
        (sanitize before).1 ++ text ++ (sanitize after).1 := by
  constructor
  · intro bytes
    have htext : IsText (sanitize bytes).1 := by
      rw [sanitize_fst]
      exact isText_encode _
    refine ⟨htext, ?_⟩
    rw [sanitize.eq_def (sanitize bytes).1, if_pos (isValid_iff.mpr htext)]
  · rintro before _ after ⟨text, rfl⟩ hne
    have htext : text ≠ [] := by
      rintro rfl
      exact hne rfl
    rw [sanitize_fst, sanitize_fst, sanitize_fst, repair_around htext, encode_append, encode_append]

/-- A character that is broken off does not reach into the text behind it, and stray bytes behind a
text do not join it. -/
theorem sanitize_local_seams :
    IsText [0xc3, 0xa9] ∧ (sanitize ([0xf0, 0x9f] ++ [0xc3, 0xa9] ++ [0x98, 0x80])).1 =
      [0xef, 0xbf, 0xbd] ++ [0xc3, 0xa9] ++ [0xef, 0xbf, 0xbd, 0xef, 0xbf, 0xbd] := by
  have htext : IsText [0xc3, 0xa9] := ⟨['é'], by decide⟩
  obtain ⟨-, haround⟩ := sanitize_local
  have hbytes := haround [0xf0, 0x9f] [0xc3, 0xa9] [0x98, 0x80] htext (List.cons_ne_nil _ _)
  exact ⟨htext, hbytes.trans (by decide)⟩

end ScriptHost.Text

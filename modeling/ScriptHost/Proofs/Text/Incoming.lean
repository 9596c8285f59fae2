import ScriptHost.Proofs.StringVariables.History
import ScriptHost.Proofs.Text.Repair

/-!
# Bytes from outside, repaired or refused

A new string, a buffer that is repaired in place and the check of a byte sequence agree on what is
damaged.

* `Utf8.check_of_not_isText` : what the check says of what is no text.
* `received_eq` : a new string holds the repaired text, also where nothing had to be repaired.
* `repair_exact` : all of them against the reading from left to right.
-/

namespace ScriptHost.Text

open Utf8

namespace Utf8

/-! ## The check -/

theorem isValidUTF8_iff {bytes : List UInt8} : bytes.toByteArray.IsValidUTF8 ↔ IsText bytes := by
  constructor
  · rintro ⟨text, htext⟩
    refine ⟨text, ?_⟩
    have hdata := congrArg (fun bytes => bytes.data.toList) htext
    simpa [List.utf8Encode, encode] using hdata
  · rintro ⟨text, rfl⟩
    exact ⟨text, rfl⟩

theorem check_of_not_isText {bytes : List UInt8} (h : ¬ IsText bytes) :
    check bytes = .error (encode (intact bytes)).length := by
  rw [check, String.fromUTF8?, dif_neg (mt isValidUTF8_iff.mp h)]
  dsimp only
  rw [intactLength?_of_not_isText h]
  rfl

end Utf8

/-! ## Strings, buffers and the check -/

/-- A new string holds the repaired text, also where nothing had to be repaired. -/
theorem received_eq (bytes : List UInt8) : received bytes = String.ofList (repair bytes) := by
  by_cases h : IsText bytes
  · obtain ⟨text, rfl⟩ := h
    rw [received, check_encode, repair_encode]
  · rw [received, check_of_not_isText h]

theorem validated_encode (text : List Char) :
    validated (encode text) = .ok (String.ofList text) := by
  rw [validated, check_encode]
  rfl

theorem validated_of_not_isText {bytes : List UInt8} (h : ¬ IsText bytes) :
    validated bytes = .error (.invalidUnicode (encode (intact bytes)).length) := by
  rw [validated, check_of_not_isText h]
  rfl

theorem sanitize_fst (bytes : List UInt8) : (sanitize bytes).1 = encode (repair bytes) := by
  unfold sanitize
  split
  · rename_i h
    exact (encode_repair_of_isValid h).symm
  · rfl

theorem sanitize_snd (bytes : List UInt8) : (sanitize bytes).2 = !isValid bytes := by
  unfold sanitize
  split <;> simp [*]

/-- Where no character is damaged, there is nothing to repair and nothing to refuse. -/
theorem isText_of_validated {bytes : List UInt8} {text : String}
    (h : validated bytes = .ok text) : encode text.toList = bytes := by
  by_cases hbytes : IsText bytes
  · obtain ⟨characters, rfl⟩ := hbytes
    rw [validated_encode] at h
    cases h
    rw [String.toList_ofList]
  · rw [validated_of_not_isText hbytes] at h
    cases h

theorem text_of_new (vars : StringVariables) (name : String) (bytes : List UInt8) :
    (vars.step name (.new bytes)).2.1.text = received bytes := by
  have hlookup := StringVariables.lookup_create vars name (received bytes)
  rw [StringVariables.step]
  dsimp only
  rw [StringVariables.fetch_of_some hlookup]
  rfl

/-- Bytes from outside, whatever they are. A new string, as well as a buffer that is repaired in
place, holds the text that the reading from left to right gives, and there is only one. The bytes
are said to be valid, the check gives them back as a text, and the buffer is left alone in the same
case: if they are a text. Otherwise the check gives the length of the longest text at their front,
and what is repaired begins with this text and a replacement character behind it. -/
theorem repair_exact (bytes : List UInt8) :
    (∀ text, Repaired bytes text ↔ (received bytes).toList = text) ∧
    (∀ (vars : StringVariables) name,
      (vars.step name (.new bytes)).2.1.text = received bytes) ∧
    (sanitize bytes).1 = encode (received bytes).toList ∧
    (isValid bytes = true ↔ IsText bytes) ∧
    (isValid bytes = true ↔ ∃ text, validated bytes = .ok text) ∧
    (isValid bytes = true ↔ (sanitize bytes).2 = false) ∧
    (∀ text, validated bytes = .ok text → encode text.toList = bytes) ∧
    ∀ e, validated bytes = .error e →
      ∃ front, e = .invalidUnicode front.length ∧ Longest IsText bytes front ∧
        front ++ [0xef, 0xbf, 0xbd] <+: (sanitize bytes).1 := by
  have hreceived : (received bytes).toList = repair bytes := by
    rw [received_eq, String.toList_ofList]
  refine ⟨fun text => ?_, fun vars name => text_of_new vars name bytes, ?_, isValid_iff, ?_, ?_,
    fun text => isText_of_validated, fun e herror => ?_⟩
  · rw [repaired_iff, hreceived, eq_comm]
  · rw [sanitize_fst, hreceived]
  · rw [isValid_iff]
    constructor
    · rintro ⟨text, rfl⟩
      exact ⟨_, validated_encode text⟩
    · rintro ⟨text, htext⟩
      exact ⟨_, (isText_of_validated htext).symm⟩
  · rw [sanitize_snd, Bool.not_eq_false']
  · by_cases hbytes : IsText bytes
    · obtain ⟨text, rfl⟩ := hbytes
      rw [validated_encode] at herror
      cases herror
    · rw [validated_of_not_isText hbytes] at herror
      cases herror
      refine ⟨_, rfl, longest_intact bytes, ?_⟩
      obtain ⟨rest, hrest⟩ := repair_intact hbytes
      rw [sanitize_fst, ← hrest, encode_append, encode_append]
      exact List.prefix_append _ _

/-- A character that is broken off is one piece of damage, a surrogate is three. -/
theorem repair_exact_surrogate :
    let bytes : List UInt8 := [0x78, 0xe2, 0x82, 0x41, 0xed, 0xa0, 0x80, 0xc3, 0xa9]
    let text := ['x', replacement, 'A', replacement, replacement, replacement, 'é']
    Repaired bytes text ∧ (sanitize bytes).1 = encode text ∧
      validated bytes = .error (.invalidUnicode 1) ∧
      ∃ front, 1 = front.length ∧ Longest IsText bytes front := by
  intro bytes text
  have hreceived : (received bytes).toList = text := by
    rw [received_eq, String.toList_ofList]
    decide
  have hvalidated : validated bytes = .error (.invalidUnicode 1) :=
    validated_of_not_isText (mt isValid_iff.mpr (by decide))
  obtain ⟨hrepaired, -, hsanitize, -, -, -, -, hrefused⟩ := repair_exact bytes
  obtain ⟨front, hfront, hlongest, -⟩ := hrefused _ hvalidated
  refine ⟨(hrepaired text).mpr hreceived, hreceived ▸ hsanitize, hvalidated, front, ?_, hlongest⟩
  exact Error.invalidUnicode.inj hfront

end ScriptHost.Text

import ScriptHost.Proofs.Text.Utf16
import ScriptHost.Proofs.Variables.Span

/-!
# Scripts see the units of a text

Scripts get the units of a string as integers, in which there is room for every unit. From the units
of either width the string can be made again.

* `Value.ofUnits_eq` : integers that stand for numbers.
* `Variables.act_units` : a method that gives units.
* `Variables.units_undone` : the units of texts, and the texts of units.
-/

namespace ScriptHost

open Text

/-- The integers for numbers that are not too great stand for them. -/
theorem Value.ofUnits_eq {units : List Nat} (h : ∀ unit ∈ units, unit < 2 ^ 31) :
    ∃ numbers : List Int32, Value.ofUnits units = .array (numbers.map .integer) ∧
      numbers.map Int32.toInt = units.map Int.ofNat := by
  refine ⟨units.map Int32.ofNat, ?_, ?_⟩
  · rw [Value.ofUnits, List.map_map]
    rfl
  · rw [List.map_map]
    exact List.map_congr_left fun unit hunit => Int32.toInt_ofNat_of_lt (h unit hunit)

theorem Text.Utf16.unit_lt (text : List Char) :
    ∀ unit ∈ (encode text).map UInt16.toNat, unit < 2 ^ 31 := by
  intro unit hunit
  obtain ⟨word, -, rfl⟩ := List.mem_map.mp hunit
  exact word.toNat_lt.trans (by decide)

theorem Text.Utf32.code_lt (text : List Char) :
    ∀ code ∈ (encode text).map UInt32.toNat, code < 2 ^ 31 := by
  intro code hcode
  obtain ⟨word, hword, rfl⟩ := List.mem_map.mp hcode
  obtain ⟨c, -, rfl⟩ := List.mem_map.mp hword
  have hvalid := Utf8.validCodePoint c
  omega

namespace Variables

/-- A method that gives units gives an integer for each of them. -/
theorem act_units {vars : Variables} {slot : Nat} {s : ScriptString}
    (hs : vars.store.cell slot = .string s) {name : String} {method : Method}
    (hname : Method.lookup? name = some method) (hreceiver : method.receiver = .string)
    (hlooks : method.mutates = false) {units : List Nat}
    (hunits : TextMethod.query s.text method [] = .ok (.ofUnits units))
    (hsmall : ∀ unit ∈ units, unit < 2 ^ 31) :
    ∃ numbers : List Int32,
      vars.act slot (.call name []) = (.result (.ok (.array (numbers.map .integer))), vars) ∧
        numbers.map Int32.toInt = units.map Int.ofNat := by
  obtain ⟨numbers, hnumbers, hvalues⟩ := Value.ofUnits_eq hsmall
  refine ⟨numbers, ?_, hvalues⟩
  rw [act_query hs hname hreceiver hlooks, hunits, hnumbers]

/-- A text is made again from its units of either width. It has one unit of sixteen bits for every
character, and one more for every character past the first plane. Any units are written back from
the text that is read of them, but for the surrogates without a partner, which give the replacement
character; so is any code, but for those that no character has. Scripts get the units of a string as
integers. -/
theorem units_undone :
    (∀ text : String,
      Utf16.decode (Utf16.encode text.toList) = text.toList ∧
      (Utf16.encode text.toList).length =
        text.toList.length + text.toList.countP (fun c => 0xffff < c.toNat) ∧
      (Utf32.encode text.toList).flatMap (fun code => [Utf32.decodeOne code.toNat]) =
        text.toList) ∧
    (∀ units : List UInt16,
      Utf16.encode (Utf16.decode units) = Utf16.mended units ∧
      (Utf16.encode (Utf16.decode units) = units ↔
        ∀ position, Utf16.isLone units position = false)) ∧
    (∀ code : UInt32, Utf32.encode [Utf32.decodeOne code.toNat] =
      if Utf32.IsScalar code.toNat then [code] else [0xfffd]) ∧
    ∀ (vars : Variables) (slot : Nat) (s : ScriptString), vars.store.cell slot = .string s →
      ∃ narrow wide : List Int32,
        vars.act slot (.call "utf16" []) = (.result (.ok (.array (narrow.map .integer))), vars) ∧
        narrow.map Int32.toInt =
          (Utf16.encode s.text.toList).map (fun unit => Int.ofNat unit.toNat) ∧
        vars.act slot (.call "utf32" []) = (.result (.ok (.array (wide.map .integer))), vars) ∧
        wide.map Int32.toInt =
          s.text.toList.map (fun c => Int.ofNat c.toNat) := by
  refine ⟨fun text => ⟨Utf16.decode_encode _, Utf16.length_encode _, Utf32.decodeOne_encode _⟩,
    fun units => ⟨Utf16.encode_decode units, ?_⟩, Utf32.encode_decodeOne, ?_⟩
  · rw [Utf16.encode_decode, Utf16.mended_eq_self_iff]
  · intro vars slot s hs
    have hutf16 : Method.lookup? "utf16" = some .utf16 := by decide
    have hutf32 : Method.lookup? "utf32" = some .utf32 := by decide
    obtain ⟨narrow, hnarrow, hunits⟩ := act_units hs hutf16 rfl rfl rfl (Utf16.unit_lt _)
    obtain ⟨wide, hwide, hcodes⟩ := act_units hs hutf32 rfl rfl rfl (Utf32.code_lt _)
    rw [List.map_map] at hunits hcodes
    rw [Utf32.encode, List.map_map] at hcodes
    exact ⟨narrow, wide, hnarrow, hunits, hwide, hcodes⟩

/-- A character past the first plane is a pair of surrogates to a script, and one code. -/
theorem units_undone_pair :
    let vars := (Variables.empty.step "a" (.new (.string "é😀"))).2
    ∃ narrow wide : List Int32,
      vars.act 0 (.call "utf16" []) = (.result (.ok (.array (narrow.map .integer))), vars) ∧
      narrow.map Int32.toInt = [0xe9, 0xd83d, 0xde00] ∧
      vars.act 0 (.call "utf32" []) = (.result (.ok (.array (wide.map .integer))), vars) ∧
      wide.map Int32.toInt = [0xe9, 0x1f600] := by
  intro vars
  have hs : vars.store.cell 0 = .string ⟨"é😀", 1, 0⟩ := by decide
  obtain ⟨-, -, -, hscripts⟩ := units_undone
  obtain ⟨narrow, wide, hnarrow, hunits, hwide, hcodes⟩ := hscripts vars 0 ⟨"é😀", 1, 0⟩ hs
  exact ⟨narrow, wide, hnarrow, hunits.trans (by decide), hwide, hcodes.trans (by decide)⟩

end Variables

end ScriptHost

import ScriptHost.Proofs.StringVariables.View
import ScriptHost.Proofs.Text.Buffer

/-!
# All readers of a span agree

A copy of a span, a view of it and a comparison with it speak of the same characters, those at the
positions of the span as far as there are any. The walks that find their bytes end between
characters.

* `View.Shows` : a view that lies between characters, and the text that it shows.
* `View.take_shows` : what the view of a span shows.
* `StringVariables.spans_agree` : the readers of a span, for all spans of all strings.
-/

namespace ScriptHost

open Text

/-- A view lies between characters of a string and shows a text of it. -/
structure View.Shows (view : View) (s : ScriptString) (text : String) : Prop where
  ordered : view.start ≤ view.stop
  inside : view.stop ≤ (Utf8.encode s.text.toList).length
  starts : Buffer.isBoundary (Utf8.encode s.text.toList) view.start = true
  stops : Buffer.isBoundary (Utf8.encode s.text.toList) view.stop = true
  cut : Buffer.cut? (Utf8.encode s.text.toList) (view.start, view.stop) =
    some (Utf8.encode text.toList)
  read : view.read s = .ok text

namespace Text.Buffer

theorem le_length_of_isBoundary {bytes : List UInt8} {offset : Nat}
    (h : isBoundary bytes offset = true) : offset ≤ bytes.length := by
  unfold isBoundary at h
  split at h
  · rename_i hbyte
    exact Nat.le_of_lt (List.getElem?_eq_some_iff.mp hbyte).1
  · exact Nat.le_of_eq (beq_iff_eq.mp h)

end Text.Buffer

theorem View.take_shows (s : ScriptString) (start length : Nat) :
    (View.take s start length).Shows s (String.ofList (slice s.text.toList start length)) := by
  have hcut := Buffer.cut?_span s.text.toList start length
  rw [Buffer.span_eq] at hcut
  have hends := (Buffer.cut?_eq_some_iff.mp hcut).1
  simp only [Buffer.isCut, Bool.and_eq_true, decide_eq_true_eq] at hends
  obtain ⟨⟨hordered, hstarts⟩, hstops⟩ := hends
  refine ⟨hordered, Buffer.le_length_of_isBoundary hstops, hstarts, hstops, ?_,
    View.read_take_self s start length⟩
  rw [String.toList_ofList]
  exact hcut

namespace StringVariables

theorem act_readView {vars : StringVariables} {name viewName : String} {s : ScriptString}
    {view : View} {text : String} (hview : vars.views.lookup viewName = some view)
    (hread : view.read s = .ok text) :
    (vars.act name s (.readView viewName)).1 =
      .read true (.ok text) (.ok (ScriptString.make text vars.next).1) := by
  have hvalid : view.isValidFor s = true := by
    by_contra h
    rw [View.read_of_not_valid h] at hread
    cases hread
  simp only [act, hview, View.copy, hread, hvalid, Except.map]

/-- Any span of any string, with a start and a length that may be past its end. A copy of the span
holds the characters at its positions, as far as there are any; a view of it lies between characters
of the string and shows the same text, as the view and as a copy of what it shows, and a comparison
asks for this text. A byte position is the size of the characters before it, up to the end of the
string. All walks over the bytes come to these results, and the bytes that are cut out for a span
may be cut out. -/
theorem spans_agree (vars : StringVariables) (name : String) (s : ScriptString)
    (start length : Nat) :
    let text := s.text.toList
    let bytes := Utf8.encode text
    let span := String.ofList
      (charactersAt text fun position => start ≤ position && position < start + length)
    let offset? := fun position =>
      if position ≤ text.length then some (Utf8.encode (text.take position)).length else none
    (vars.act name s (.substring start length)).1 = .text span ∧
    (∀ other, (vars.act name s (.compareSpan start length other)).1 =
      .flag (decide (other = span))) ∧
    (∀ viewName, ∃ view copy,
      let taken := vars.act name s (.view viewName start length)
      taken.1 = .view view ∧ view.Shows s span ∧
        (taken.2.act name s (.readView viewName)).1 = .read true (.ok span) (.ok copy) ∧
        copy.text = span) ∧
    (∀ position, (vars.act name s (.byteOffset position)).1 = .count (offset? position)) ∧
    (∀ position, (vars.act name s (.charAt position)).1 =
      .count (if h : position < text.length then some text[position].toNat else none)) ∧
    (∀ position, Buffer.offset? text position = offset? position) ∧
    Buffer.cut? bytes (Buffer.span text start length) = some (Utf8.encode span.toList) := by
  intro text bytes span offset?
  have hspan : span = String.ofList (slice text start length) := by
    rw [slice_eq_charactersAt]
  have hoffset : ∀ position, byteOffset? text position = offset? position := by
    intro position
    rw [byteOffset?, ← Utf8.length_encode]
  have hshows := View.take_shows s start length
  rw [← hspan] at hshows
  refine ⟨congrArg Reply.text hspan.symm, fun other => congrArg Reply.flag ?_, fun viewName => ?_,
    fun position => congrArg Reply.count (hoffset position),
    fun position => congrArg Reply.count ?_, fun position => ?_, ?_⟩
  · rw [hspan, beq_eq_decide]
    apply decide_eq_decide.mpr
    rw [← String.toList_inj, String.toList_ofList, eq_comm]
  · refine ⟨View.take s start length, (ScriptString.make span vars.next).1, rfl, hshows, ?_, rfl⟩
    exact act_readView Bindings.lookup_rebind_self hshows.read
  · by_cases h : position < text.length
    · rw [dif_pos h, List.getElem?_eq_getElem h, Option.map_some]
    · rw [dif_neg h, List.getElem?_eq_none (Nat.le_of_not_lt h), Option.map_none]
  · rw [Buffer.offset?_eq, hoffset]
  · rw [hspan, String.toList_ofList]
    exact Buffer.cut?_span text start length

/-- A span that goes past the end of a named string. -/
theorem spans_agree_past_end :
    let (_, s, vars) := StringVariables.empty.step "a" (.new [0x68, 0xc3, 0xa9])
    (vars.act "a" s (.substring 1 5)).1 = .text "é" ∧
    (vars.act "a" s (.compareSpan 1 5 "é")).1 = .flag true ∧
    (vars.act "a" s (.byteOffset 2)).1 = .count (some 3) ∧
    (vars.act "a" s (.charAt 2)).1 = .count none ∧
    ∃ (view : View) (copy : ScriptString),
      ((vars.act "a" s (.view "v" 1 5)).2.act "a" s (.readView "v")).1 =
        .read true (.ok "é") (.ok copy) ∧ view.Shows s "é" := by
  obtain ⟨hsubstring, hcompare, hview, hoffset, hchar, -⟩ :=
    spans_agree (StringVariables.empty.step "a" (.new [0x68, 0xc3, 0xa9])).2.2 "a"
      (StringVariables.empty.step "a" (.new [0x68, 0xc3, 0xa9])).2.1 1 5
  obtain ⟨view, copy, -, hshows, hread, -⟩ := hview "v"
  exact ⟨hsubstring, hcompare "é", hoffset 2, hchar 2, view, copy, hread, hshows⟩

end StringVariables

end ScriptHost

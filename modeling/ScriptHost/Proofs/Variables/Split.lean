import ScriptHost.Proofs.Store.Operator
import ScriptHost.Proofs.Text.Split
import ScriptHost.Proofs.Text.Words
import ScriptHost.Proofs.Variables.Assign
import ScriptHost.Proofs.Variables.Span

/-!
# The parts of a string fit together

A separator is looked for in one way only, whether a string is split at it, whether it is exchanged
for another text or subtracted. The empty separator splits a string into characters, but there is
nothing of it to exchange.

* `Operator.textOperand?_eq_some_iff` : the values that a string can be combined with.
* `Gives`, `Replaces`, `Subtracts` : what comes of a string, in each way to ask for it.
* `Variables.gives_split`, `Variables.replaces_of_replaceAll`, `Variables.subtracts_of_replaceAll` :
  all the ways come down to two functions on texts.
* `Variables.parts_fit` : the parts, what is made of them, and the words of a string.
-/

namespace ScriptHost

open Text

/-! ## Operands -/

/-- A value and the text that a string is combined with in its place. -/
structure Operator.Contributes (value : Value) (text : String) : Prop where
  kind : value.kind ∈ [.string, .integer, .double, .array]
  printed : value.printed = text

theorem Operator.textOperand?_eq_some_iff {value : Value} {text : String} :
    textOperand? value = some text ↔ Contributes value text := by
  cases value with
  | uninit | boolean =>
    refine iff_of_false (fun h => ?_) fun h => ?_
    · cases h
    · exact absurd h.kind (by simp [Value.kind])
  | integer | double | string | array =>
    constructor
    · intro h
      exact ⟨by simp [Value.kind], by simpa [textOperand?, Value.printed] using h⟩
    · intro h
      simpa [textOperand?, Value.printed] using h.printed

/-! ## What comes of a string -/

/-- The same texts come of a string by name and by script. -/
structure Gives (vars : Variables) (slot : Nat) (s : ScriptString) (arguments : List Value)
    (action : StringVariables.Action) (texts : List String) : Prop where
  named : ∀ (strings : StringVariables) (name : String),
    strings.act name s action = (.texts texts, texts.foldl .lend strings)
  called : vars.act slot (.call "split" arguments) =
    (.result (.ok (.array (texts.map .string))), vars)

/-- A string in which a pattern is exchanged, by name and by script, has the text. -/
structure Replaces (vars : Variables) (slot : Nat) (s : ScriptString) (pattern written : String)
    (text : String) : Prop where
  named : ∀ (strings : StringVariables) (name : String),
    strings.act name s (.replace pattern written) =
      (.nothing, strings.keep name (s.changed text.toList))
  called : vars.act slot (.call "replace" [.string pattern, .string written]) =
    (.result (.ok (.string text)),
      vars.withStore (vars.store.put slot (.string (s.changed text.toList))))

/-- A string from which a pattern is taken away, by name and by either form of the operator, has
the text. -/
structure Subtracts (vars : Variables) (slot : Nat) (s : ScriptString) (pattern : String)
    (text : String) : Prop where
  named : ∀ (strings : StringVariables) (name : String),
    strings.act name s (.remove pattern) =
      (.nothing, strings.keep name (s.changed text.toList))
  combined : ∀ right, Operator.Contributes (vars.operand right) pattern →
    vars.act slot (.combine .sub right) = (.result (.ok (.string text)), vars)
  assigned : ∀ right, Operator.Contributes (vars.operand right) pattern →
    vars.act slot (.assign .sub right) = (.outcome (.ok ()),
      vars.withStore (vars.store.put slot (.string (s.changed text.toList))))

namespace Variables

variable {vars : Variables} {slot : Nat} {s : ScriptString} {separator : String}

/-- Texts that are joined are printed as they are. -/
theorem act_join {place : Nat} {glue : ScriptString} (hglue : vars.store.cell place = .string glue)
    (texts : List String) :
    vars.act place (.call "join" [.array (texts.map .string)]) =
      (.result (.ok (.string (glue.text.intercalate texts))), vars) := by
  have hname : Method.lookup? "join" = some .join := by decide
  have hprinted : (texts.map Value.string).map Value.printed = texts := by
    rw [List.map_map]
    exact List.map_id'' (fun text => by rw [Function.comp, Value.printed]) texts
  rw [act_query hglue hname rfl rfl]
  change (Reply.result (.ok (.string (TextMethod.joined glue.text (texts.map .string)))), _) = _
  rw [TextMethod.joined, hprinted]

theorem gives_split (hs : vars.store.cell slot = .string s) (separator : String) :
    Gives vars slot s [.string separator] (.split separator)
      ((splitAll s.text.toList separator.toList).map String.ofList) where
  named _ _ := rfl
  called := by
    have hname : Method.lookup? "split" = some .split := by decide
    rw [act_query hs hname rfl rfl, List.map_map]
    rfl

theorem gives_words (hs : vars.store.cell slot = .string s) :
    Gives vars slot s [] .words ((words s.text.toList).map String.ofList) where
  named _ _ := rfl
  called := by
    have hname : Method.lookup? "split" = some .split := by decide
    rw [act_query hs hname rfl rfl, List.map_map]
    rfl

/-- Where the occurrences of a pattern are exchanged, it is done in the same way by name and by
script. -/
theorem replaces_of_replaceAll (hs : vars.store.cell slot = .string s) {pattern written : String}
    {text : String} (h : replaceAll s.text.toList pattern.toList written.toList = text.toList) :
    Replaces vars slot s pattern written text := by
  have hname : Method.lookup? "replace" = some .replace := by decide
  have hreplace : s.replace pattern written = s.changed text.toList := by
    rw [ScriptString.replace, h]
  have htext : (s.changed text.toList).text = text := String.ofList_toList
  refine ⟨fun strings name => ?_, ?_⟩
  · rw [StringVariables.act, hreplace]
    rfl
  · rw [act_update hs hname rfl rfl]
    change vars.attemptFor (.ok (.string (s.replace pattern written).text,
      vars.store.put slot (.string (s.replace pattern written)))) = _
    rw [hreplace, htext]
    rfl

/-- To subtract a pattern is to write nothing in place of its occurrences. -/
theorem subtracts_of_replaceAll (hs : vars.store.cell slot = .string s) {pattern : String}
    {text : String} (h : replaceAll s.text.toList pattern.toList [] = text.toList) :
    Subtracts vars slot s pattern text := by
  have hremove : s.remove pattern = s.changed text.toList := by
    rw [ScriptString.remove, ScriptString.replace, String.toList_empty, h]
  refine ⟨fun strings name => ?_, fun right hright => ?_, fun right hright => ?_⟩
  · rw [StringVariables.act, hremove]
    rfl
  · have htext := Operator.textOperand?_eq_some_iff.mpr hright
    rw [act, read_of_cell_string hs, Store.combine_string, htext]
    change (Reply.result (.ok (.string (String.ofList (replaceAll _ _ [])))), _) = _
    rw [h, String.ofList_toList]
  · have htext := Operator.textOperand?_eq_some_iff.mpr hright
    refine act_assign_ok ?_
    unfold Store.combineAssign
    rw [hs]
    dsimp only
    rw [htext]
    change Except.ok (vars.store.put slot (.string (s.remove pattern))) = _
    rw [hremove]

/-! ## The parts -/

theorem map_toList_ofList (parts : List (List Char)) :
    (parts.map String.ofList).map String.toList = parts := by
  rw [List.map_map]
  exact List.map_id'' (fun _ => String.toList_ofList) parts

theorem toList_intercalate_ofList (between : String) (parts : List (List Char)) :
    (between.intercalate (parts.map String.ofList)).toList = between.toList.intercalate parts := by
  rw [String.toList_intercalate, map_toList_ofList]

/-- At a separator a string comes apart into the pieces that are cut off at its leftmost
occurrences, and joined by the separator they are the string again. What is written in place of the
separator joins the same parts, and nothing does where it is subtracted, as a string or as the
printed form of a number or an array. The empty separator gives the characters, and leaves the
string as it is where it is exchanged or subtracted. Without a separator the words come out, which
are the longest runs of characters other than white space. -/
theorem parts_fit (vars : Variables) (slot : Nat) (s : ScriptString)
    (hs : vars.store.cell slot = .string s) :
    (∀ separator : String, separator ≠ "" → ∃ parts : List String,
      Gives vars slot s [.string separator] (.split separator) parts ∧
      separator.intercalate parts = s.text ∧
      CutsLeftmost separator.toList (parts.map String.toList) ∧
      (∀ written, Replaces vars slot s separator written (written.intercalate parts)) ∧
      Subtracts vars slot s separator ("".intercalate parts)) ∧
    (∃ characters : List String,
      Gives vars slot s [.string ""] (.split "") characters ∧
      characters.map String.toList = s.text.toList.map (fun c => [c]) ∧
      "".intercalate characters = s.text ∧
      (∀ written, Replaces vars slot s "" written s.text) ∧
      Subtracts vars slot s "" s.text) ∧
    (∀ (others : Variables) (place : Nat) (glue : ScriptString) (texts : List String),
      others.store.cell place = .string glue →
      others.act place (.call "join" [.array (texts.map .string)]) =
        (.result (.ok (.string (glue.text.intercalate texts))), others)) ∧
    ∃ spans : List (Nat × Nat),
      Gives vars slot s [] .words
        (spans.map fun span => String.ofList (runAt s.text.toList span)) ∧
      (∀ start stop, (start, stop) ∈ spans ↔ IsRun s.text.toList start stop) ∧
      spans.Pairwise fun l r => l.2 < r.1 := by
  refine ⟨?_, ?_, ?_, ?_⟩
  · intro separator hseparator
    have hne : separator.toList ≠ [] := fun h => hseparator (String.toList_eq_nil_iff.mp h)
    obtain ⟨hcuts, hjoined⟩ := splitAll_parts hne s.text.toList
    have hreplaced := fun written => replaceAll_eq_intercalate hne s.text.toList written
    refine ⟨_, gives_split hs separator, ?_, ?_, fun written => ?_, ?_⟩
    · rw [← String.toList_inj, toList_intercalate_ofList, hjoined]
    · rwa [map_toList_ofList]
    · refine replaces_of_replaceAll hs ?_
      rw [toList_intercalate_ofList, hreplaced]
    · refine subtracts_of_replaceAll hs ?_
      rw [toList_intercalate_ofList, hreplaced]
      rfl
  · refine ⟨_, gives_split hs "", map_toList_ofList _, ?_, fun written => ?_, ?_⟩
    · rw [← String.toList_inj, toList_intercalate_ofList]
      exact intercalate_splitAll_nil _
    · exact replaces_of_replaceAll hs rfl
    · exact subtracts_of_replaceAll hs rfl
  · exact fun others place glue texts hglue => act_join hglue texts
  · obtain ⟨spans, hwords, hruns, hordered⟩ := words_eq_runs s.text.toList
    refine ⟨spans, ?_, hruns, hordered⟩
    have hgives := gives_words hs
    rwa [hwords, List.map_map] at hgives

/-- An occurrence that overlaps the one before it does not count. -/
theorem parts_fit_overlapping :
    let vars := (Variables.empty.step "a" (.new (.string "1112114"))).2
    vars.act 0 (.call "split" [.string "11"]) =
      (.result (.ok (.array [.string "", .string "12", .string "4"])), vars) ∧
    vars.act 0 (.combine .sub (.literal (.integer 11))) =
      (.result (.ok (.string "124")), vars) := by
  intro vars
  have hs : vars.store.cell 0 = .string ⟨"1112114", 1, 0⟩ := by decide
  obtain ⟨hsplit, -⟩ := parts_fit vars 0 ⟨"1112114", 1, 0⟩ hs
  obtain ⟨parts, hgives, hjoined, hcuts, -, hsubtracts⟩ := hsplit "11" (by decide)
  have hexpected : CutsLeftmost "11".toList (["", "12", "4"].map String.toList) :=
    .before (find?_eq_some_iff.mp (by decide)) <|
      .before (find?_eq_some_iff.mp (by decide)) <| .last (by decide)
  have hsame : parts.map String.toList = ["", "12", "4"].map String.toList := by
    refine hcuts.unique hexpected ?_
    rw [← String.toList_intercalate, hjoined]
    decide
  obtain rfl := List.map_injective_iff.mpr (fun _ _ => String.toList_injective) hsame
  have hprinted : Operator.Contributes (vars.operand (.literal (.integer 11))) "11" :=
    ⟨by decide, by decide⟩
  exact ⟨hgives.called, hsubtracts.combined _ hprinted⟩

end Variables

end ScriptHost

import ScriptHost.StringVariables

/-!
# What a run does to strings

A run makes strings, under names or for callers, and changes strings in place. Everything else that
actions do leaves the strings alone.

* `StringVariables.marks` : the strings that a run makes and changes.
* `StringVariables.Leads` : steps from variables to variables that leave marks.
* `StringVariables.after_leads` : a run consists of such steps.
-/

namespace ScriptHost.StringVariables

open Bindings

/-- A string was made under a name, the string of a name was changed, or a string was made for a
caller. -/
inductive Mark
  | bound (name : String)
  | changed (name : String)
  | lent
deriving DecidableEq

namespace Mark

def makes : Mark → Bool
  | bound _ | lent => true
  | changed _ => false

def changes : Mark → Bool
  | changed _ => true
  | bound _ | lent => false

end Mark

/-- A name that has no string gets one when the string is asked for. -/
def fetchMarks (vars : StringVariables) (name : String) : List Mark :=
  match vars.strings.lookup name with
  | some _ => []
  | none => [.bound name]

/-- What an action does to the string of a name. Changing a text to the text that it is already
counts as a change; a span that begins past the end is not exchanged. -/
def actMarks (vars : StringVariables) (name : String) (s : ScriptString) : Action → List Mark
  | .push _ | .upper | .lower | .trim _ _ | .replace _ _ | .remove _ => [.changed name]
  | .replaceSpan start _ _ => if start ≤ s.text.toList.length then [.changed name] else []
  | .substring _ _ | .compareSpan _ _ _ => [.lent]
  | .split separator =>
    List.replicate (Text.splitAll s.text.toList separator.toList).length .lent
  | .words => List.replicate (Text.words s.text.toList).length .lent
  | .readView viewName =>
    match vars.views.lookup viewName with
    | none => []
    | some view =>
      match view.read s with
      | .ok _ => [.lent]
      | .error _ => []
  | .sameIdentity other | .compare other => vars.fetchMarks other
  | _ => []

/-- What an action does to strings. -/
def stepMarks (vars : StringVariables) (name : String) : Action → List Mark
  | .new _ => [.bound name]
  | .copy other => vars.fetchMarks other ++ [.bound name]
  | action =>
    vars.fetchMarks name ++ (vars.fetch name).2.actMarks name (vars.fetch name).1 action

/-- The variables after several actions. -/
def after (vars : StringVariables) (actions : List (String × Action)) : StringVariables :=
  actions.foldl (fun vars (name, action) => (vars.step name action).2.2) vars

/-- What several actions do to strings. -/
def marks (vars : StringVariables) : List (String × Action) → List Mark
  | [] => []
  | (name, action) :: actions =>
    vars.stepMarks name action ++ (vars.step name action).2.2.marks actions

/-- Steps that leave marks. -/
inductive Leads : StringVariables → List Mark → StringVariables → Prop
  | views (vars : StringVariables) (views : List (String × View)) :
      Leads vars [] { vars with views }
  | bound (vars : StringVariables) (name text : String) :
      Leads vars [.bound name] (vars.create name text)
  | changed {vars : StringVariables} {name : String} {s : ScriptString} (text : List Char)
      (hs : vars.strings.lookup name = some s) :
      Leads vars [.changed name] (vars.keep name (s.changed text))
  | lent (vars : StringVariables) (text : String) : Leads vars [.lent] (vars.lend text)
  | trans {vars vars' vars'' : StringVariables} {early late : List Mark}
      (h : Leads vars early vars') (h' : Leads vars' late vars'') :
      Leads vars (early ++ late) vars''

/-! ## The string of a name -/

variable {vars vars' : StringVariables} {name : String} {s : ScriptString}

theorem fetch_of_some (hs : vars.strings.lookup name = some s) : vars.fetch name = (s, vars) := by
  rw [fetch, hs]

theorem fetch_of_none (hs : vars.strings.lookup name = none) :
    vars.fetch name = ((ScriptString.make "" vars.next).1, vars.create name "") := by
  rw [fetch, hs]

theorem fetchMarks_of_some (hs : vars.strings.lookup name = some s) :
    vars.fetchMarks name = [] := by
  rw [fetchMarks, hs]

theorem fetchMarks_of_none (hs : vars.strings.lookup name = none) :
    vars.fetchMarks name = [.bound name] := by
  rw [fetchMarks, hs]

theorem lookup_create (vars : StringVariables) (name text : String) :
    (vars.create name text).strings.lookup name = some (ScriptString.make text vars.next).1 :=
  lookup_rebind_self

theorem lookup_fetch (vars : StringVariables) (name : String) :
    (vars.fetch name).2.strings.lookup name = some (vars.fetch name).1 := by
  cases hs : vars.strings.lookup name with
  | none => rw [fetch_of_none hs, lookup_create]
  | some s => rw [fetch_of_some hs, hs]

/-! ## Steps and runs -/

namespace Leads

theorem refl (vars : StringVariables) : Leads vars [] vars := views vars vars.views

theorem lookup_ne_none {marks : List Mark} (h : Leads vars marks vars')
    (hs : vars.strings.lookup name ≠ none) : vars'.strings.lookup name ≠ none := by
  induction h with
  | views vars views => exact hs
  | bound vars other text =>
    by_cases hother : name = other
    · rw [hother, lookup_create]
      exact Option.some_ne_none _
    · rwa [create, lookup_rebind_of_ne hother]
  | @changed vars other s text hlookup =>
    by_cases hother : name = other
    · rw [hother, keep, lookup_rebind_self]
      exact Option.some_ne_none _
    · rwa [keep, lookup_rebind_of_ne hother]
  | lent vars text => exact hs
  | trans _ _ ih ih' => exact ih' (ih hs)

theorem lend_all (vars : StringVariables) (texts : List String) :
    Leads vars (List.replicate texts.length .lent) (texts.foldl lend vars) := by
  induction texts generalizing vars with
  | nil => exact refl vars
  | cons text texts ih => exact trans (lent vars text) (ih _)

end Leads

theorem fetch_leads (vars : StringVariables) (name : String) :
    Leads vars (vars.fetchMarks name) (vars.fetch name).2 := by
  cases hs : vars.strings.lookup name with
  | none =>
    rw [fetch_of_none hs, fetchMarks_of_none hs]
    exact .bound vars name ""
  | some s =>
    rw [fetch_of_some hs, fetchMarks_of_some hs]
    exact .refl vars

theorem readView_leads (vars : StringVariables) (name viewName : String) (s : ScriptString) :
    Leads vars (vars.actMarks name s (.readView viewName))
      (vars.act name s (.readView viewName)).2 := by
  simp only [act, actMarks]
  cases vars.views.lookup viewName with
  | none => exact .refl vars
  | some view =>
    simp only [View.copy]
    cases view.read s with
    | error e => exact .refl vars
    | ok text => exact .lent vars text

theorem act_leads (hs : vars.strings.lookup name = some s) (action : Action) :
    Leads vars (vars.actMarks name s action) (vars.act name s action).2 := by
  cases action with
  | push | upper | lower | trim | replace | remove => exact .changed _ hs
  | replaceSpan start length written =>
    simp only [act, actMarks, ScriptString.replaceSpan]
    by_cases hstart : start ≤ s.text.toList.length
    · rw [if_pos hstart, if_neg (Nat.not_lt.mpr hstart)]
      exact .changed _ hs
    · rw [if_neg hstart, if_pos (Nat.lt_of_not_le hstart)]
      exact .refl vars
  | substring | compareSpan => exact .lent vars _
  | split separator =>
    simpa [act, actMarks] using Leads.lend_all vars
      ((Text.splitAll s.text.toList separator.toList).map String.ofList)
  | words =>
    simpa [act, actMarks] using Leads.lend_all vars ((Text.words s.text.toList).map String.ofList)
  | view => exact .views vars _
  | readView viewName => exact readView_leads vars name viewName s
  | sameIdentity other | compare other => exact fetch_leads vars other
  | new | copy | badSide | charAt | byteOffset | find | utf16 | utf32 => exact .refl vars

/-- One action, its last look at the string of the name included. -/
theorem step_leads (vars : StringVariables) (name : String) (action : Action) :
    Leads vars (vars.stepMarks name action) (vars.step name action).2.2 := by
  -- after the action the name has a string, so that the last look makes none
  have hlook : ∀ {marks : List Mark} {vars' : StringVariables}, Leads vars marks vars' →
      vars'.strings.lookup name ≠ none → Leads vars marks (vars'.fetch name).2 := by
    intro marks vars' h hname
    obtain ⟨s, hs⟩ := Option.ne_none_iff_exists'.mp hname
    rwa [fetch_of_some hs]
  have hact : ∀ action, Leads vars
      (vars.fetchMarks name ++ (vars.fetch name).2.actMarks name (vars.fetch name).1 action)
      (((vars.fetch name).2.act name (vars.fetch name).1 action).2.fetch name).2 := by
    intro action
    have h := act_leads (lookup_fetch vars name) action
    have hname : (vars.fetch name).2.strings.lookup name ≠ none := by
      rw [lookup_fetch]
      exact Option.some_ne_none _
    exact hlook ((fetch_leads vars name).trans h) (h.lookup_ne_none hname)
  cases action with
  | new bytes =>
    apply hlook (.bound vars name _)
    rw [lookup_create]
    exact Option.some_ne_none _
  | copy other =>
    apply hlook ((fetch_leads vars other).trans (.bound _ name _))
    rw [lookup_create]
    exact Option.some_ne_none _
  | _ => exact hact _

theorem after_leads (vars : StringVariables) (actions : List (String × Action)) :
    Leads vars (vars.marks actions) (vars.after actions) := by
  induction actions generalizing vars with
  | nil => exact .refl vars
  | cons head actions ih => exact (step_leads vars head.1 head.2).trans (ih _)

theorem after_append (vars : StringVariables) (early late : List (String × Action)) :
    vars.after (early ++ late) = (vars.after early).after late :=
  List.foldl_append

theorem marks_append (vars : StringVariables) (early late : List (String × Action)) :
    vars.marks (early ++ late) = vars.marks early ++ (vars.after early).marks late := by
  induction early generalizing vars with
  | nil => rfl
  | cons head early ih =>
    rw [List.cons_append, marks, marks, ih, List.append_assoc]
    rfl

end ScriptHost.StringVariables

import ScriptHost.Bindings
import ScriptHost.Comparison
import ScriptHost.ScriptString
import ScriptHost.Text.Incoming

/-!
# String variables and views

Named strings, each with an identity of its own, and named views onto them.

* `StringVariables.step` : one action on a string, and its reply.
* `StringVariables.run` : several actions.
-/

namespace ScriptHost

/-- Named strings and views, the strings that were handed out to callers, who only read them, and
the identity that the next string gets. -/
structure StringVariables where
  strings : List (String × ScriptString)
  views : List (String × View)
  lent : List ScriptString
  next : UInt64

namespace StringVariables

open Bindings (rebind)

def empty : StringVariables := { strings := [], views := [], lent := [], next := 1 }

/-- A string under a name, in place of the one that had it. -/
def keep (vars : StringVariables) (name : String) (s : ScriptString) : StringVariables :=
  { vars with strings := rebind vars.strings name s }

/-- A new string under a name. -/
def create (vars : StringVariables) (name text : String) : StringVariables :=
  let (s, next) := ScriptString.make text vars.next
  { vars with strings := rebind vars.strings name s, next }

/-- A new string for a caller. -/
def lend (vars : StringVariables) (text : String) : StringVariables :=
  let (s, next) := ScriptString.make text vars.next
  { vars with lent := s :: vars.lent, next }

/-- The string of a name; a name without one gets an empty string. -/
def fetch (vars : StringVariables) (name : String) : ScriptString × StringVariables :=
  match vars.strings.lookup name with
  | some s => (s, vars)
  | none => ((ScriptString.make "" vars.next).1, vars.create name "")

inductive Action
  | new (bytes : List UInt8)
  | copy (of : String)
  | push (text : String)
  | upper
  | lower
  | trim (set : String) (side : Text.TrimSide)
  | badSide
  | replace (pattern written : String)
  | remove (pattern : String)
  | replaceSpan (start length : Nat) (written : String)
  | substring (start length : Nat)
  | charAt (position : Nat)
  | byteOffset (position : Nat)
  | find (target : String) (start : Nat)
  | compareSpan (start length : Nat) (other : String)
  | split (separator : String)
  | words
  | utf16
  | utf32
  | view (name : String) (start length : Nat)
  | readView (name : String)
  | sameIdentity (of : String)
  | compare (of : String)

inductive Reply
  | nothing
  | badSide
  | flag (b : Bool)
  | text (text : String)
  | count (n : Option Nat)
  | texts (texts : List String)
  | numbers (numbers : List Nat)
  | outcome (outcome : Except Error Unit)
  | view (view : View)
  | read (valid : Bool) (text : Except Error String) (copy : Except Error ScriptString)
  | order (order : Ordering)

/-- An action that changes a string. -/
def change (vars : StringVariables) (name : String) (s : ScriptString) :
    Reply × StringVariables :=
  (.nothing, vars.keep name s)

/-- An action on a string. -/
def act (vars : StringVariables) (name : String) (s : ScriptString) :
    Action → Reply × StringVariables
  | .new _ | .copy _ => (.nothing, vars)
  | .push text => vars.change name (s.push text)
  | .upper => vars.change name s.upper
  | .lower => vars.change name s.lower
  | .trim set side => vars.change name (s.trim set side)
  | .badSide => (.badSide, vars)
  | .replace pattern written => vars.change name (s.replace pattern written)
  | .remove pattern => vars.change name (s.remove pattern)
  | .replaceSpan start length written =>
    match s.replaceSpan start length written with
    | .ok s => (.outcome (.ok ()), vars.keep name s)
    | .error e => (.outcome (.error e), vars)
  | .substring start length =>
    let text := String.ofList (Text.slice s.text.toList start length)
    (.text text, vars.lend text)
  | .charAt position => (.count (s.text.toList[position]?.map Char.toNat), vars)
  | .byteOffset position => (.count (Text.byteOffset? s.text.toList position), vars)
  | .find target start => (.count (Text.find? s.text.toList target.toList start), vars)
  | .compareSpan start length other =>
    (.flag (Text.slice s.text.toList start length == other.toList), vars.lend other)
  | .split separator =>
    let texts := (Text.splitAll s.text.toList separator.toList).map String.ofList
    (.texts texts, texts.foldl lend vars)
  | .words =>
    let texts := (Text.words s.text.toList).map String.ofList
    (.texts texts, texts.foldl lend vars)
  | .utf16 => (.numbers ((Text.Utf16.encode s.text.toList).map UInt16.toNat), vars)
  | .utf32 => (.numbers ((Text.Utf32.encode s.text.toList).map UInt32.toNat), vars)
  | .view viewName start length =>
    let view := View.take s start length
    (.view view, { vars with views := rebind vars.views viewName view })
  | .readView viewName =>
    match vars.views.lookup viewName with
    | none => (.nothing, vars)
    | some view =>
      let (copy, vars) :=
        match view.copy s vars.next with
        | .ok (copy, next) => (Except.ok copy, { vars with lent := copy :: vars.lent, next })
        | .error e => (.error e, vars)
      (.read (view.isValidFor s) (view.read s) copy, vars)
  | .sameIdentity other =>
    let (t, vars) := vars.fetch other
    (.flag (s.id == t.id), vars)
  | .compare other =>
    let (t, vars) := vars.fetch other
    (.order (Text.compare s.text t.text), vars)

/-- One action on the string of a name, and that string afterwards. -/
def step (vars : StringVariables) (name : String) (action : Action) :
    Reply × ScriptString × StringVariables :=
  let (reply, vars) :=
    match action with
    | .new bytes => (Reply.nothing, vars.create name (Text.received bytes))
    | .copy other =>
      let (s, vars) := vars.fetch other
      (Reply.nothing, vars.create name s.text)
    | action =>
      let (s, vars) := vars.fetch name
      vars.act name s action
  let (s, vars) := vars.fetch name
  (reply, s, vars)

/-- Several actions, with the string of each afterwards. -/
def run (vars : StringVariables) : List (String × Action) → List (Reply × ScriptString)
  | [] => []
  | (name, action) :: actions =>
    let (reply, s, vars) := vars.step name action
    (reply, s) :: run vars actions

end StringVariables

end ScriptHost

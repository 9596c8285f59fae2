import Mathlib.Data.List.InsertIdx
import ScriptHost.Method.InPlace
import ScriptHost.Proofs.Store.Forest

/-!
# Methods change all or nothing

Every step by which a method changes what it is called on comes after all of its checks. What is
done step by step is therefore what the whole call is said to do: either there is a result, and the
change is made, or there is an error, and nothing has happened.

* `InPlace.query_eq`, `InPlace.update_of_mutates`, `InPlace.onArray_eq` : the steps of the methods.
* `InPlace.call_eq`, `InPlace.callConstant_eq` : the steps of a call.
* `InPlace.Orderly` : all or nothing, and nothing at all for a method that only looks.
* `InPlace.calls_orderly` : calls on slots and on constants.
-/

namespace ScriptHost.InPlace

variable {ω β γ : Type} {method : Method} {arguments : List Value}

/-! ## Steps -/

theorem bind_at (steps : Steps ω β) (next : β → Steps ω γ) (w : ω) :
    (steps >>= next) w =
      match steps w with
      | (.ok b, w') => next b w'
      | (.error halt, w') => (.error halt, w') := by
  change (match steps w with | (result, w') => ExceptT.bindCont next result w') = _
  rcases steps w with ⟨halt | b, w'⟩ <;> rfl

theorem lift_at (result : Except Halt β) (w : ω) :
    (liftM result : Steps ω β) w = (result, w) := rfl

theorem get_at (w : ω) : (get : Steps ω ω) w = (.ok w, w) := rfl

theorem modify_at (change : ω → ω) (w : ω) :
    (modify change : Steps ω PUnit) w = (.ok ⟨⟩, change w) := rfl

theorem pure_at (b : β) (w : ω) : (pure b : Steps ω β) w = (.ok b, w) := rfl

theorem checked_ok (b : β) : checked (.ok b) = .ok b := rfl

/-- A check made before the rest of a function is part of it. -/
theorem checked_bind (result : Except Error β) (next : β → Except Error γ) :
    checked (result >>= next) = checked result >>= fun b => checked (next b) := by
  cases result <;> rfl

/-! ## Strings -/

/-- No method that only looks at a string reads an argument that is not there, and all of them are
found. -/
theorem query_eq (hstring : method.receiver = .string) (hlooks : method.mutates = false)
    (text : String) (arguments : List Value) :
    query text method arguments = checked (TextMethod.query text method arguments) := by
  cases method with
  | length | upper | lower | isValidUnicode | utf16 | utf32 =>
    rcases arguments with _ | ⟨first, rest⟩ <;> rfl
  | find | trim =>
    rcases arguments with _ | ⟨first, _ | ⟨second, _ | ⟨third, rest⟩⟩⟩
    · rfl
    · simp only [TextMethod.query, checked_bind]
      rfl
    · simp only [TextMethod.query, checked_bind]
      rfl
    · rfl
  | substr =>
    rcases arguments with _ | ⟨first, _ | ⟨second, _ | ⟨third, rest⟩⟩⟩
    · rfl
    · rfl
    · simp only [TextMethod.query, checked_bind]
      rfl
    · rfl
  | split | join =>
    rcases arguments with _ | ⟨first, _ | ⟨second, rest⟩⟩
    · rfl
    · simp only [TextMethod.query, checked_bind]
      rfl
    · rfl
  | replace | subreplace => cases hlooks
  | size | append | insert | erase | reverse => cases hstring

theorem update_of_looks (hstring : method.receiver = .string) (hlooks : method.mutates = false)
    (arguments : List Value) (s : ScriptString) :
    update method arguments s = (checked (TextMethod.query s.text method arguments), s) := by
  have hquery := query_eq hstring hlooks s.text arguments
  cases method with
  | replace | subreplace => cases hlooks
  | size | append | insert | erase | reverse => cases hstring
  | _ => exact congrArg (·, s) hquery

/-- What a method that changes a string returns, and what it leaves of it. -/
def updated (s : ScriptString) (result : Except Error ScriptString) :
    Except Halt Value × ScriptString :=
  match result with
  | .ok s => (.ok (.string s.text), s)
  | .error e => (.error (.failed e), s)

/-- How steps end that give no value, and what is there after them: what was there before, if they
fail. -/
def settled (before : ω) (result : Except Error ω) : Except Halt Unit × ω :=
  match result with
  | .ok after => (.ok (), after)
  | .error e => (.error (.failed e), before)

theorem replaceSpan_at (start length : Nat) (written : String) (s : ScriptString) :
    replaceSpan start length written s = settled s (s.replaceSpan start length written) := by
  unfold replaceSpan ScriptString.replaceSpan
  simp only [bind_at, get_at]
  split
  · rfl
  · rfl

theorem update_of_mutates (hstring : method.receiver = .string) (hmutates : method.mutates = true)
    (arguments : List Value) (s : ScriptString) :
    update method arguments s = updated s (TextMethod.update s method arguments) := by
  cases method with
  | replace =>
    rcases arguments with _ | ⟨first, _ | ⟨second, _ | ⟨third, rest⟩⟩⟩
    · rfl
    · rfl
    · have hpattern : read (Arguments.text .replace) [first, second] 0 =
          checked (Arguments.text .replace 1 first) := rfl
      have hwritten : read (Arguments.text .replace) [first, second] 1 =
          checked (Arguments.text .replace 2 second) := rfl
      simp only [update, TextMethod.update, bind_at, lift_at, hpattern, hwritten]
      cases Arguments.text .replace 1 first with
      | error e => rfl
      | ok pattern => cases Arguments.text .replace 2 second <;> rfl
    · rfl
  | subreplace =>
    rcases arguments with _ | ⟨first, _ | ⟨second, _ | ⟨third, _ | ⟨fourth, rest⟩⟩⟩⟩
    · rfl
    · rfl
    · rfl
    · have hcounted : counted .subreplace [first, second, third] 3 (some 3) = .ok () := rfl
      have hwritten : read (Arguments.text .subreplace) [first, second, third] 0 =
          checked (Arguments.text .subreplace 1 first) := rfl
      have hstart : ∀ count, startAt .subreplace [first, second, third] 1 count =
          checked (Arguments.start .subreplace 2 second count) := fun _ => rfl
      have hlength : read (Arguments.length .subreplace) [first, second, third] 2 =
          checked (Arguments.length .subreplace 3 third) := rfl
      simp only [update, TextMethod.update, bind_at, lift_at, get_at, hcounted, hwritten, hstart,
        hlength, replaceSpan_at]
      cases Arguments.text .subreplace 1 first with
      | error e => rfl
      | ok written =>
        simp only [checked_ok]
        cases Arguments.start .subreplace 2 second s.text.toList.length with
        | error e => rfl
        | ok start =>
          cases Arguments.length .subreplace 3 third with
          | error e => rfl
          | ok length =>
            simp only [checked_ok]
            change _ = updated s (s.replaceSpan start length written)
            cases s.replaceSpan start length written <;> rfl
    · rfl
  | size | append | insert | erase | reverse => cases hstring
  | _ => cases hmutates

/-! ## What is written back -/

/-- The result of a call and the store after it, which is as before if the call has failed. -/
def outcome (st : Store) (result : Except Error (Value × Store)) : Except Halt Value × Store :=
  match result with
  | .ok (value, st) => (.ok value, st)
  | .error e => (.error (.failed e), st)

theorem put_of_cell {st : Store} {slot : Nat} {content : Cell} (h : st.cell slot = content) :
    st.put slot content = st := by
  subst h
  unfold Store.put Store.cell
  congr
  by_cases hlt : slot < st.cells.size
  · simp [Array.setIfInBounds, hlt]
  · simp [Array.setIfInBounds, hlt]

theorem onString_eq (hstring : method.receiver = .string) (arguments : List Value) {st : Store}
    {slot : Nat} {s : ScriptString} (hcell : st.cell slot = .string s) :
    atString slot s (update method arguments) st =
      outcome st (st.callOnString slot s method arguments) := by
  have hsame := put_of_cell hcell
  unfold atString Store.callOnString
  cases hmutates : method.mutates with
  | true =>
    rw [if_pos rfl, update_of_mutates hstring hmutates]
    cases TextMethod.update s method arguments with
    | error e => exact congrArg (Prod.mk _) hsame
    | ok s' => rfl
  | false =>
    rw [if_neg Bool.false_ne_true, update_of_looks hstring hmutates]
    cases TextMethod.query s.text method arguments <;> exact congrArg (Prod.mk _) hsame

/-! ## Arrays -/

theorem push_all (values : List Value) (slots : List Nat) (st : Store) :
    (values.forM push : Steps Elements PUnit) (slots, st) =
      (.ok ⟨⟩, slots ++ (st.placeAll values).1, (st.placeAll values).2) := by
  induction values generalizing slots st with
  | nil => simp [Store.placeAll, pure_at]
  | cons value values ih =>
    change (push value >>= fun _ => values.forM push) (slots, st) = _
    rw [bind_at]
    refine (ih (slots ++ [(st.place value).1]) (st.place value).2).trans ?_
    rw [List.append_assoc]
    rfl

theorem length_placeAll (values : List Value) (st : Store) :
    (st.placeAll values).1.length = values.length := by
  induction values generalizing st with
  | nil => simp [Store.placeAll]
  | cons value values ih =>
    rw [Store.placeAll]
    exact congrArg (· + 1) (ih _)

theorem start_le {position count place : Nat} {given : Value}
    (h : Arguments.start method position given count = .ok place) : place ≤ count := by
  unfold Arguments.start at h
  cases hn : Arguments.integer method position given with
  | error e => simp [hn, bind, Except.bind] at h
  | ok n =>
    simp only [hn, bind, Except.bind] at h
    split at h
    · cases h
    · cases h
      omega

theorem callOnArray_insert (st : Store) (slot : Nat) {slots : List Nat} {first second : Value}
    {place : Nat} (hplace : Arguments.start .insert 1 first slots.length = .ok place)
    (hle : place ≤ slots.length) :
    st.callOnArray slot slots .insert [first, second] =
      .ok (Value.ofCount (slots.length + 1), (st.place second).2.put slot
        (.array (slots.insertIdx place (st.place second).1))) := by
  have hinserted : st.insertItem slot slots place second = some ((st.place second).2.put slot
      (.array (slots.insertIdx place (st.place second).1))) := if_pos hle
  simp only [Store.callOnArray, hplace, bind, Except.bind, hinserted]

/-- What is left of an array is written back to the slot. -/
def writeBack {β : Type} (slot : Nat) (run : Except Halt β × Elements) : Except Halt β × Store :=
  (run.1, run.2.2.put slot (.array run.2.1))

theorem atArray_at (slot : Nat) (slots : List Nat) (steps : Steps Elements β) (st : Store) :
    atArray slot slots steps st = writeBack slot (steps (slots, st)) := rfl

theorem onArray_eq (harray : method.receiver = .array) (arguments : List Value) {st : Store}
    {slot : Nat} {slots : List Nat} (hcell : st.cell slot = .array slots) :
    atArray slot slots (onArray method arguments) st =
      outcome st (st.callOnArray slot slots method arguments) := by
  have hsame := put_of_cell hcell
  have hstays : ∀ result : Except Halt Value, writeBack slot (result, slots, st) = (result, st) :=
    fun result => congrArg (Prod.mk result) hsame
  rw [atArray_at]
  cases method with
  | size =>
    rcases arguments with _ | ⟨first, rest⟩
    · exact hstays _
    · exact hstays _
  | append =>
    rcases arguments with _ | ⟨first, rest⟩
    · exact hstays _
    · have hcounted : counted .append (first :: rest) 1 none = .ok () := rfl
      have hpush := push_all (first :: rest) slots st
      simp only [onArray, bind_at, lift_at, get_at, pure_at, hcounted, hpush, List.length_append,
        length_placeAll]
      rfl
  | insert =>
    rcases arguments with _ | ⟨first, _ | ⟨second, _ | ⟨third, rest⟩⟩⟩
    · exact hstays _
    · exact hstays _
    · have hcounted : counted .insert [first, second] 2 (some 2) = .ok () := rfl
      have hstart : ∀ count, startAt .insert [first, second] 0 count =
          checked (Arguments.start .insert 1 first count) := fun _ => rfl
      have hvalue : argument [first, second] 1 = .ok second := rfl
      simp only [onArray, bind_at, lift_at, get_at, hcounted, hstart, hvalue]
      cases hplace : Arguments.start .insert 1 first slots.length with
      | error e =>
        rw [Store.callOnArray, hplace]
        exact hstays _
      | ok place =>
        have hle := start_le hplace
        have hinsert : insertAt place second (slots, st) =
            (.ok ⟨⟩, slots.insertIdx place (st.place second).1, (st.place second).2) := by
          simp only [insertAt, modify_at, if_pos hle]
        rw [callOnArray_insert st slot hplace hle]
        simp only [checked_ok, hinsert]
        rw [pure_at, List.length_insertIdx_of_le_length hle]
        rfl
    · exact hstays _
  | erase =>
    rcases arguments with _ | ⟨first, _ | ⟨second, rest⟩⟩
    · exact hstays _
    · have hcounted : counted .erase [first] 1 (some 1) = .ok () := rfl
      have hnumber : read (Arguments.integer .erase) [first] 0 =
          checked (Arguments.integer .erase 1 first) := rfl
      simp only [onArray, Store.callOnArray, bind_at, lift_at, get_at, hcounted, hnumber]
      cases Arguments.integer .erase 1 first with
      | error e => exact hstays _
      | ok n =>
        simp only [checked_ok, Store.removeItem]
        change _ = outcome st (if n < 1 then _ else _)
        by_cases hn : n < 1
        · rw [if_pos hn, if_pos hn]
          exact hstays _
        · rw [if_neg hn, if_neg hn]
          cases slots[n.toNat - 1]? with
          | none => exact hstays _
          | some element => rfl
    · exact hstays _
  | reverse =>
    rcases arguments with _ | ⟨first, rest⟩
    · rfl
    · exact hstays _
  | _ => cases harray

/-! ## Calls -/

/-- A call on a slot done step by step. -/
theorem call_eq (slot : Nat) (method : Method) (arguments : List Value) (st : Store) :
    call slot method arguments st = outcome st (st.call slot method arguments) := by
  unfold call Store.call
  cases hcell : st.cell slot with
  | string s =>
    cases hreceiver : method.receiver with
    | string => exact onString_eq hreceiver arguments hcell
    | _ => rfl
  | array slots =>
    cases hreceiver : method.receiver with
    | array => exact onArray_eq hreceiver arguments hcell
    | _ => rfl
  | _ => cases method.receiver <;> rfl

theorem callMethod_eq (slot : Nat) (name : String) (arguments : List Value) (st : Store) :
    callMethod slot name arguments st = outcome st (st.callMethod slot name arguments) := by
  unfold callMethod Store.callMethod
  cases Method.lookup? name with
  | none => rfl
  | some method => exact call_eq slot method arguments st

theorem callConstant_eq (constant : ConstantString) (method : Method) (arguments : List Value) :
    callConstant constant method arguments = checked (constant.call method arguments) := by
  unfold callConstant ConstantString.call
  split
  · rfl
  · rename_i hlooks
    simp only [Bool.or_eq_true, bne_iff_ne, not_or, not_not, Bool.not_eq_true] at hlooks
    exact query_eq hlooks.2 hlooks.1 constant.text arguments

theorem callConstantMethod_eq (constant : ConstantString) (name : String)
    (arguments : List Value) :
    callConstantMethod constant name arguments =
      checked (constant.callMethod name arguments) := by
  unfold callConstantMethod ConstantString.callMethod
  cases Method.lookup? name with
  | none => rfl
  | some method => exact callConstant_eq constant method arguments

/-! ## All or nothing -/

/-- A method that only looks leaves everything as it was. -/
theorem call_of_looks (hlooks : method.mutates = false) {st st' : Store} {slot : Nat}
    {value : Value} (h : st.call slot method arguments = .ok (value, st')) : st' = st := by
  unfold Store.call at h
  split at h
  · unfold Store.callOnString at h
    rw [hlooks, if_neg Bool.false_ne_true] at h
    cases hquery : TextMethod.query _ method arguments with
    | error e =>
      rw [hquery] at h
      cases h
    | ok result =>
      rw [hquery] at h
      cases h
      rfl
  · rename_i slots hcell hreceiver
    cases method with
    | size =>
      rcases arguments with _ | ⟨first, rest⟩
      · cases h
        rfl
      · cases h
    | append | insert | erase | reverse | replace | subreplace => cases hlooks
    | _ => cases hreceiver
  · cases h

/-- A call that comes to its end, or stops because the method fails and has changed nothing by then.
If the method only looks, nothing is changed in any case. -/
structure Orderly (st : Store) (looks : Prop) (run : Except Halt Value × Store) : Prop where
  given : ∀ position, run.1 ≠ .error (.missing position)
  found : ∀ method, run.1 ≠ .error (.astray method)
  failed : ∀ halt, run.1 = .error halt → run.2 = st
  looked : looks → run.2 = st

theorem orderly_outcome {st : Store} {looks : Prop} {result : Except Error (Value × Store)}
    (hlooks : looks → ∀ value st', result = .ok (value, st') → st' = st) :
    Orderly st looks (outcome st result) := by
  cases result with
  | error e => exact ⟨nofun, nofun, fun _ _ => rfl, fun _ => rfl⟩
  | ok result => exact ⟨nofun, nofun, nofun, fun h => hlooks h result.1 result.2 rfl⟩

/-- A method that only looks at a string does the same for a constant. -/
theorem constant_call (hstring : method.receiver = .string) (hlooks : method.mutates = false)
    {st : Store} {slot : Nat} {s : ScriptString} (hcell : st.cell slot = .string s)
    (arguments : List Value) :
    st.call slot method arguments =
      (ConstantString.call ⟨s.text⟩ method arguments).map fun value => (value, st) := by
  unfold Store.call ConstantString.call
  rw [hcell, hstring, hlooks]
  dsimp only
  unfold Store.callOnString
  rw [hlooks]
  rfl

theorem constant_call_of_other
    (hother : ¬ (method.receiver = .string ∧ method.mutates = false)) (constant : ConstantString)
    (arguments : List Value) :
    constant.call method arguments = .error (.noSuchMethod .constant method.name) := by
  unfold ConstantString.call
  split
  · rfl
  · rename_i hlooks
    simp only [Bool.or_eq_true, bne_iff_ne, not_or, not_not, Bool.not_eq_true] at hlooks
    exact absurd hlooks.symm hother

/-- A method called on a slot by its place in the catalog or by its name, with any arguments, never
reads an argument that is not there and is always found among the methods of its kind. If it fails,
or if it only looks, it leaves the store, and with it what it was called on, as it was. All in all
it does what the whole call is said to do.

The same holds of constants. They have the methods that only look at a string, with the results and
the errors of a string of the same text; for any other method they say that they have none. -/
theorem calls_orderly (st : Store) (slot : Nat) (arguments : List Value) :
    (∀ method : Method,
      call slot method arguments st = outcome st (st.call slot method arguments) ∧
      Orderly st (method.mutates = false) (call slot method arguments st)) ∧
    (∀ name,
      callMethod slot name arguments st = outcome st (st.callMethod slot name arguments) ∧
      Orderly st (∀ method ∈ Method.lookup? name, method.mutates = false)
        (callMethod slot name arguments st)) ∧
    (∀ (constant : ConstantString) (method : Method),
      callConstant constant method arguments = checked (constant.call method arguments) ∧
      (method.receiver = .string → method.mutates = false →
        ∀ s, st.cell slot = .string s → s.text = constant.text →
          st.call slot method arguments =
            (constant.call method arguments).map fun value => (value, st)) ∧
      (¬ (method.receiver = .string ∧ method.mutates = false) →
        ∃ e, constant.call method arguments = .error e ∧
          e = .noSuchMethod .constant method.name ∧
          e.message = "NoSuchMethod: ConstString." ++ method.name)) ∧
    ∀ (constant : ConstantString) name,
      callConstantMethod constant name arguments = checked (constant.callMethod name arguments) ∧
      ∀ method ∈ Method.lookup? name,
        st.callMethod slot name arguments = st.call slot method arguments ∧
          constant.callMethod name arguments = constant.call method arguments := by
  refine ⟨fun method => ?_, fun name => ?_, fun constant method => ?_, fun constant name => ?_⟩
  · have heq := call_eq slot method arguments st
    exact ⟨heq, heq ▸ orderly_outcome fun hlooks _ _ => call_of_looks hlooks⟩
  · have heq := callMethod_eq slot name arguments st
    refine ⟨heq, heq ▸ orderly_outcome fun hlooks value st' hok => ?_⟩
    unfold Store.callMethod at hok
    split at hok
    · rename_i method hmethod
      exact call_of_looks (hlooks method hmethod) hok
    · cases hok
  · refine ⟨callConstant_eq constant method arguments, fun hstring hlooks s hcell htext => ?_,
      fun hother => ⟨_, constant_call_of_other hother constant arguments, rfl, rfl⟩⟩
    have hsame := constant_call hstring hlooks hcell arguments
    rwa [htext] at hsame
  · refine ⟨callConstantMethod_eq constant name arguments, fun method hmethod => ?_⟩
    unfold Store.callMethod ConstantString.callMethod
    rw [hmethod]
    exact ⟨rfl, rfl⟩

/-- A store with one string. -/
def lone : Store := { cells := #[.string ⟨"ab", 1, 0⟩], nextString := 2 }

/-- The third argument is fine, but not the second one, and the string stays as it was. A constant
of the same text has the same length, and cannot be changed. -/
theorem calls_orderly_lone :
    (call 0 .subreplace [.string "x", .integer 9, .integer 1] lone).2 = lone ∧
      (call 0 .length [] lone).2 = lone ∧
      lone.call 0 .length [] =
        (ConstantString.call ⟨"ab"⟩ .length []).map (fun value => (value, lone)) ∧
      ∃ e, ConstantString.call ⟨"ab"⟩ .replace [] = .error e ∧
        e = .noSuchMethod .constant "replace" ∧
        e.message = "NoSuchMethod: ConstString.replace" := by
  obtain ⟨hwritten, -⟩ := calls_orderly lone 0 [.string "x", .integer 9, .integer 1]
  obtain ⟨hcalls, -, hconstants, -⟩ := calls_orderly lone 0 []
  obtain ⟨-, hfails⟩ := hwritten .subreplace
  obtain ⟨-, hlength⟩ := hcalls .length
  obtain ⟨-, hagrees, -⟩ := hconstants ⟨"ab"⟩ .length
  obtain ⟨-, -, hother⟩ := hconstants ⟨"ab"⟩ .replace
  refine ⟨hfails.failed (.failed (.indexOutOfRange 9 2)) rfl, hlength.looked rfl,
    hagrees rfl rfl ⟨"ab", 1, 0⟩ rfl rfl, hother fun h => ?_⟩
  exact absurd h.2 (by decide)

end ScriptHost.InPlace

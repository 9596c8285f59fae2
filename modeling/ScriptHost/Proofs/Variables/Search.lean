import ScriptHost.Proofs.Text.ByteSearch
import ScriptHost.Proofs.Variables.Span

/-!
# Scripts find the first occurrence

Scripts count positions from one and get zero where nothing is found. In a string whose positions
fit into an integer, this loses nothing: what is found can be taken out of the string again.

* `SearchesFrom` : the arguments of a search.
* `TextMethod.foundAt_eq` : the number that stands for what is found.
* `Arguments.exists_start_iff` : the places from which a search may start.
* `Variables.search_finds_first` : what a search finds, by name and by script.
-/

namespace ScriptHost

open Text

/-- The arguments with which a script looks for a target from a place on, counted from zero. -/
inductive SearchesFrom (size : Nat) (target : String) : List Value → Nat → Prop
  | beginning : SearchesFrom size target [.string target] 0
  | place {first : Value} {start : Nat} :
    Subscript.Names first start → start ≤ size →
      SearchesFrom size target [.string target, first] start

/-! ## Places -/

/-- A place is read from an integer between one and the number behind the last character. -/
theorem Arguments.exists_start_iff {method : Method} {position size : Nat} {given : Value} :
    (∃ place, start method position given size = .ok place) ↔
      ∃ n : Int32, given = .integer n ∧ 1 ≤ n.toInt ∧ n.toInt ≤ size + 1 := by
  constructor
  · rintro ⟨place, hplace⟩
    cases given with
    | integer n =>
      refine ⟨n, rfl, ?_⟩
      by_contra hout
      rw [start_outside _ _ (by omega)] at hplace
      cases hplace
    | uninit | boolean | double | string | array => cases hplace
  · rintro ⟨n, rfl, hlow, hhigh⟩
    have hnames : Subscript.Names (.integer n) (n.toInt.toNat - 1) := ⟨n, rfl, by omega⟩
    exact ⟨_, start_of_names _ _ hnames (by omega)⟩

namespace TextMethod

variable {text target : String} {arguments : List Value} {start : Nat}

/-- The number that stands for what is found. -/
theorem foundAt_eq (hsize : text.toList.length < 2 ^ 31 - 1) (target : String) (start : Nat) :
    ∃ r : Int32, foundAt text target start = .integer r ∧
      ((∃ i, IsFirst text.toList target.toList start i ∧ r.toInt = i + 1) ∨
        (∀ i, ¬ IsFirst text.toList target.toList start i) ∧ r.toInt = 0) := by
  rw [foundAt]
  cases hfound : find? text.toList target.toList start with
  | none =>
    refine ⟨Int32.ofNat 0, rfl, .inr ⟨fun i hi => ?_, rfl⟩⟩
    rw [find?_eq_some_iff.mpr hi] at hfound
    cases hfound
  | some i =>
    have hfirst := find?_eq_some_iff.mp hfound
    have hi : i ≤ text.toList.length := hfirst.1.2.1
    refine ⟨Int32.ofNat (i + 1), rfl, .inl ⟨i, hfirst, ?_⟩⟩
    rw [Int32.toInt_ofNat_of_lt (by omega)]
    rfl

theorem query_find (h : SearchesFrom text.toList.length target arguments start) :
    query text .find arguments = .ok (foundAt text target start) := by
  cases h with
  | beginning => rfl
  | place hfirst hstart =>
    simp only [query, Arguments.text, Arguments.start_of_names _ _ hfirst hstart, bind,
      Except.bind]

theorem query_find_start (text target : String) (first : Value) :
    query text .find [.string target, first] =
      (Arguments.start .find 2 first text.toList.length).map (foundAt text target) := by
  simp only [query, Arguments.text, bind, Except.bind]
  cases Arguments.start .find 2 first text.toList.length <;> rfl

end TextMethod

namespace Variables

variable {vars : Variables} {slot : Nat} {s : ScriptString} {target : String}

/-- What is found is read back with its place and its length. -/
theorem act_substr_found (hs : vars.store.cell slot = .string s)
    (hsize : s.text.toList.length < 2 ^ 31 - 1) {i : Nat}
    (hoccurs : OccursAt s.text.toList target.toList i) {r : Int32} (hr : r.toInt = i + 1) :
    ∃ count : Int32, count.toInt = target.toList.length ∧
      vars.act slot (.call "substr" [.integer r, .integer count]) =
        (.result (.ok (.string target)), vars) := by
  have hroom := hoccurs.add_length_le
  have hcount : (Int32.ofNat target.toList.length).toInt = target.toList.length :=
    Int32.toInt_ofNat_of_lt (by omega)
  obtain ⟨-, hcopied⟩ := act_methods hs ⟨r, rfl, hr⟩ hoccurs.1 hcount ""
  refine ⟨_, hcount, hcopied.trans ?_⟩
  rw [Value.slice, slice, hoccurs.take_eq, String.ofList_toList]

/-- A search finds the first position, not before its start, from which the characters of a string
begin with those of the target, and finds nothing only if there is none; among the bytes of the
string it comes to the same. Scripts get the position counted from one, and zero for none; what is
found is the target again. They may start from every character and from right behind the last. -/
theorem search_finds_first (vars : Variables) (slot : Nat) (s : ScriptString) (target : String)
    (hs : vars.store.cell slot = .string s) :
    let text := s.text.toList
    let isFirst := IsFirst text target.toList
    let searched := fun arguments => vars.act slot (.call "find" arguments)
    (∀ (strings : StringVariables) (name : String) (start : Nat), ∃ found,
      strings.act name s (.find target start) = (.count found, strings) ∧
      (∀ i, found = some i ↔ isFirst start i) ∧
      (found = none ↔ ∀ i, start ≤ i → ¬ OccursAt text target.toList i) ∧
      Buffer.find? text target.toList start = found) ∧
    (∀ start span, Buffer.passed? text target.toList start = some span →
      Buffer.isCut (Utf8.encode text) span.1 span.2 = true) ∧
    (text.length < 2 ^ 31 - 1 → ∀ arguments start,
      SearchesFrom text.length target arguments start → ∃ r : Int32,
        searched arguments = (.result (.ok (.integer r)), vars) ∧
        ((∃ i, isFirst start i ∧ r.toInt = i + 1) ∨ (∀ i, ¬ isFirst start i) ∧ r.toInt = 0) ∧
        (0 < r.toInt → ∃ count : Int32, count.toInt = target.toList.length ∧
          vars.act slot (.call "substr" [.integer r, .integer count]) =
            (.result (.ok (.string target)), vars))) ∧
    ∀ first, (∃ value, searched [.string target, first] = (.result (.ok value), vars)) ↔
      ∃ n : Int32, first = .integer n ∧ 1 ≤ n.toInt ∧ n.toInt ≤ text.length + 1 := by
  intro text isFirst searched
  have hsearched : ∀ arguments, searched arguments =
      (.result (TextMethod.query s.text .find arguments), vars) :=
    act_query hs (by decide) rfl rfl
  refine ⟨?_, fun start span => Buffer.isCut_passed text target.toList start, ?_, ?_⟩
  · intro strings name start
    exact ⟨_, rfl, fun i => find?_eq_some_iff, find?_eq_none_iff, Buffer.find?_eq ..⟩
  · intro hsize arguments start harguments
    obtain ⟨r, hfound, hr⟩ := TextMethod.foundAt_eq hsize target start
    refine ⟨r, ?_, hr, fun hpositive => ?_⟩
    · rw [hsearched, TextMethod.query_find harguments, hfound]
    · rcases hr with ⟨i, hfirst, hr⟩ | ⟨-, hr⟩
      · exact act_substr_found hs hsize hfirst.1.2 hr
      · omega
  · intro first
    rw [hsearched, TextMethod.query_find_start, ← Arguments.exists_start_iff]
    cases Arguments.start .find 2 first s.text.toList.length with
    | ok place => exact iff_of_true ⟨_, rfl⟩ ⟨place, rfl⟩
    | error e =>
      refine iff_of_false ?_ nofun
      rintro ⟨value, hvalue⟩
      cases hvalue

/-- The second of two occurrences that overlap is found from a place inside the first one. -/
theorem search_finds_first_overlapping :
    let vars := (Variables.empty.step "a" (.new (.string "éaéaé"))).2
    vars.act 0 (.call "find" [.string "éaé", .integer 2]) =
      (.result (.ok (.integer 3)), vars) ∧
    vars.act 0 (.call "substr" [.integer 3, .integer 3]) =
      (.result (.ok (.string "éaé")), vars) := by
  intro vars
  have hs : vars.store.cell 0 = .string ⟨"éaéaé", 1, 0⟩ := by decide
  have hfirst : IsFirst "éaéaé".toList "éaé".toList 1 2 := find?_eq_some_iff.mp (by decide)
  obtain ⟨-, -, hscript, -⟩ := search_finds_first vars 0 ⟨"éaéaé", 1, 0⟩ "éaé" hs
  obtain ⟨r, hfound, hr, hback⟩ := hscript (by decide) _ _ (.place ⟨2, rfl, rfl⟩ (by decide))
  obtain rfl : r = 3 := by
    rcases hr with ⟨i, hi, hr⟩ | ⟨hnone, -⟩
    · obtain rfl : i = 2 := hi.unique hfirst
      exact Int32.toInt_inj.mp hr
    · exact absurd hfirst (hnone 2)
  obtain ⟨count, hcount, hcopied⟩ := hback (by decide)
  obtain rfl : count = 3 := Int32.toInt_inj.mp hcount
  exact ⟨hfound, hcopied⟩

end Variables

end ScriptHost

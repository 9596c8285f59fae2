import ScriptHost.Proofs.StringVariables.Identity
import ScriptHost.Proofs.Text.Span

/-!
# Views over whole runs

Identity and generation together tell a text: as long as both are those that a view was taken from,
the view reads what it was taken of, and from no other string can it be read.

* `StringVariables.isValidFor_take_iff` : which string a view is valid for after a run.
* `StringVariables.view_reads_back` : what reading a view gives after a run.
-/

namespace ScriptHost

namespace View

theorem isValidFor_iff {view : View} {s : ScriptString} :
    view.isValidFor s = true ↔ view.owner = s.id ∧ view.generation = s.generation := by
  rw [isValidFor, Bool.and_eq_true, beq_iff_eq, beq_iff_eq]

theorem isValidFor_take_self (s : ScriptString) (start length : Nat) :
    (take s start length).isValidFor s = true :=
  isValidFor_iff.mpr ⟨rfl, rfl⟩

theorem read_of_not_valid {view : View} {s : ScriptString} (h : view.isValidFor s ≠ true) :
    view.read s = .error .staleView := by
  rw [read, if_neg h]

/-- The positions of a view lie between characters of the string it was taken from. -/
theorem read_take_self (s : ScriptString) (start length : Nat) :
    (take s start length).read s =
      .ok (String.ofList (Text.slice s.text.toList start length)) := by
  have hbytes := Text.readBytes?_byteSpan s.text.toList start length
  rw [read, if_pos (isValidFor_take_self s start length)]
  simp only [take, hbytes]

end View

namespace StringVariables

variable {vars vars' : StringVariables} {count : Nat} {marks : List Mark} {name other : String}
  {s t x : ScriptString}

/-- A number of changes that is not zero is seen in the generation. -/
theorem count_eq_zero_of_generation (hmarks : changes marks < 2 ^ 64)
    (hgen : s.generation = s.generation + UInt64.ofNat (marks.count (.changed name))) :
    .changed name ∉ marks := by
  have hzero : UInt64.ofNat (marks.count (.changed name)) = 0 := by
    rwa [eq_comm, UInt64.add_eq_left] at hgen
  have hlt := Nat.lt_of_le_of_lt (count_le_changes marks name) hmarks
  rw [← List.count_eq_zero, ← Nat.mod_eq_of_lt hlt, ← UInt64.toNat_ofNat', hzero]
  rfl

/-- After a run a view is valid for one string at most: for the one it was taken from, if nothing
was done to that string. -/
theorem isValidFor_take_iff (h : Leads vars marks vars') (hvars : Sound count vars)
    (hcount : count + made marks < 2 ^ 64) (hchanges : changes marks < 2 ^ 64)
    (hs : vars.strings.lookup name = some s) (start length : Nat) (hx : x ∈ vars'.live) :
    (View.take s start length).isValidFor x = true ↔
      vars'.strings.lookup name = some x ∧ Untouched name marks := by
  constructor
  · intro hvalid
    obtain ⟨hid, hgen⟩ : s.id = x.id ∧ s.generation = x.generation := View.isValidFor_iff.mp hvalid
    have hold : ¬ Fresh vars marks x := fun hfresh =>
      hvars.id_ne_of_fresh hcount (mem_live_of_lookup hs) hfresh hid.symm
    rcases List.mem_append.mp hx with hnamed | hlent
    · obtain ⟨⟨other, _⟩, hmem, rfl⟩ := List.mem_map.mp hnamed
      have hlookup := Bindings.lookup_of_mem (h.sound hvars hcount).names hmem
      obtain ⟨hbound, t, ht, hid', hgen'⟩ := (h.origin hlookup).resolve_left hold
      obtain rfl : other = name := hvars.name_unique hs ht (hid.trans hid').symm
      obtain rfl : s = t := Option.some.inj (hs.symm.trans ht)
      exact ⟨hlookup, hbound, count_eq_zero_of_generation hchanges (hgen.trans hgen')⟩
    · have hearlier := (h.origin_lent hlent).resolve_left hold
      exact absurd hid.symm (hvars.not_lent hs hearlier)
  · rintro ⟨hlookup, hmarks⟩
    have hkept := h.lookup_untouched hs hmarks
    obtain rfl : x = s := Option.some.inj (hlookup.symm.trans hkept)
    exact View.isValidFor_take_self x start length

/-- What a view gives when it is read from any string there is after a run. -/
theorem read_take (h : Leads vars marks vars') (hvars : Sound count vars)
    (hcount : count + made marks < 2 ^ 64) (hchanges : changes marks < 2 ^ 64)
    (hs : vars.strings.lookup name = some s) (start length : Nat) (hx : x ∈ vars'.live) :
    let view := View.take s start length
    let text := String.ofList (Text.slice s.text.toList start length)
    (view.read x = .ok text ∨ view.read x = .error .staleView) ∧
      (view.read x = .ok text ↔ vars'.strings.lookup name = some x ∧ Untouched name marks) ∧
      (view.isValidFor x = true →
        Text.readBytes? x.text.toList view.start view.stop = some text.toList) := by
  intro view text
  have hvalid := isValidFor_take_iff h hvars hcount hchanges hs start length hx
  by_cases hview : view.isValidFor x = true
  · -- the view is valid for no other string than the one it was taken from
    obtain ⟨hlookup, hmarks⟩ := hvalid.mp hview
    obtain rfl : s = x := Option.some.inj ((h.lookup_untouched hs hmarks).symm.trans hlookup)
    have hread : view.read s = .ok text := View.read_take_self s start length
    refine ⟨.inl hread, iff_of_true hread ⟨hlookup, hmarks⟩, fun _ => ?_⟩
    rw [String.toList_ofList]
    exact Text.readBytes?_byteSpan s.text.toList start length
  · have hread := View.read_of_not_valid hview
    refine ⟨.inr hread, iff_of_false ?_ (mt hvalid.mpr hview), fun h' => absurd h' hview⟩
    intro hok
    cases hread.symm.trans hok

/-- Taking a view leaves the strings alone. -/
theorem step_view (vars : StringVariables) (name viewName : String) (start length : Nat) :
    (vars.step name (.view viewName start length)).1 =
        .view (View.take (vars.fetch name).1 start length) ∧
      (vars.step name (.view viewName start length)).2.2.strings.lookup name =
        some (vars.fetch name).1 := by
  have hfetch := lookup_fetch vars name
  have hact := (act_leads hfetch (.view viewName start length)).lookup_untouched hfetch
    ⟨List.not_mem_nil, List.not_mem_nil⟩
  refine ⟨rfl, ?_⟩
  change (((vars.fetch name).2.act name (vars.fetch name).1
    (.view viewName start length)).2.fetch name).2.strings.lookup name = _
  rw [fetch_of_some hact, hact]

/-- What reading a view gives after any run of actions. No two strings have an identity in common.
A view taken in the course of the run can be read from the string it was taken from, as long as no
other string took its place and it was not changed, not even to the text that it had; what is read
is what a copy of the span would have held at the time. Any other reading finds the view stale.
The byte positions of a view always lie between characters of a string that it is valid for. -/
theorem view_reads_back (history : List (String × Action))
    (hmade : made (empty.marks history) < 2 ^ 64)
    (hchanges : changes (empty.marks history) < 2 ^ 64) :
    let vars := empty.after history
    (vars.live.map ScriptString.id).Nodup ∧
    ∀ earlier name viewName start length later,
      history = earlier ++ (name, .view viewName start length) :: later →
      let before := empty.after earlier
      let taken := before.step name (.view viewName start length)
      ∃ view text, taken.1 = .view view ∧
        (before.step name (.substring start length)).1 = .text text ∧
        ∀ x ∈ vars.live,
          (view.read x = .ok text ∨ view.read x = .error .staleView) ∧
          (view.read x = .ok text ↔
            vars.strings.lookup name = some x ∧ Untouched name (taken.2.2.marks later)) ∧
          (view.isValidFor x = true →
            Text.readBytes? x.text.toList view.start view.stop = some text.toList) := by
  intro vars
  have hvars : Sound (0 + made (empty.marks history)) vars :=
    (after_leads empty history).sound .empty (by rwa [Nat.zero_add])
  refine ⟨hvars.ids, ?_⟩
  rintro earlier name viewName start length later rfl before taken
  -- the marks up to the view and those behind it
  have hmarks : empty.marks (earlier ++ (name, .view viewName start length) :: later) =
      (empty.marks earlier ++ before.stepMarks name (.view viewName start length)) ++
        taken.2.2.marks later := by
    rw [marks_append, marks, List.append_assoc]
  have hafter : vars = taken.2.2.after later := after_append ..
  have hearly : Leads empty (empty.marks earlier ++ before.stepMarks name _) taken.2.2 :=
    (after_leads empty earlier).trans (step_leads before name _)
  have hlate : Leads taken.2.2 (taken.2.2.marks later) vars := hafter ▸ after_leads taken.2.2 later
  rw [hmarks, made_append] at hmade
  rw [hmarks, changes_append] at hchanges
  have htaken := hearly.sound .empty (by omega)
  obtain ⟨hreply, hlookup⟩ := step_view before name viewName start length
  exact ⟨_, _, hreply, rfl, fun x hx =>
    read_take hlate htaken (by omega) (by omega) hlookup start length hx⟩

/-- A text in capitals is written in capitals: the view taken before is stale, and the one taken
behind it reads from that string and not from the copy. -/
theorem view_reads_back_upper :
    let history : List (String × Action) := [("s", .new [0x41, 0x42]), ("s", .view "v" 0 1),
      ("s", .upper), ("s", .view "w" 1 1), ("t", .copy "s")]
    let vars := empty.after history
    made (empty.marks history) < 2 ^ 64 ∧ changes (empty.marks history) < 2 ^ 64 ∧
      ∃ v w text, ((empty.after (history.take 1)).step "s" (.view "v" 0 1)).1 = .view v ∧
        ((empty.after (history.take 3)).step "s" (.view "w" 1 1)).1 = .view w ∧
        ∀ x ∈ vars.live, v.read x = .error .staleView ∧
          (w.read x = .ok text ↔ vars.strings.lookup "s" = some x) := by
  intro history vars
  have hmade : made (empty.marks history) < 2 ^ 64 := by decide
  have hchanges : changes (empty.marks history) < 2 ^ 64 := by decide
  obtain ⟨-, hviews⟩ := view_reads_back history hmade hchanges
  obtain ⟨v, _, hv, -, hstale⟩ := hviews (history.take 1) "s" "v" 0 1 (history.drop 2) rfl
  obtain ⟨w, text, hw, -, hreads⟩ := hviews (history.take 3) "s" "w" 1 1 (history.drop 4) rfl
  refine ⟨hmade, hchanges, v, w, text, hv, hw, fun x hx => ⟨?_, ?_⟩⟩
  · obtain ⟨hread, hiff, -⟩ := hstale x hx
    refine hread.resolve_left fun hok => ?_
    obtain ⟨-, -, hchanged⟩ := hiff.mp hok
    exact hchanged (by decide)
  · obtain ⟨-, hiff, -⟩ := hreads x hx
    rw [hiff, and_iff_left]
    exact ⟨by decide, by decide⟩

end StringVariables

end ScriptHost

import ScriptHost.Proofs.StringVariables.History

/-!
# Identities of strings

Identities are given out in turn, so that no two strings have one in common before the numbers
begin anew. What a string had before a run it has after it, and its generation counts the changes
made in between.

* `StringVariables.Sound` : what identities are like after a number of strings.
* `StringVariables.Leads.sound` : steps keep it so.
* `StringVariables.Leads.origin` : where a string comes from that there is after a run.
-/

namespace ScriptHost.StringVariables

open Bindings

/-- The strings there are, under names and with callers. -/
def live (vars : StringVariables) : List ScriptString := vars.strings.map Prod.snd ++ vars.lent

/-- The strings there are apart from that of a name. -/
def others (vars : StringVariables) (name : String) : List ScriptString :=
  (without vars.strings name).map Prod.snd ++ vars.lent

/-- The number of strings made. -/
def made (marks : List Mark) : Nat := marks.countP Mark.makes

/-- The number of changes made to strings. -/
def changes (marks : List Mark) : Nat := marks.countP Mark.changes

/-- Neither is the string of a name changed, nor does another one take its place. -/
def Untouched (name : String) (marks : List Mark) : Prop :=
  Mark.bound name ∉ marks ∧ Mark.changed name ∉ marks

/-- The strings there are after so many were made have identities of their own. -/
structure Sound (count : Nat) (vars : StringVariables) : Prop where
  next : vars.next = UInt64.ofNat (count + 1)
  given : ∀ s ∈ vars.live, s.id.toNat ≤ count
  ids : (vars.live.map ScriptString.id).Nodup
  names : (vars.strings.map Prod.fst).Nodup

theorem made_append (early late : List Mark) : made (early ++ late) = made early + made late :=
  List.countP_append

theorem changes_append (early late : List Mark) :
    changes (early ++ late) = changes early + changes late :=
  List.countP_append

theorem untouched_append {name : String} {early late : List Mark} :
    Untouched name (early ++ late) ↔ Untouched name early ∧ Untouched name late := by
  simp only [Untouched, List.mem_append, not_or]
  exact and_and_and_comm

theorem count_le_changes (marks : List Mark) (name : String) :
    marks.count (.changed name) ≤ changes marks := by
  apply List.countP_mono_left
  intro mark _ hmark
  rw [beq_iff_eq.mp hmark]
  rfl

variable {vars vars' : StringVariables} {count : Nat} {marks : List Mark} {name other : String}
  {s t : ScriptString}

theorem others_sublist (vars : StringVariables) (name : String) :
    (vars.others name).Sublist vars.live :=
  (without_sublist.map _).append_right _

theorem mem_live_of_lookup (hs : vars.strings.lookup name = some s) : s ∈ vars.live :=
  List.mem_append_left _ (List.mem_map.mpr ⟨_, mem_of_lookup hs, rfl⟩)

theorem live_create (vars : StringVariables) (name text : String) :
    (vars.create name text).live = (ScriptString.make text vars.next).1 :: vars.others name :=
  rfl

theorem live_keep (vars : StringVariables) (name : String) (s : ScriptString) :
    (vars.keep name s).live = s :: vars.others name :=
  rfl

theorem live_lend (vars : StringVariables) (text : String) :
    (vars.lend text).live.Perm ((ScriptString.make text vars.next).1 :: vars.live) :=
  List.perm_middle

/-! ## Identities of their own -/

namespace Sound

theorem empty : Sound 0 .empty where
  next := rfl
  given := by
    intro s hs
    cases hs
  ids := List.nodup_nil
  names := List.nodup_nil

theorem live_perm (h : Sound count vars) (hs : vars.strings.lookup name = some s) :
    vars.live.Perm (s :: vars.others name) :=
  ((perm_cons_without h.names hs).map Prod.snd).append_right vars.lent

/-- The identity of a string under a name is not that of any other string. -/
theorem id_not_mem_others (h : Sound count vars) (hs : vars.strings.lookup name = some s) :
    s.id ∉ (vars.others name).map ScriptString.id := by
  have hids := ((h.live_perm hs).map ScriptString.id).nodup_iff.mp h.ids
  exact (List.nodup_cons.mp hids).1

theorem name_unique (h : Sound count vars) (hs : vars.strings.lookup name = some s)
    (hother : vars.strings.lookup other = some t) (hid : t.id = s.id) : other = name := by
  refine Decidable.byContradiction fun hne => ?_
  have hkept : (other, t) ∈ without vars.strings name :=
    mem_without.mpr ⟨mem_of_lookup hother, hne⟩
  have hmem : t ∈ vars.others name :=
    List.mem_append_left _ (List.mem_map.mpr ⟨_, hkept, rfl⟩)
  exact h.id_not_mem_others hs (List.mem_map.mpr ⟨t, hmem, hid⟩)

theorem not_lent (h : Sound count vars) (hs : vars.strings.lookup name = some s)
    (ht : t ∈ vars.lent) : t.id ≠ s.id :=
  fun hid => h.id_not_mem_others hs (List.mem_map.mpr ⟨t, List.mem_append_right _ ht, hid⟩)

theorem toNat_next (h : Sound count vars) (hcount : count + 1 < 2 ^ 64) :
    vars.next.toNat = count + 1 := by
  rw [h.next, UInt64.toNat_ofNat', Nat.mod_eq_of_lt hcount]

/-- A string that is made takes an identity that no other string has. -/
theorem add (h : Sound count vars) (hcount : count + 1 < 2 ^ 64) {text : String}
    {kept : List ScriptString} (hkept : kept.Sublist vars.live)
    (hlive : vars'.live.Perm ((ScriptString.make text vars.next).1 :: kept))
    (hnext : vars'.next = vars.next + 1) (hnames : (vars'.strings.map Prod.fst).Nodup) :
    Sound (count + 1) vars' where
  next := by rw [hnext, h.next, UInt64.ofNat_add (count + 1) 1]; rfl
  given := by
    intro s hs
    rcases List.mem_cons.mp (hlive.mem_iff.mp hs) with rfl | hs
    · exact Nat.le_of_eq (h.toNat_next hcount)
    · exact Nat.le_succ_of_le (h.given s (hkept.subset hs))
  ids := by
    rw [(hlive.map _).nodup_iff, List.map_cons, List.nodup_cons]
    refine ⟨?_, h.ids.sublist (hkept.map _)⟩
    intro hmem
    obtain ⟨s, hs, hid⟩ := List.mem_map.mp hmem
    have hle : s.id.toNat ≤ count := h.given s (hkept.subset hs)
    have hnew : s.id.toNat = count + 1 := (congrArg UInt64.toNat hid).trans (h.toNat_next hcount)
    omega
  names := hnames

/-- A change leaves the string its identity. -/
theorem change (h : Sound count vars) (hs : vars.strings.lookup name = some s)
    (hid : t.id = s.id) : Sound count (vars.keep name t) where
  next := h.next
  given := by
    intro x hx
    rcases List.mem_cons.mp (live_keep vars name t ▸ hx) with rfl | hx
    · exact hid ▸ h.given s (mem_live_of_lookup hs)
    · exact h.given x ((others_sublist vars name).subset hx)
  ids := by
    have hperm := ((h.live_perm hs).map ScriptString.id).nodup_iff.mp h.ids
    rwa [live_keep, List.map_cons, hid, ← List.map_cons]
  names := names_rebind h.names t

end Sound

theorem Leads.sound (h : Leads vars marks vars') (hvars : Sound count vars)
    (hcount : count + made marks < 2 ^ 64) : Sound (count + made marks) vars' := by
  induction h generalizing count with
  | views vars views => exact { hvars with }
  | bound vars name text =>
    exact hvars.add hcount (others_sublist vars name) (.of_eq (live_create vars name text)) rfl
      (names_rebind hvars.names _)
  | changed text hs => exact hvars.change hs rfl
  | lent vars text => exact hvars.add hcount (.refl _) (live_lend vars text) rfl hvars.names
  | trans _ _ ih ih' =>
    rw [made_append, ← Nat.add_assoc] at hcount ⊢
    exact ih' (ih hvars (Nat.lt_of_le_of_lt (Nat.le_add_right ..) hcount)) hcount

/-! ## Where strings come from -/

/-- A string that was made in the course of a run. -/
def Fresh (vars : StringVariables) (marks : List Mark) (s : ScriptString) : Prop :=
  ∃ n < made marks, s.id = vars.next + UInt64.ofNat n

namespace Leads

theorem next_eq (h : Leads vars marks vars') :
    vars'.next = vars.next + UInt64.ofNat (made marks) := by
  induction h with
  | views vars views => exact (UInt64.add_zero _).symm
  | bound | lent => rfl
  | changed => exact (UInt64.add_zero _).symm
  | trans _ _ ih ih' => rw [ih', ih, made_append, UInt64.ofNat_add, UInt64.add_assoc]

theorem fresh_left {early late : List Mark} (h : Fresh vars early s) :
    Fresh vars (early ++ late) s := by
  obtain ⟨n, hn, hid⟩ := h
  exact ⟨n, made_append early late ▸ Nat.lt_add_right _ hn, hid⟩

theorem fresh_right {early late : List Mark} (h : Leads vars early vars')
    (hs : Fresh vars' late s) : Fresh vars (early ++ late) s := by
  obtain ⟨n, hn, hid⟩ := hs
  refine ⟨made early + n, ?_, ?_⟩
  · rw [made_append]
    exact Nat.add_lt_add_left hn _
  · rw [hid, h.next_eq, UInt64.ofNat_add, UInt64.add_assoc]

/-- A string under a name was made in the course of the run, or it is the string that the name had
before, in as many generations more as it was changed. -/
theorem origin (h : Leads vars marks vars') (hs : vars'.strings.lookup name = some s) :
    Fresh vars marks s ∨ .bound name ∉ marks ∧ ∃ t, vars.strings.lookup name = some t ∧
      s.id = t.id ∧ s.generation = t.generation + UInt64.ofNat (marks.count (.changed name)) := by
  induction h generalizing s with
  | views vars views =>
    exact .inr ⟨List.not_mem_nil, s, hs, rfl, (UInt64.add_zero _).symm⟩
  | bound vars other text =>
    by_cases hother : name = other
    · subst hother
      rw [lookup_create] at hs
      obtain rfl := Option.some.inj hs
      exact .inl ⟨0, Nat.one_pos, (UInt64.add_zero _).symm⟩
    · rw [create, lookup_rebind_of_ne hother] at hs
      exact .inr ⟨by simpa using hother, s, hs, rfl, (UInt64.add_zero _).symm⟩
  | @changed vars other t text ht =>
    by_cases hother : name = other
    · subst hother
      rw [keep, lookup_rebind_self] at hs
      obtain rfl := Option.some.inj hs
      exact .inr ⟨by simp, t, ht, rfl, by simp [ScriptString.changed]⟩
    · rw [keep, lookup_rebind_of_ne hother] at hs
      refine .inr ⟨by simp, s, hs, rfl, ?_⟩
      rw [List.count_eq_zero_of_not_mem (by simpa using hother)]
      exact (UInt64.add_zero _).symm
  | lent vars text => exact .inr ⟨by simp, s, hs, rfl, (UInt64.add_zero _).symm⟩
  | @trans vars middle vars' early late h h' ih ih' =>
    rcases ih' hs with hfresh | ⟨hlate, t, ht, hid, hgen⟩
    · exact .inl (h.fresh_right hfresh)
    · rcases ih ht with hfresh | ⟨hearly, first, hfirst, hid', hgen'⟩
      · exact .inl (fresh_left (hfresh.imp fun _ => And.imp_right hid.trans))
      · refine .inr ⟨?_, first, hfirst, hid.trans hid', ?_⟩
        · exact List.not_mem_append hearly hlate
        · rw [hgen, hgen', List.count_append, UInt64.ofNat_add, UInt64.add_assoc]

theorem origin_lent (h : Leads vars marks vars') (hs : s ∈ vars'.lent) :
    Fresh vars marks s ∨ s ∈ vars.lent := by
  induction h generalizing s with
  | views | bound | changed => exact .inr hs
  | lent vars text =>
    rcases List.mem_cons.mp hs with rfl | hs
    · exact .inl ⟨0, Nat.one_pos, (UInt64.add_zero _).symm⟩
    · exact .inr hs
  | trans h _ ih ih' =>
    rcases ih' hs with hfresh | hs
    · exact .inl (h.fresh_right hfresh)
    · exact (ih hs).imp_left fresh_left

/-- A string that is left alone stays as it is. -/
theorem lookup_untouched (h : Leads vars marks vars') (hs : vars.strings.lookup name = some s)
    (hmarks : Untouched name marks) : vars'.strings.lookup name = some s := by
  induction h with
  | views | lent => exact hs
  | bound vars other text =>
    have hne : name ≠ other := by simpa using hmarks.1
    rwa [create, lookup_rebind_of_ne hne]
  | @changed vars other t text ht =>
    have hne : name ≠ other := by simpa using hmarks.2
    rwa [keep, lookup_rebind_of_ne hne]
  | trans _ _ ih ih' =>
    obtain ⟨hearly, hlate⟩ := untouched_append.mp hmarks
    exact ih' (ih hs hearly) hlate

end Leads

/-- A string made later has none of the identities there were. -/
theorem Sound.id_ne_of_fresh (h : Sound count vars) (hcount : count + made marks < 2 ^ 64)
    (hs : s ∈ vars.live) (ht : Fresh vars marks t) : t.id ≠ s.id := by
  obtain ⟨n, hn, hid⟩ := ht
  intro heq
  have hold : s.id.toNat ≤ count := h.given s hs
  have hnew : s.id.toNat = count + 1 + n := by
    rw [← heq, hid, h.next, ← UInt64.ofNat_add, UInt64.toNat_ofNat', Nat.mod_eq_of_lt]
    omega
  omega

end ScriptHost.StringVariables

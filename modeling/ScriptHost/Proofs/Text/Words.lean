import ScriptHost.Text.Blank
import ScriptHost.Text.Span

/-!
# The words of a text

A word is a run of characters that are not white space, as long as it can be: in front of it and
behind it are white space or the ends of the text.

* `IsRun` : the places of the longest runs.
* `RunsOf` : the run at the front of a text and the places of the later ones.
* `words_eq_runs` : the words of a text are its longest runs in order.
-/

namespace ScriptHost.Text

/-- Whether there is a character at a position that is not white space. -/
def visibleAt (text : List Char) (position : Nat) : Bool :=
  text[position]?.any fun c => !isBlank c

/-- A longest run of characters that are not white space, from `start` up to `stop`. -/
structure IsRun (text : List Char) (start stop : Nat) : Prop where
  nonempty : start < stop
  visible : ∀ i, start ≤ i → i < stop → visibleAt text i = true
  left : start = 0 ∨ visibleAt text (start - 1) = false
  right : visibleAt text stop = false

/-- The run at the front of a text, which may be empty, and the places of the later ones. -/
structure RunsOf (text run : List Char) (spans : List (Nat × Nat)) : Prop where
  front : run <+: text
  visible : ∀ i < run.length, visibleAt text i = true
  ends : visibleAt text run.length = false
  later : ∀ start stop, (start, stop) ∈ spans ↔ IsRun text start stop ∧ 0 < start
  ordered : spans.Pairwise fun l r => l.2 < r.1

/-- The characters of a run. -/
def runAt (text : List Char) (span : Nat × Nat) : List Char :=
  slice text span.1 (span.2 - span.1)

/-- A place that is further by one. -/
def moved (span : Nat × Nat) : Nat × Nat := (span.1 + 1, span.2 + 1)

theorem visibleAt_zero (c : Char) (text : List Char) :
    visibleAt (c :: text) 0 = !isBlank c := rfl

theorem runAt_moved (c : Char) (text : List Char) (span : Nat × Nat) :
    runAt (c :: text) (moved span) = runAt text span := by
  simp [runAt, moved, slice]

/-- The runs of a text behind one more character, which may not be part of them. -/
theorem isRun_succ {c : Char} {text : List Char} {start stop : Nat} :
    IsRun (c :: text) (start + 1) (stop + 1) ↔
      IsRun text start stop ∧ (start = 0 → isBlank c = true) := by
  constructor
  · intro h
    have hnonempty := h.nonempty
    refine ⟨⟨by omega, ?_, ?_, h.right⟩, ?_⟩
    · exact fun i hi hi' => h.visible (i + 1) (by omega) (by omega)
    · cases start with
      | zero => exact .inl rfl
      | succ start => exact .inr (h.left.resolve_left (by omega))
    · rintro rfl
      have hleft := h.left.resolve_left (by omega)
      rwa [Nat.add_sub_cancel, visibleAt_zero, Bool.not_eq_false'] at hleft
  · rintro ⟨h, hc⟩
    have hnonempty := h.nonempty
    refine ⟨by omega, ?_, .inr ?_, h.right⟩
    · intro i hi hi'
      cases i with
      | zero => omega
      | succ i => exact h.visible i (by omega) (by omega)
    · cases start with
      | zero =>
        rw [Nat.add_sub_cancel, visibleAt_zero, hc rfl]
        rfl
      | succ start => exact h.left.resolve_left (by omega)

/-- The runs of a text that do not begin in front of it, behind one more character. -/
theorem mem_moved_iff {c : Char} {text : List Char} {spans : List (Nat × Nat)}
    (h : ∀ start stop, (start, stop) ∈ spans ↔
      IsRun text start stop ∧ (start = 0 → isBlank c = true)) (start stop : Nat) :
    (start, stop) ∈ spans.map moved ↔ IsRun (c :: text) start stop ∧ 0 < start := by
  rw [List.mem_map]
  constructor
  · rintro ⟨⟨a, b⟩, hspan, heq⟩
    obtain ⟨rfl, rfl⟩ := Prod.mk.inj heq
    exact ⟨isRun_succ.mpr ((h a b).mp hspan), Nat.succ_pos a⟩
  · rintro ⟨hrun, hstart⟩
    obtain ⟨a, rfl⟩ := Nat.exists_eq_add_one.mpr hstart
    obtain ⟨b, rfl⟩ := Nat.exists_eq_add_one.mpr (Nat.lt_trans hstart hrun.nonempty)
    exact ⟨(a, b), (h a b).mpr (isRun_succ.mp hrun), rfl⟩

/-! ## The run at the front -/

namespace RunsOf

variable {text run : List Char} {spans : List (Nat × Nat)} {start stop : Nat}

/-- The runs of a text, with the one at its front among them. -/
def withFront (run : List Char) (spans : List (Nat × Nat)) : List (Nat × Nat) :=
  if run = [] then spans else (0, run.length) :: spans

/-- No later run begins inside the run at the front or right behind it. -/
theorem length_lt (h : RunsOf text run spans) (hspan : (start, stop) ∈ spans) :
    run.length < start := by
  obtain ⟨hrun, hstart⟩ := (h.later start stop).mp hspan
  refine Nat.lt_of_not_le fun hle => ?_
  have hleft := hrun.left.resolve_left (Nat.ne_of_gt hstart)
  rw [h.visible (start - 1) (by omega)] at hleft
  cases hleft

/-- A run at the very front is the one that is as long as it can be. -/
theorem isRun_zero (h : RunsOf text run spans) :
    IsRun text 0 stop ↔ run ≠ [] ∧ stop = run.length := by
  constructor
  · intro hrun
    have hstop : stop = run.length := by
      rcases Nat.lt_trichotomy stop run.length with hlt | heq | hlt
      · exact absurd (h.visible stop hlt) (by rw [hrun.right]; nofun)
      · exact heq
      · exact absurd (hrun.visible _ (Nat.zero_le _) hlt) (by rw [h.ends]; nofun)
    exact ⟨List.ne_nil_of_length_pos (hstop ▸ hrun.nonempty), hstop⟩
  · rintro ⟨hne, rfl⟩
    exact ⟨List.length_pos_iff.mpr hne, fun i _ => h.visible i, .inl rfl, h.ends⟩

theorem mem_withFront (h : RunsOf text run spans) (start stop : Nat) :
    (start, stop) ∈ withFront run spans ↔ IsRun text start stop := by
  cases start with
  | zero =>
    have hspans : (0, stop) ∉ spans := fun hspan => Nat.not_lt_zero _ (h.length_lt hspan)
    rw [h.isRun_zero, withFront]
    split
    · next hnil => exact iff_of_false hspans fun hrun => hrun.1 hnil
    · next hne => simp [hspans, hne]
  | succ start =>
    have hmem : (start + 1, stop) ∈ withFront run spans ↔ (start + 1, stop) ∈ spans := by
      rw [withFront]
      split
      · exact .rfl
      · simp
    rw [hmem, h.later]
    exact and_iff_left (Nat.succ_pos start)

theorem withFront_ordered (h : RunsOf text run spans) :
    (withFront run spans).Pairwise fun l r => l.2 < r.1 := by
  rw [withFront]
  split
  · exact h.ordered
  · exact List.pairwise_cons.mpr ⟨fun span hspan => h.length_lt hspan, h.ordered⟩

/-! ## One more character -/

theorem moved_ordered (h : spans.Pairwise fun l r => l.2 < r.1) :
    (spans.map moved).Pairwise fun l r => l.2 < r.1 :=
  List.pairwise_map.mpr (h.imp fun hlt => Nat.succ_lt_succ hlt)

/-- Behind white space every run is a later one. -/
theorem blank (h : RunsOf text run spans) {c : Char} (hc : isBlank c = true) :
    RunsOf (c :: text) [] ((withFront run spans).map moved) where
  front := List.nil_prefix
  visible := by rintro i ⟨⟩
  ends := by
    rw [List.length_nil, visibleAt_zero, hc]
    rfl
  later := mem_moved_iff fun start stop => by
    rw [h.mem_withFront]
    exact (and_iff_left fun _ => hc).symm
  ordered := moved_ordered h.withFront_ordered

/-- Another character makes the run at the front longer. -/
theorem visible_cons (h : RunsOf text run spans) {c : Char} (hc : isBlank c = false) :
    RunsOf (c :: text) (c :: run) (spans.map moved) where
  front := List.cons_prefix_cons.mpr ⟨rfl, h.front⟩
  visible := by
    intro i hi
    cases i with
    | zero =>
      rw [visibleAt_zero, hc]
      rfl
    | succ i => exact h.visible i (Nat.lt_of_succ_lt_succ hi)
  ends := h.ends
  later := mem_moved_iff fun start stop => by
    rw [h.later, hc, Nat.pos_iff_ne_zero]
    exact and_congr_right fun _ => ⟨fun hne heq => absurd heq hne, fun h heq => nomatch h heq⟩
  ordered := moved_ordered h.ordered

end RunsOf

/-! ## All runs -/

theorem consRun_eq {text run : List Char} {spans : List (Nat × Nat)} (h : run <+: text) :
    consRun run (spans.map (runAt text)) = (RunsOf.withFront run spans).map (runAt text) := by
  rw [consRun, RunsOf.withFront]
  split
  · rfl
  · rw [List.map_cons, runAt, slice, List.drop_zero, Nat.sub_zero,
      ← List.prefix_iff_eq_take.mp h]

theorem map_runAt_moved (c : Char) (text : List Char) (spans : List (Nat × Nat)) :
    (spans.map moved).map (runAt (c :: text)) = spans.map (runAt text) := by
  rw [List.map_map]
  exact List.map_congr_left fun span _ => runAt_moved c text span

theorem exists_runsOf (text : List Char) : ∃ spans,
    RunsOf text (visibleRuns text).1 spans ∧ (visibleRuns text).2 = spans.map (runAt text) := by
  induction text with
  | nil =>
    refine ⟨[], ⟨List.nil_prefix, by rintro i ⟨⟩, rfl, fun start stop => ?_, .nil⟩, rfl⟩
    refine iff_of_false List.not_mem_nil fun h => ?_
    cases h.1.visible start (Nat.le_refl start) h.1.nonempty
  | cons c text ih =>
    obtain ⟨spans, hruns, hlater⟩ := ih
    -- white space closes the run at the front, so that it becomes a later one
    cases hc : isBlank c with
    | true =>
      refine ⟨(RunsOf.withFront (visibleRuns text).1 spans).map moved, ?_, ?_⟩
      · rw [visibleRuns, hc]
        exact hruns.blank hc
      · rw [visibleRuns, hc, map_runAt_moved, ← consRun_eq hruns.front, ← hlater]
        rfl
    | false =>
      refine ⟨spans.map moved, ?_, ?_⟩
      · rw [visibleRuns, hc]
        exact hruns.visible_cons hc
      · rw [visibleRuns, hc, map_runAt_moved, ← hlater]
        rfl

/-- The words of a text are its longest runs of characters that are not white space, in order. -/
theorem words_eq_runs (text : List Char) : ∃ spans : List (Nat × Nat),
    words text = spans.map (runAt text) ∧
    (∀ start stop, (start, stop) ∈ spans ↔ IsRun text start stop) ∧
    spans.Pairwise fun l r => l.2 < r.1 := by
  obtain ⟨spans, hruns, hlater⟩ := exists_runsOf text
  refine ⟨_, ?_, hruns.mem_withFront, hruns.withFront_ordered⟩
  rw [← consRun_eq hruns.front, ← hlater]
  rfl

/-- The no-break space and the ideographic space are white space as well. -/
example : words "\u00a0a\u3000bc \n".toList = ["a".toList, "bc".toList] := by decide

end ScriptHost.Text

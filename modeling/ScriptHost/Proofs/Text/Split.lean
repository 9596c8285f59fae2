import Mathlib.Data.List.Infix
import ScriptHost.Proofs.Text.Occurrence

/-!
# The parts of a text

A text is split at the leftmost occurrences of a separator that do not overlap. What is put between
the parts in place of the separator replaces its occurrences.

* `split_of_front`, `split_cons` : how a text is split from left to right.
* `CutsLeftmost` : parts that are cut off at the first occurrence of a separator.
* `splitAll_parts` : the parts of a text, which make the text again.
* `CutsLeftmost.unique` : a text has only one such sequence of parts.
* `replaceAll_eq_intercalate` : a text with the occurrences of a pattern exchanged.
-/

namespace ScriptHost.Text

variable {first : Char} {rest : List Char}

/-! ## From left to right -/

theorem split_nil (first : Char) (rest : List Char) : split first rest [] = [[]] := by
  have hroom : room [] (first :: rest) = 0 := by simp [room]
  rw [split, hroom, splitNext]

/-- At an occurrence a part ends, and the search goes on behind the occurrence. -/
theorem split_of_front {text : List Char} (h : first :: rest <+: text) :
    split first rest text = [] :: split first rest (text.drop (first :: rest).length) := by
  cases text with
  | nil => exact absurd (List.prefix_nil.mp h) (List.cons_ne_nil _ _)
  | cons c text =>
    have hlength := h.length_le
    rw [List.length_cons, List.length_cons] at hlength
    have hroom : room (c :: text) (first :: rest) = text.length - rest.length + 1 := by
      rw [room, List.length_cons, List.length_cons]
      omega
    have hroom' : room (text.drop rest.length) (first :: rest) =
        text.length - rest.length - rest.length := by
      rw [room, List.length_drop, List.length_cons]
      omega
    rw [split, hroom, splitNext, if_pos (List.isPrefixOf_iff_prefix.mpr h), split,
      List.length_cons, List.drop_succ_cons, hroom']

/-- Elsewhere a character belongs to the part in which it stands. -/
theorem split_cons {c : Char} {text : List Char} (h : ¬ first :: rest <+: c :: text) :
    split first rest (c :: text) = (split first rest text).modifyHead (c :: ·) := by
  rw [split, split]
  rcases Nat.lt_or_ge text.length rest.length with hshort | hlong
  · have hroom : room (c :: text) (first :: rest) = 0 := by
      rw [room, List.length_cons, List.length_cons]
      omega
    have hroom' : room text (first :: rest) = 0 := by
      rw [room, List.length_cons]
      omega
    rw [hroom, hroom', splitNext, splitNext, List.modifyHead_cons]
  · have hroom : room (c :: text) (first :: rest) = text.length - rest.length + 1 := by
      rw [room, List.length_cons, List.length_cons]
      omega
    have hroom' : room text (first :: rest) = text.length - rest.length := by
      rw [room, List.length_cons]
      omega
    rw [hroom, hroom', splitNext, if_neg (by rwa [List.isPrefixOf_iff_prefix])]

/-! ## Parts -/

/-- Parts of a text that are cut off at the first occurrence of a separator, but for the last part,
in which it does not occur. -/
inductive CutsLeftmost (separator : List Char) : List (List Char) → Prop
  | last {part : List Char} : ¬ separator <:+: part → CutsLeftmost separator [part]
  | before {part : List Char} {parts : List (List Char)} :
    IsFirst (part ++ separator) separator 0 part.length → CutsLeftmost separator parts →
      CutsLeftmost separator (part :: parts)

variable {separator : List Char} {parts : List (List Char)}

theorem CutsLeftmost.ne_nil (h : CutsLeftmost separator parts) : parts ≠ [] := by
  cases h <;> exact List.cons_ne_nil _ _

theorem intercalate_modifyHead (c : Char) (h : parts ≠ []) :
    separator.intercalate (parts.modifyHead (c :: ·)) = c :: separator.intercalate parts := by
  cases parts with
  | nil => exact absurd rfl h
  | cons part parts =>
    rw [List.modifyHead_cons]
    cases parts with
    | nil => simp
    | cons next parts => simp [List.intercalate_cons_cons]

/-- A character in front of which nothing occurs moves the first occurrence by one. -/
theorem isFirst_cons {c : Char} {text : List Char} {i : Nat} (h : ¬ separator <+: c :: text)
    (hfirst : IsFirst text separator 0 i) : IsFirst (c :: text) separator 0 (i + 1) := by
  obtain ⟨⟨-, hi, hfront⟩, hleast⟩ := hfirst
  refine ⟨⟨Nat.zero_le _, Nat.succ_le_succ hi, hfront⟩, ?_⟩
  rintro other ⟨-, hother, hfront'⟩
  cases other with
  | zero => exact absurd hfront' h
  | succ other =>
    exact Nat.succ_le_succ (hleast ⟨Nat.zero_le _, Nat.le_of_succ_le_succ hother, hfront'⟩)

/-- A character at which the separator does not occur joins the first part. -/
theorem CutsLeftmost.modifyHead {c : Char} (hcuts : CutsLeftmost separator parts)
    (h : ¬ separator <+: c :: separator.intercalate parts) :
    CutsLeftmost separator (parts.modifyHead (c :: ·)) := by
  cases hcuts with
  | @last part hnone =>
    rw [List.intercalate_singleton] at h
    refine .last fun hwithin => ?_
    rcases List.infix_cons_iff.mp hwithin with hfront | hwithin
    · exact h hfront
    · exact hnone hwithin
  | @before part parts hfirst hcuts =>
    rw [List.intercalate_cons_of_ne_nil hcuts.ne_nil, ← List.cons_append] at h
    exact .before (isFirst_cons (fun hfront => h (hfront.trans (List.prefix_append _ _))) hfirst)
      hcuts

/-- The parts of a text are cut off at the leftmost occurrences of the separator, and the text is
what comes out when they are put together again. -/
theorem split_parts (first : Char) (rest text : List Char) :
    CutsLeftmost (first :: rest) (split first rest text) ∧
      (first :: rest).intercalate (split first rest text) = text := by
  induction hlength : text.length using Nat.strongRecOn generalizing text with
  | ind length ih =>
    subst hlength
    -- not an induction over the list: behind an occurrence the search goes on further down
    by_cases hfront : first :: rest <+: text
    · obtain ⟨behind, rfl⟩ := hfront
      rw [split_of_front (List.prefix_append _ _), List.drop_left]
      have hshorter : behind.length < (first :: rest ++ behind).length := by
        rw [List.length_append, List.length_cons]
        omega
      obtain ⟨hcuts, hjoined⟩ := ih _ hshorter behind rfl
      refine ⟨.before ?_ hcuts, ?_⟩
      · exact ⟨⟨Nat.le_refl 0, Nat.zero_le _, List.prefix_refl _⟩, fun _ hother => hother.1⟩
      · rw [List.intercalate_cons_of_ne_nil hcuts.ne_nil, hjoined]
        rfl
    · cases text with
      | nil =>
        rw [split_nil]
        refine ⟨.last fun hwithin => ?_, List.intercalate_singleton⟩
        exact absurd (List.infix_nil.mp hwithin) (List.cons_ne_nil _ _)
      | cons c text =>
        obtain ⟨hcuts, hjoined⟩ := ih _ (Nat.lt_succ_self _) text rfl
        rw [split_cons hfront]
        refine ⟨hcuts.modifyHead (by rwa [hjoined]), ?_⟩
        rw [intercalate_modifyHead c hcuts.ne_nil, hjoined]

/-! ## One sequence of parts -/

/-- What is cut off reaches up to the first occurrence in the whole text. -/
theorem length_le_of_occursAt {part behind : List Char} {i : Nat}
    (hfirst : IsFirst (part ++ separator) separator 0 part.length)
    (h : OccursAt (part ++ separator ++ behind) separator i) : part.length ≤ i := by
  refine Nat.le_of_not_lt fun hlt => ?_
  have hlength : (part ++ separator).length = part.length + separator.length :=
    List.length_append
  have hfront := h.2
  rw [List.drop_append_of_le_length (by omega)] at hfront
  have hinside : separator <+: (part ++ separator).drop i := by
    refine List.prefix_of_prefix_length_le hfront (List.prefix_append _ _) ?_
    rw [List.length_drop]
    omega
  have hle := hfirst.2 ⟨Nat.zero_le i, by omega, hinside⟩
  omega

theorem occursAt_cut (part behind : List Char) :
    OccursAt (part ++ separator ++ behind) separator part.length := by
  refine ⟨?_, ?_⟩
  · rw [List.append_assoc, List.length_append]
    exact Nat.le_add_right _ _
  · rw [List.append_assoc, List.drop_left]
    exact List.prefix_append _ _

/-- No text has two such sequences of parts. -/
theorem CutsLeftmost.unique {others : List (List Char)} (h : CutsLeftmost separator parts)
    (h' : CutsLeftmost separator others)
    (heq : separator.intercalate parts = separator.intercalate others) : parts = others := by
  induction h generalizing others with
  | @last part hnone =>
    rw [List.intercalate_singleton] at heq
    cases h' with
    | last => rw [heq, List.intercalate_singleton]
    | before _ hmore =>
      rw [List.intercalate_cons_of_ne_nil hmore.ne_nil] at heq
      exact absurd ⟨_, _, heq.symm⟩ hnone
  | @before part parts hfirst hcuts ih =>
    rw [List.intercalate_cons_of_ne_nil hcuts.ne_nil] at heq
    cases h' with
    | last hnone =>
      rw [List.intercalate_singleton] at heq
      exact absurd ⟨_, _, heq⟩ hnone
    | @before other others hfirst' hcuts' =>
      rw [List.intercalate_cons_of_ne_nil hcuts'.ne_nil] at heq
      have hle := length_le_of_occursAt hfirst (heq ▸ occursAt_cut other _)
      have hle' := length_le_of_occursAt hfirst' (heq ▸ occursAt_cut part _)
      rw [List.append_assoc, List.append_assoc] at heq
      obtain ⟨rfl, hbehind⟩ := List.append_inj heq (Nat.le_antisymm hle hle')
      rw [ih hcuts' (List.append_cancel_left hbehind)]

/-! ## Replacing -/

theorem splitNext_ne_nil (first : Char) (rest : List Char) (count : Nat) (text : List Char) :
    splitNext first rest count text ≠ [] := by
  fun_induction splitNext first rest count text with
  | case1 | case2 | case3 => exact List.cons_ne_nil _ _
  | case4 count c text _ ih => rwa [Ne, List.modifyHead_eq_nil_iff]

theorem replaceNext_eq_intercalate (first : Char) (rest written : List Char) (count : Nat)
    (text : List Char) :
    replaceNext first rest written count text =
      written.intercalate (splitNext first rest count text) := by
  fun_induction replaceNext first rest written count text with
  | case1 text => rw [splitNext, List.intercalate_singleton]
  | case2 => rw [splitNext, List.intercalate_singleton]
  | case3 count c text hfront ih =>
    have hparts := splitNext_ne_nil first rest (count - rest.length) (text.drop rest.length)
    rw [splitNext, if_pos hfront, List.intercalate_cons_of_ne_nil hparts, ih, List.nil_append]
  | case4 count c text hfront ih =>
    have hparts := splitNext_ne_nil first rest count text
    rw [splitNext, if_neg hfront, intercalate_modifyHead c hparts, ih]

/-- What is written in place of the occurrences of a pattern stands between the parts that they
separate. -/
theorem replaceAll_eq_intercalate {pattern : List Char} (h : pattern ≠ [])
    (text written : List Char) :
    replaceAll text pattern written = written.intercalate (splitAll text pattern) := by
  cases pattern with
  | nil => exact absurd rfl h
  | cons first rest => exact replaceNext_eq_intercalate ..

theorem splitAll_parts (h : separator ≠ []) (text : List Char) :
    CutsLeftmost separator (splitAll text separator) ∧
      separator.intercalate (splitAll text separator) = text := by
  cases separator with
  | nil => exact absurd rfl h
  | cons first rest => exact split_parts first rest text

/-- The single characters of a text make up the text. -/
theorem intercalate_splitAll_nil (text : List Char) :
    [].intercalate (splitAll text []) = text := by
  induction text with
  | nil => rfl
  | cons c text ih =>
    rw [splitAll] at ih ⊢
    cases text with
    | nil => rfl
    | cons d text =>
      have hparts : (d :: text).map (fun character => [character]) ≠ [] := List.cons_ne_nil _ _
      rw [List.map_cons, List.intercalate_cons_of_ne_nil hparts, ih]
      rfl

end ScriptHost.Text

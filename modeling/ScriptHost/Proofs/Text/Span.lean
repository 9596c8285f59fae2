import ScriptHost.Proofs.Text.Utf8
import ScriptHost.Text.Span

/-!
# Spans as characters and as bytes

The byte positions of a span always lie between characters, and the characters between them are
those of the span.

* `Text.readBytes?_byteSpan` : what is read between the byte positions of a span.
-/

namespace ScriptHost.Text

open Utf8 (size size_append size_cons size_nil)

theorem dropBytes?_size (front rest : List Char) :
    dropBytes? (front ++ rest) (size front) = some rest := by
  induction front with
  | nil => cases rest <;> rfl
  | cons c front ih =>
    obtain ⟨n, hn⟩ : ∃ n, c.utf8Size + size front = n + 1 :=
      Nat.exists_eq_add_one.mpr (Nat.add_pos_left (Char.utf8Size_pos c) _)
    rw [size_cons, hn, List.cons_append, dropBytes?, ← hn, if_pos (Nat.le_add_right _ _),
      Nat.add_sub_cancel_left, ih]

theorem takeBytes?_size (front rest : List Char) :
    takeBytes? (front ++ rest) (size front) = some front := by
  induction front with
  | nil => cases rest <;> rfl
  | cons c front ih =>
    obtain ⟨n, hn⟩ : ∃ n, c.utf8Size + size front = n + 1 :=
      Nat.exists_eq_add_one.mpr (Nat.add_pos_left (Char.utf8Size_pos c) _)
    rw [size_cons, hn, List.cons_append, takeBytes?, ← hn, if_pos (Nat.le_add_right _ _),
      Nat.add_sub_cancel_left, ih]
    rfl

/-- The end of a span is as many bytes behind its start as its characters take. -/
theorem size_take_add (text : List Char) (start length : Nat) :
    size (text.take (start + length)) =
      size (text.take start) + size (slice text start length) := by
  rw [List.take_add, size_append, slice]

/-- Between the byte positions of a span are the characters of the span. -/
theorem readBytes?_byteSpan (text : List Char) (start length : Nat) :
    readBytes? text (byteSpan text start length).1 (byteSpan text start length).2 =
      some (slice text start length) := by
  have hdrop := dropBytes?_size (text.take start) (text.drop start)
  have htake := takeBytes?_size (slice text start length) ((text.drop start).drop length)
  rw [List.take_append_drop] at hdrop
  rw [slice, List.take_append_drop, ← slice] at htake
  rw [byteSpan, readBytes?]
  dsimp only
  rw [size_take_add, if_pos (Nat.le_add_right _ _), hdrop, Nat.add_sub_cancel_left]
  exact htake

end ScriptHost.Text

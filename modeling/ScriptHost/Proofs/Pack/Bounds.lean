import ScriptHost.Proofs.Pack.Stream

/-!
# A cursor stays within its bytes

Whatever a reading comes upon, it leaves the cursor in the same bytes and nowhere before the place
where it began; the place of a fault is where the cursor is left. An item has at least one byte for
each value in it, so that no count of elements, however large, is followed further than the bytes
go.

* `Cursor.Precedes` : how readings move a cursor.
* `Value.population` : how many values there are in a value.
* `Pack.readItem_precedes`, `Pack.Item.population_le` : one reading, and one item of the grammar.
* `Cursor.next_in_bounds` : every reading after any number of others.
-/

namespace ScriptHost

/-! ## Values in a value -/

namespace Value

mutual

/-- The number of values in a value: the value itself and all elements, however deeply nested. -/
def population : Value → Nat
  | .array items => populationAll items + 1
  | _ => 1

/-- The number of values in several values. -/
def populationAll : List Value → Nat
  | [] => 0
  | item :: items => population item + populationAll items

end

end Value

/-! ## Moving forwards -/

namespace Cursor

/-- The later cursor is the first one moved over bytes that it had before it. -/
def Precedes (cursor later : Cursor) : Prop :=
  ∃ count ≤ cursor.rest.length, later = Pack.move cursor count

theorem Precedes.refl (cursor : Cursor) : cursor.Precedes cursor := ⟨0, Nat.zero_le _, rfl⟩

theorem Precedes.trans {cursor middle later : Cursor} (h : cursor.Precedes middle)
    (h' : middle.Precedes later) : cursor.Precedes later := by
  obtain ⟨count, hcount, rfl⟩ := h
  obtain ⟨more, hmore, rfl⟩ := h'
  rw [Pack.move, List.length_drop] at hmore
  refine ⟨count + more, by omega, ?_⟩
  simp only [Pack.move, List.drop_drop, Nat.add_assoc]

theorem Precedes.offset_le {cursor later : Cursor} (h : cursor.Precedes later) :
    cursor.offset ≤ later.offset := by
  obtain ⟨count, _, rfl⟩ := h
  exact Nat.le_add_right _ _

/-- The bytes taken away are as many as the cursor was moved. -/
theorem Precedes.length_rest {cursor later : Cursor} (h : cursor.Precedes later) :
    later.offset + later.rest.length = cursor.offset + cursor.rest.length := by
  obtain ⟨count, hcount, rfl⟩ := h
  rw [Pack.move, List.length_drop]
  dsimp only
  omega

/-- Cursors that come from the beginning of some bytes stand in them. -/
theorem Precedes.standing {bytes : List UInt8} {cursor : Cursor}
    (h : (ofBytes bytes).Precedes cursor) :
    cursor = standing bytes cursor.offset ∧ cursor.offset ≤ bytes.length := by
  obtain ⟨count, hcount, rfl⟩ := h
  rw [Pack.move, Cursor.standing, ofBytes, Nat.zero_add]
  exact ⟨rfl, hcount⟩

end Cursor

/-! ## Each part of an item -/

namespace Pack

open Cursor (Precedes)

section Reading

variable {α β : Type} {cursor : Cursor}

@[simp]
theorem Reading.cursor_map (f : α → β) (reading : Reading α) :
    (reading.map f).cursor = reading.cursor := by
  cases reading with
  | done | failed => rfl

theorem Reading.precedes_bind {reading : Reading α} (h : cursor.Precedes reading.cursor)
    {next : α → Cursor → Reading β}
    (hnext : ∀ (result : α) (behind : Cursor), behind.Precedes (next result behind).cursor) :
    cursor.Precedes (reading.bind next).cursor := by
  cases reading with
  | done result behind => exact h.trans (hnext result behind)
  | failed => exact h

/-- What was read, with the cursor behind it. -/
theorem Reading.eq_done {reading : Reading α} {result : α} (h : reading.toExcept = .ok result) :
    reading = .done result reading.cursor := by
  cases reading with
  | done =>
    cases h
    rfl
  | failed => cases h

/-- A failure names the place where the cursor is. -/
theorem Reading.eq_error {reading : Reading α} {e : Error} (h : reading.toExcept = .error e) :
    ∃ fault, e = .deserialize reading.cursor.offset fault := by
  cases reading with
  | done => cases h
  | failed fault _ =>
    cases h
    exact ⟨fault, rfl⟩

end Reading

theorem precedes_move {cursor : Cursor} {count : Nat} (h : count ≤ cursor.rest.length) :
    cursor.Precedes (move cursor count) := ⟨count, h, rfl⟩

theorem precedes_move_one {cursor : Cursor} {byte : UInt8} {rest : List UInt8}
    (h : cursor.rest = byte :: rest) : cursor.Precedes (move cursor 1) := by
  apply precedes_move
  rw [h, List.length_cons]
  omega

theorem readRun_precedes {α : Type} (isPart : UInt8 → Bool) (parse? : List Char → Option α)
    (fault : String → Fault) (cursor : Cursor) :
    cursor.Precedes (readRun isPart parse? fault cursor).cursor := by
  unfold readRun
  dsimp only
  split
  · exact precedes_move (List.takeWhile_prefix isPart).length_le
  · exact .refl cursor

theorem readColon_precedes (cursor : Cursor) : cursor.Precedes (readColon cursor).cursor := by
  unfold readColon
  split
  · exact .refl cursor
  · rename_i byte rest hrest
    split
    · exact precedes_move_one hrest
    · exact .refl cursor

theorem readLength_precedes (cursor : Cursor) : cursor.Precedes (readLength cursor).cursor := by
  apply Reading.precedes_bind (readRun_precedes _ _ _ cursor)
  intro count behind
  rw [Reading.cursor_map]
  exact readColon_precedes behind

theorem readPayload_precedes (count : Nat) (cursor : Cursor) :
    cursor.Precedes (readPayload count cursor).cursor := by
  unfold readPayload
  dsimp only
  split
  · rename_i hlength
    rw [List.length_take] at hlength
    exact precedes_move (by omega)
  · exact .refl cursor

theorem readBoolean_precedes (cursor : Cursor) : cursor.Precedes (readBoolean cursor).cursor := by
  unfold readBoolean
  split
  · exact .refl cursor
  · rename_i byte rest hrest
    split
    · exact precedes_move_one hrest
    · split
      · exact precedes_move_one hrest
      · exact .refl cursor

theorem readDouble_precedes (cursor : Cursor) : cursor.Precedes (readDouble cursor).cursor := by
  unfold readDouble
  split
  · rename_i word d hfind
    have hprefix := List.find?_some hfind
    exact precedes_move (List.isPrefixOf_iff_prefix.mp hprefix).length_le
  · rw [Reading.cursor_map]
    exact readRun_precedes _ _ _ cursor

theorem readString_precedes (cursor : Cursor) : cursor.Precedes (readString cursor).cursor := by
  apply Reading.precedes_bind (readLength_precedes cursor)
  intro count behind
  rw [Reading.cursor_map]
  exact readPayload_precedes count behind

/-! ## Items -/

theorem readMany_precedes {read : Cursor → Reading Value}
    (h : ∀ cursor : Cursor, cursor.Precedes (read cursor).cursor) (count : Nat) (cursor : Cursor) :
    cursor.Precedes (readMany read count cursor).cursor := by
  induction count generalizing cursor with
  | zero => exact .refl cursor
  | succ count ih =>
    apply Reading.precedes_bind (h cursor)
    intro value behind
    rw [Reading.cursor_map]
    exact ih behind

/-- Reading an item moves the cursor forwards, or leaves it where it is, whatever is found. -/
theorem readItem_precedes (allowance : Nat) (cursor : Cursor) :
    cursor.Precedes (readItem allowance cursor).cursor := by
  induction allowance using Nat.strongRecOn generalizing cursor with
  | ind allowance ih =>
    unfold readItem
    split
    · exact .refl cursor
    · rename_i tag rest hrest
      have hpayload := precedes_move_one hrest
      dsimp only
      -- One case for each tag, in the order of the reader.
      split
      · exact hpayload
      split
      · exact hpayload.trans (readBoolean_precedes _)
      split
      · rw [Reading.cursor_map]
        exact hpayload.trans (readRun_precedes _ _ _ _)
      split
      · exact hpayload.trans (readDouble_precedes _)
      split
      · exact hpayload.trans (readString_precedes _)
      split
      · split
        · exact .refl cursor
        · rename_i allowance
          apply hpayload.trans
          apply Reading.precedes_bind (readLength_precedes _)
          intro count behind
          rw [Reading.cursor_map]
          exact readMany_precedes (ih allowance (Nat.lt_succ_self allowance)) count behind
      split
      · exact .refl cursor
      · exact .refl cursor

mutual

/-- An item has at least one byte for each value in it. -/
theorem Item.population_le :
    ∀ (value : Value) {bytes : List UInt8}, Item bytes value → value.population ≤ bytes.length
  | .array values, _, @Item.array count bytes _ _ hitems => by
    have hle := Items.population_le values hitems
    have htag : (plain "a").length = 1 := rfl
    rw [Value.population, List.length_append, List.length_append, htag]
    omega
  | .uninit, _, h | .boolean _, _, h | .integer _, _, h | .double _, _, h | .string _, _, h => by
    obtain ⟨tag, payload, rfl, _⟩ := h.eq_cons
    exact Nat.succ_le_succ (Nat.zero_le _)

theorem Items.population_le :
    ∀ (values : List Value) {bytes : List UInt8}, Items bytes values →
      Value.populationAll values ≤ bytes.length
  | [], _, _ => Nat.zero_le _
  | value :: values, _, .cons hitem hitems => by
    have hle := Item.population_le value hitem
    have hles := Items.population_le values hitems
    rw [Value.populationAll, List.length_append]
    omega

end

theorem population_pos (value : Value) : 0 < value.population := by
  cases value with
  | array values =>
    rw [Value.population]
    omega
  | uninit | boolean | integer | double | string => exact Nat.one_pos

/-- A reading that succeeds takes a byte for each value, and keeps to the allowed depth. -/
theorem readItem_done {allowance : Nat} {cursor behind : Cursor} {value : Value}
    (h : readItem allowance cursor = .done value behind) :
    cursor.offset + value.population ≤ behind.offset ∧ value.depth ≤ allowance := by
  obtain ⟨taken, hrest, hitem, hdepth⟩ := readItem_takes allowance cursor value behind h
  have hprecedes := readItem_precedes allowance cursor
  rw [h] at hprecedes
  have hlength := hprecedes.length_rest
  have hle := hitem.population_le
  rw [hrest, List.length_append, Reading.cursor] at hlength
  exact ⟨by omega, hdepth⟩

/-- Elements beyond the bytes that are left make no difference: the reading has failed by then, with
the same fault at the same place, however many are asked for. -/
theorem readMany_of_short (allowance : Nat) (cursor : Cursor) :
    ∃ fault behind, ∀ count, cursor.rest.length < count →
      readMany (readItem allowance) count cursor = .failed fault behind := by
  generalize hleft : cursor.rest.length = left
  induction left using Nat.strongRecOn generalizing cursor with
  | ind left ih =>
    cases hread : readItem allowance cursor with
    | failed fault behind =>
      refine ⟨fault, behind, fun count hcount => ?_⟩
      obtain ⟨count, rfl⟩ := Nat.exists_eq_add_of_lt hcount
      exact readMany_cons_failed hread _
    | done value behind =>
      have hdone := (readItem_done hread).1
      have hpos := population_pos value
      have hprecedes := readItem_precedes allowance cursor
      rw [hread] at hprecedes
      have hlength := hprecedes.length_rest
      rw [Reading.cursor] at hlength
      have hshorter : behind.rest.length < left := by omega
      obtain ⟨fault, last, hfailed⟩ := ih _ hshorter behind rfl
      refine ⟨fault, last, fun count hcount => ?_⟩
      obtain ⟨count, rfl⟩ : ∃ n, count = n + 1 := ⟨count - 1, by omega⟩
      rw [readMany_cons hread, hfailed count (by omega)]
      rfl

end Pack

/-! ## Every reading of a cursor -/

namespace Cursor

/-- Where a cursor is left after several readings, successful or not. -/
def after : Nat → Cursor → Cursor
  | 0, cursor => cursor
  | count + 1, cursor => after count cursor.next.cursor

theorem next_precedes (cursor : Cursor) : cursor.Precedes cursor.next.cursor :=
  Pack.readItem_precedes Pack.maxDepth cursor

theorem after_precedes (count : Nat) (cursor : Cursor) : cursor.Precedes (cursor.after count) := by
  induction count generalizing cursor with
  | zero => exact .refl cursor
  | succ count ih => exact cursor.next_precedes.trans (ih _)

end Cursor

/-- The place of an unpacking fault is in the bytes or at their end. -/
theorem Value.offset_le_of_unpack {bytes : List UInt8} {e : Error} (h : unpack bytes = .error e) :
    ∃ offset fault, e = .deserialize offset fault ∧ offset ≤ bytes.length := by
  have hplace := ((Cursor.ofBytes bytes).next_precedes.standing).2
  unfold unpack at h
  split at h
  · cases h
  · split at h
    · rename_i fault cursor hnext
      rw [hnext] at hplace
      cases h
      exact ⟨_, _, rfl, hplace⟩
    · rename_i value cursor hnext
      rw [hnext] at hplace
      split at h
      · cases h
      · cases h
        exact ⟨_, _, rfl, hplace⟩

namespace Cursor

/-- A cursor has been set to the beginning of some bytes and any number of values has been asked
for, some of them in vain. The next reading leaves it in the bytes and no further back than it was.
A value that is read lies between the two places; it is not nested too deeply, and has a byte for
each value in it. A fault is where the cursor is left. No loop over a count goes further than the
bytes do: past them the reading has failed, and the greater count changes nothing. When bytes are
unpacked as a whole, a fault lies in them or at their end. -/
theorem next_in_bounds (bytes : List UInt8) :
    (∀ count : Nat,
      let before := (ofBytes bytes).after count
      let reading := before.next
      let behind := reading.cursor
      before.offset ≤ behind.offset ∧ behind.offset ≤ bytes.length ∧
      behind = standing bytes behind.offset ∧
      (∀ value, reading.toExcept = .ok value →
        before.offset < behind.offset ∧ value.depth ≤ 256 ∧
          value.population ≤ behind.offset - before.offset) ∧
      ∀ e, reading.toExcept = .error e → ∃ fault, e = .deserialize behind.offset fault) ∧
    (∀ (allowance : Nat) (cursor : Cursor), ∃ fault behind, ∀ count, cursor.rest.length < count →
      Pack.readMany (Pack.readItem allowance) count cursor = .failed fault behind) ∧
    ∀ e, Value.unpack bytes = .error e →
      ∃ offset fault, e = .deserialize offset fault ∧ offset ≤ bytes.length := by
  refine ⟨fun count => ?_, Pack.readMany_of_short, fun e => Value.offset_le_of_unpack⟩
  intro before reading behind
  have hnext : before.Precedes behind := before.next_precedes
  obtain ⟨hstanding, hbound⟩ := ((after_precedes count (ofBytes bytes)).trans hnext).standing
  refine ⟨hnext.offset_le, hbound, hstanding, fun value hvalue => ?_, fun e => ?_⟩
  · obtain ⟨hpopulation, hdepth⟩ :=
      Pack.readItem_done (show before.next = .done value behind from reading.eq_done hvalue)
    have hpos := Pack.population_pos value
    exact ⟨by omega, hdepth, by omega⟩
  · exact reading.eq_error

/-- A length that goes past the end stops the cursor in the middle of an array, and the next reading
takes what stands there. -/
example :
    (readings 2 (ofBytes (Pack.plain "a2:i7S9:i5"))).map Pack.Reading.cursor =
      [⟨8, Pack.plain "i5"⟩, ⟨10, []⟩] := by
  decide +kernel

end Cursor

end ScriptHost

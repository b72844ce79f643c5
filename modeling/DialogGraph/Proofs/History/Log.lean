import DialogGraph.History
import Mathlib.Data.List.Basic

/-!
# The history as a log

A history keeps its snapshots around the present one. Seen from outside it is a log with a cursor:
recording writes after the cursor, going back and going on move the cursor by one. These lemmas
compare the two operation by operation.
-/

namespace DialogGraph

/-- A log of snapshots, oldest first, with the place of the present one, which is -1 if there is
none. -/
structure Log where
  entries : List Value
  cursor : Int

namespace Log

def empty : Log := ⟨[], -1⟩

def present? (log : Log) : Option Value :=
  if log.cursor < 0 then none else log.entries[log.cursor.toNat]?

/-- Writes a snapshot after the cursor, in place of all that follow. If there are too many then, the
oldest one falls off. -/
def write (limit : Nat) (log : Log) (snapshot : Value) : Log :=
  let written := log.entries.take (log.cursor + 1).toNat ++ [snapshot]
  let entries := if limit < written.length then written.tail else written
  ⟨entries, entries.length - 1⟩

/-- Records a snapshot, unless it equals the one at the cursor. -/
def record (limit : Nat) (log : Log) (snapshot : Value) : Log :=
  match log.present? with
  | some present => if present.equal snapshot then log else log.write limit snapshot
  | none => log.write limit snapshot

/-- The log with the cursor one entry back, if there is one. -/
def undo? (log : Log) : Option Log :=
  if 0 < log.cursor then some { log with cursor := log.cursor - 1 } else none

/-- The log with the cursor one entry on, if there is one. -/
def redo? (log : Log) : Option Log :=
  if log.cursor + 1 < log.entries.length then some { log with cursor := log.cursor + 1 } else none

/-- The log is no longer than allowed, and the cursor is at an entry if there is any. -/
structure Bounded (limit : Nat) (log : Log) : Prop where
  length_le : log.entries.length ≤ limit
  neg_one_le : -1 ≤ log.cursor
  lt_length : log.cursor < log.entries.length
  eq_neg_one_iff : log.cursor = -1 ↔ log.entries = []

variable {limit : Nat} {log next : Log} {entry snapshot : Value}

theorem mem_of_present? (hpresent : log.present? = some entry) : entry ∈ log.entries := by
  rw [present?] at hpresent
  split_ifs at hpresent
  exact List.mem_of_getElem? hpresent

/-- Recording adds no entry but the recorded one. -/
theorem mem_record (hentry : entry ∈ (log.record limit snapshot).entries) :
    entry ∈ log.entries ∨ entry = snapshot := by
  have hwrite : entry ∈ (log.write limit snapshot).entries →
      entry ∈ log.entries ∨ entry = snapshot := by
    intro hwritten
    have hmem : entry ∈ log.entries.take (log.cursor + 1).toNat ++ [snapshot] := by
      rw [write] at hwritten
      dsimp only at hwritten
      split_ifs at hwritten
      · exact List.mem_of_mem_tail hwritten
      · exact hwritten
    rcases List.mem_append.1 hmem with hold | hnew
    · exact .inl (List.mem_of_mem_take hold)
    · exact .inr (List.mem_singleton.1 hnew)
  rw [record] at hentry
  split at hentry
  · split_ifs at hentry
    · exact .inl hentry
    · exact hwrite hentry
  · exact hwrite hentry

theorem undo?_eq_some_iff :
    log.undo? = some next ↔ 0 < log.cursor ∧ next = { log with cursor := log.cursor - 1 } := by
  rw [undo?]
  split_ifs with hback <;> simp [hback, eq_comm]

theorem redo?_eq_some_iff :
    log.redo? = some next ↔
      log.cursor + 1 < log.entries.length ∧ next = { log with cursor := log.cursor + 1 } := by
  rw [redo?]
  split_ifs with hforth <;> simp [hforth, eq_comm]

/-- A step back can be taken back. -/
theorem Bounded.redo?_of_undo? (hlog : log.Bounded limit) (hnext : log.undo? = some next) :
    next.redo? = some log := by
  obtain ⟨-, rfl⟩ := undo?_eq_some_iff.1 hnext
  have hlength := hlog.lt_length
  refine redo?_eq_some_iff.2 ⟨?_, ?_⟩
  · dsimp only
    omega
  · simp

theorem entries_of_undo? (hnext : log.undo? = some next) : next.entries = log.entries := by
  obtain ⟨-, rfl⟩ := undo?_eq_some_iff.1 hnext
  rfl

theorem entries_of_redo? (hnext : log.redo? = some next) : next.entries = log.entries := by
  obtain ⟨-, rfl⟩ := redo?_eq_some_iff.1 hnext
  rfl

end Log

namespace History

def log (history : History) : Log :=
  ⟨history.past.reverse ++ history.present.toList ++ history.future,
    history.past.length + history.present.toList.length - 1⟩

/-- A history within its limit. One without a present has no snapshots at all. -/
structure Fits (limit : Nat) (history : History) : Prop where
  limit_eq : history.limit = limit
  length_le : history.length ≤ limit
  absent : history.present = none → history.past = [] ∧ history.future = []

variable {limit : Nat} {history : History}

theorem Fits.empty (hlimit : 0 < limit) : (History.empty limit hlimit).Fits limit :=
  ⟨rfl, Nat.zero_le _, fun _ => ⟨rfl, rfl⟩⟩

theorem Fits.clear (hfits : history.Fits limit) : history.clear.Fits limit :=
  ⟨hfits.limit_eq, Nat.zero_le _, fun _ => ⟨rfl, rfl⟩⟩

theorem log_clear (history : History) : history.clear.log = .empty := rfl

/-- What is kept when something is written: the past and the present. -/
theorem take_entries (history : History) :
    history.log.entries.take (history.log.cursor + 1).toNat =
      history.past.reverse ++ history.present.toList := by
  have hcursor : (history.log.cursor + 1).toNat =
      (history.past.reverse ++ history.present.toList).length := by
    simp [log]
    omega
  rw [hcursor]
  exact List.take_left

theorem Fits.bounded (hfits : history.Fits limit) : history.log.Bounded limit := by
  have hlength : history.log.entries.length = history.length := by
    simp [log, History.length]
    omega
  cases hpresent : history.present with
  | none =>
    obtain ⟨hpast, hfuture⟩ := hfits.absent hpresent
    have hlog : history.log = .empty := by simp [log, Log.empty, hpresent, hpast, hfuture]
    rw [hlog]
    constructor <;> simp [Log.empty]
  | some present =>
    have hcursor : history.log.cursor = history.past.length := by simp [log, hpresent]
    have hentries : history.past.length < history.log.entries.length := by
      simp [log, hpresent]
    have hnonempty : history.log.entries ≠ [] := List.ne_nil_of_length_pos (by omega)
    refine ⟨hlength ▸ hfits.length_le, by omega, by omega, ?_⟩
    simp only [hnonempty, iff_false]
    omega

theorem Fits.present?_log (hfits : history.Fits limit) : history.log.present? = history.present := by
  cases hpresent : history.present with
  | none =>
    obtain ⟨hpast, hfuture⟩ := hfits.absent hpresent
    simp [log, Log.present?, hpresent, hpast, hfuture]
  | some present => simp [log, Log.present?, hpresent]

/-! ### Recording -/

/-- The newest part of a row, oldest first, with something new at the end: if the row was full, its
oldest member has fallen off. -/
theorem reverse_take_append {α : Type} {row : List α} (hrow : row.length ≤ limit)
    (hlimit : 0 < limit) (new : α) :
    (row.take (limit - 1)).reverse ++ [new] =
      if limit < (row.reverse ++ [new]).length then (row.reverse ++ [new]).tail
      else row.reverse ++ [new] := by
  rw [List.length_append, List.length_reverse, List.length_singleton]
  split_ifs with hfull
  · have hnonempty : row.reverse ≠ [] := by
      rw [Ne, List.reverse_eq_nil_iff]
      exact List.ne_nil_of_length_pos (by omega)
    have hlast : limit - 1 = row.length - 1 := by omega
    rw [List.tail_append_of_ne_nil hnonempty, List.tail_reverse, List.dropLast_eq_take, hlast]
  · rw [List.take_of_length_le (by omega)]

theorem push_entries_length (hfits : history.Fits limit) :
    (history.present.toList ++ history.past).length ≤ limit := by
  have hle := hfits.length_le
  rw [History.length] at hle
  rw [List.length_append]
  omega

/-- Making a snapshot the present one writes it into the log. -/
theorem log_push (hfits : history.Fits limit) (snapshot : Value) :
    (history.push snapshot).log = history.log.write limit snapshot := by
  have hpositive : 0 < limit := hfits.limit_eq ▸ history.limit_pos
  have hkept : history.past.reverse ++ history.present.toList =
      (history.present.toList ++ history.past).reverse := by
    cases history.present <;> simp
  have hentries : (history.push snapshot).log.entries =
      (history.log.write limit snapshot).entries := by
    rw [Log.write, take_entries, hkept]
    rw [← reverse_take_append (push_entries_length hfits) hpositive]
    simp [log, push, hfits.limit_eq]
  have hcursor : (history.push snapshot).log.cursor =
      (history.push snapshot).log.entries.length - 1 := by
    simp [log, push]
  have hwritten : (history.log.write limit snapshot).cursor =
      (history.log.write limit snapshot).entries.length - 1 := rfl
  have hsame : (history.push snapshot).log.cursor = (history.log.write limit snapshot).cursor := by
    rw [hcursor, hwritten, hentries]
  calc (history.push snapshot).log
      = ⟨(history.push snapshot).log.entries, (history.push snapshot).log.cursor⟩ := rfl
    _ = history.log.write limit snapshot := by rw [hentries, hsame]

theorem Fits.push (hfits : history.Fits limit) (snapshot : Value) :
    (history.push snapshot).Fits limit := by
  have hpositive : 0 < limit := hfits.limit_eq ▸ history.limit_pos
  refine ⟨hfits.limit_eq, ?_, fun habsent => by cases habsent⟩
  simp [History.length, History.push, hfits.limit_eq]
  omega

/-- Recording a snapshot records it in the log. -/
theorem log_recordSnapshot (hfits : history.Fits limit) (snapshot : Value) :
    (history.recordSnapshot snapshot).log = history.log.record limit snapshot := by
  rw [recordSnapshot, Log.record, hfits.present?_log]
  cases history.present with
  | none => exact log_push hfits snapshot
  | some present =>
    dsimp only
    split_ifs
    · rfl
    · exact log_push hfits snapshot

theorem Fits.recordSnapshot (hfits : history.Fits limit) (snapshot : Value) :
    (history.recordSnapshot snapshot).Fits limit := by
  rw [History.recordSnapshot]
  split
  · split_ifs
    · exact hfits
    · exact hfits.push snapshot
  · exact hfits.push snapshot

/-! ### Steps -/

/-- A step through the history and a move of the cursor are the same: neither is possible, or both
lead to the same snapshot. -/
inductive Follows (limit : Nat) : Option (History × Value) → Option Log → Prop
  | stays : Follows limit none none
  | moves {after : History} {snapshot : Value} (fits : after.Fits limit)
      (present_eq : after.present = some snapshot) :
      Follows limit (some (after, snapshot)) (some after.log)

/-- A history with a past or a future has a present. -/
theorem Fits.exists_present (hfits : history.Fits limit)
    (hkept : history.past ≠ [] ∨ history.future ≠ []) :
    ∃ present, history.present = some present := by
  cases hpresent : history.present with
  | some present => exact ⟨present, rfl⟩
  | none =>
    obtain ⟨hpast, hfuture⟩ := hfits.absent hpresent
    rw [hpast, hfuture] at hkept
    simp at hkept

theorem follows_back? (hfits : history.Fits limit) :
    Follows limit history.back? history.log.undo? := by
  have hlength := hfits.length_le
  cases hpast : history.past with
  | nil =>
    have hcursor : history.log.cursor ≤ 0 := by
      cases hpresent : history.present <;> simp [log, hpast, hpresent]
    rw [back?, hpast, Log.undo?, if_neg (by omega)]
    exact .stays
  | cons snapshot past =>
    obtain ⟨present, hpresent⟩ := hfits.exists_present (.inl (by simp [hpast]))
    have hmoved : history.log.undo? = some (log { history with
        past := past, present := some snapshot, future := present :: history.future }) := by
      have hcursor : history.log.cursor = past.length + 1 := by simp [log, hpast, hpresent]
      rw [Log.undo?, if_pos (by omega)]
      simp [log, hpast, hpresent]
    rw [back?, hpast, hpresent, hmoved]
    refine .moves ⟨hfits.limit_eq, ?_, fun habsent => by cases habsent⟩ rfl
    simp [History.length, hpast, hpresent] at hlength ⊢
    omega

theorem follows_forth? (hfits : history.Fits limit) :
    Follows limit history.forth? history.log.redo? := by
  have hlength := hfits.length_le
  cases hfuture : history.future with
  | nil =>
    have hcursor : history.log.entries.length ≤ history.log.cursor + 1 := by
      simp [log, hfuture]
    rw [forth?, hfuture, Log.redo?, if_neg (by omega)]
    exact .stays
  | cons snapshot future =>
    obtain ⟨present, hpresent⟩ := hfits.exists_present (.inr (by simp [hfuture]))
    have hmoved : history.log.redo? = some (log { history with
        past := present :: history.past, present := some snapshot, future := future }) := by
      have hcursor : history.log.cursor + 1 < history.log.entries.length := by
        simp only [log, hfuture, hpresent, Option.toList_some, List.length_append, List.length_reverse,
          List.length_cons, List.length_nil]
        omega
      rw [Log.redo?, if_pos hcursor]
      simp [log, hfuture, hpresent]
    rw [forth?, hfuture, hpresent, hmoved]
    refine .moves ⟨hfits.limit_eq, ?_, fun habsent => by cases habsent⟩ rfl
    simp [History.length, hfuture, hpresent] at hlength ⊢
    omega

/-- The log can be gone back in where the history can. -/
theorem Fits.canUndo_eq_false (hfits : history.Fits limit) (hundo : history.log.undo? = none) :
    history.canUndo = false := by
  have hfollows := follows_back? hfits
  rw [hundo] at hfollows
  rw [canUndo]
  cases hpast : history.past with
  | nil => rfl
  | cons snapshot past =>
    rw [back?, hpast] at hfollows
    cases hfollows

theorem Fits.redo?_eq_none (hfits : history.Fits limit) (hredo : history.canRedo = false) :
    history.log.redo? = none := by
  have hfollows := follows_forth? hfits
  cases hfuture : history.future with
  | nil =>
    rw [forth?, hfuture] at hfollows
    generalize history.log.redo? = moved at hfollows
    cases hfollows
    rfl
  | cons snapshot future => simp [canRedo, hfuture] at hredo

/-- What is recorded is present then, or else something that equals it. -/
theorem recordSnapshot_present (history : History) (snapshot : Value) :
    ∃ kept, (history.recordSnapshot snapshot).present = some kept ∧
      (kept = snapshot ∨ kept.equal snapshot = true) := by
  rw [recordSnapshot]
  cases hpresent : history.present with
  | none => exact ⟨snapshot, rfl, .inl rfl⟩
  | some present =>
    dsimp only
    split_ifs with hequal
    · exact ⟨present, hpresent, .inr hequal⟩
    · exact ⟨snapshot, rfl, .inl rfl⟩

end History

end DialogGraph

import DialogGraph.Csv
import Mathlib.Tactic.SplitIfs

/-!
# Texts without rows

Comma-separated values cannot be read for two reasons: something follows a carriage return that ends
a row, or a field is too long. The reader stands behind a row only where it has just passed a
carriage return, and a field is never longer than what was read.
-/

namespace DialogGraph.Csv

/-- A carriage return with something other than a line break behind it. -/
def BareReturn (cs : List Char) : Prop :=
  ∃ front c rest, cs = front ++ '\r' :: c :: rest ∧ c ≠ '\r' ∧ c ≠ '\n'

namespace State

variable {s : State} {c : Char}

/-- What comes of reading a character: a state that stands behind a row only if the character is a
line break and whose field has grown by at most that character, or a fault and what led to it. -/
inductive Outcome (s : State) (c : Char) : Except Fault State → Prop
  | ok {after : State} (hplace : after.place = .rowEnd → c = '\n' ∨ c = '\r')
      (hsize : after.size ≤ s.size + 1) : Outcome s c (.ok after)
  | bareReturn (hplace : s.place = .rowEnd) (hfeed : c ≠ '\n') (hreturn : c ≠ '\r') :
      Outcome s c (.error .bareReturn)
  | oversizedField (hsize : fieldLimit ≤ s.size) : Outcome s c (.error .oversizedField)

theorem put_outcome {place : Place} (hplace : place ≠ .rowEnd) : Outcome s c (s.put c place) := by
  rw [put]
  split
  next hsize => exact .oversizedField hsize
  next => exact .ok (fun hrowEnd => absurd hrowEnd hplace) (Nat.le_refl _)

theorem endField_outcome {place : Place} (hplace : place = .rowEnd → c = '\n' ∨ c = '\r') :
    Outcome s c (.ok (s.endField place)) :=
  .ok hplace (Nat.zero_le _)

theorem startField_outcome : Outcome s c (s.startField c) := by
  rw [startField]
  split_ifs with hbreak hquote hcomma
  · exact endField_outcome fun _ => by simpa using hbreak
  · exact .ok nofun (Nat.le_succ _)
  · exact endField_outcome nofun
  · exact put_outcome nofun

theorem read_outcome : Outcome s c (s.read c) := by
  rw [read]
  split
  next =>
    split_ifs with hbreak
    · exact .ok (fun _ => by simpa using hbreak) (Nat.le_succ _)
    · exact startField_outcome
  next => exact startField_outcome
  next =>
    split_ifs with hbreak hcomma
    · exact endField_outcome fun _ => by simpa using hbreak
    · exact endField_outcome nofun
    · exact put_outcome nofun
  next =>
    split_ifs
    · exact .ok nofun (Nat.le_succ _)
    · exact put_outcome nofun
  next =>
    split_ifs with hquote hcomma hbreak
    · exact put_outcome nofun
    · exact endField_outcome nofun
    · exact endField_outcome fun _ => by simpa using hbreak
    · exact put_outcome nofun
  next hplace =>
    split_ifs with hbreak
    · exact .ok (fun _ => by simpa using hbreak) (Nat.le_succ _)
    · obtain ⟨hfeed, hreturn⟩ : c ≠ '\n' ∧ c ≠ '\r' := by simpa using hbreak
      exact .bareReturn hplace hfeed hreturn

theorem endLine_place : s.endLine.place ≠ .rowEnd := by
  rw [endLine]
  split
  next => exact nofun
  next => exact nofun
  next => exact nofun
  next => exact nofun
  next => exact nofun
  next hplace => simp [hplace]

theorem endLine_size_le : s.endLine.size ≤ s.size := by
  rw [endLine]
  split
  all_goals first | exact Nat.le_refl _ | exact Nat.zero_le _

/-- What a state says about the characters read so far. -/
structure Behind (s : State) (front : List Char) : Prop where
  place : s.place = .rowEnd → ∃ before, front = before ++ ['\r']
  size_le : s.size ≤ front.length

/-- A text that cannot be read holds a bare return, or more characters than a field may. -/
theorem readAll_eq_error {begun : Bool} {front cs : List Char} {fault : Fault}
    (hbehind : Behind s front) (hread : s.readAll begun cs = .error fault) :
    fault = .bareReturn ∧ BareReturn (front ++ cs) ∨
      fault = .oversizedField ∧ fieldLimit < (front ++ cs).length := by
  induction cs generalizing s begun front with
  | nil => cases hread
  | cons c rest ih =>
    have hfront : front ++ c :: rest = (front ++ [c]) ++ rest := by simp
    have houtcome := s.read_outcome (c := c)
    rw [readAll] at hread
    generalize s.read c = result at houtcome hread
    cases houtcome with
    | bareReturn hplace hfeed hreturn =>
      cases hread
      obtain ⟨before, rfl⟩ := hbehind.place hplace
      exact .inl ⟨rfl, before, c, rest, by simp, hreturn, hfeed⟩
    | oversizedField hsize =>
      cases hread
      have hlength := hbehind.size_le
      refine .inr ⟨rfl, ?_⟩
      rw [List.length_append, List.length_cons]
      omega
    | @ok after hplace hsize =>
      have hgrown : after.size ≤ (front ++ [c]).length := by
        have hlength := hbehind.size_le
        rw [List.length_append, List.length_singleton]
        omega
      rw [hfront]
      dsimp only at hread
      split at hread
      next =>
        have hsmaller := Nat.le_trans (endLine_size_le (s := after)) hgrown
        exact ih ⟨fun hrowEnd => absurd hrowEnd endLine_place, hsmaller⟩ hread
      next hfeed =>
        refine ih ⟨fun hrowEnd => ⟨front, ?_⟩, hgrown⟩ hread
        rw [(hplace hrowEnd).resolve_left (by simpa using hfeed)]

end State

/-- Rows that cannot be read. -/
theorem rows_eq_error {s : String} {fault : Fault} (hrows : rows s = .error fault) :
    fault = .bareReturn ∧ BareReturn s.toList ∨
      fault = .oversizedField ∧ fieldLimit < s.toList.length := by
  have hread : State.initial.readAll false s.toList = .error fault := by
    rw [rows] at hrows
    cases hread : State.initial.readAll false s.toList with
    | ok after =>
      rw [hread] at hrows
      cases hrows
    | error found =>
      rw [hread] at hrows
      cases hrows
      rfl
  have hinitial : State.initial.Behind [] :=
    ⟨fun hplace => Place.noConfusion hplace, Nat.le_refl _⟩
  exact State.readAll_eq_error hinitial hread

end DialogGraph.Csv

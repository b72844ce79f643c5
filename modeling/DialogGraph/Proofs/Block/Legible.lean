import DialogGraph.Proofs.Block.Salvaging
import DialogGraph.Proofs.Json.Legible

/-!
# Settings have a text

The settings of a block are read from loose data. If everything in the data has a text, then so has
everything in the settings: an integer is taken over as it is, or read from a text with a limited
number of digits, or from a double that fits 64 bits, and all else has a text anyway.
-/

namespace DialogGraph

open DialogGraph.Number DialogGraph.Text

/-! ### Integers -/

namespace Numeral

/-- The digits of a number are below ten. -/
theorem asciiDigit?_lt {c : Char} {d : Nat} (hd : asciiDigit? c = some d) : d < 10 := by
  rw [asciiDigit?] at hd
  split at hd
  next hdigit =>
    have hbounds := toNat_bounds_of_isDigit hdigit
    obtain rfl := Option.some.inj hd
    omega
  next => cases hd

theorem plain_lt {cs : List Char} {n : Int} (hplain : plain cs = .integer n) :
    n.natAbs < 10 ^ digitLimit := by
  unfold plain at hplain
  extract_lets signs rest digits negative at hplain
  split_ifs at hplain with hsigns hzero hstart hlong hrest
  · obtain rfl := Reading.integer.inj hplain
    exact Nat.pow_pos (by decide)
  · obtain rfl := Reading.integer.inj hplain
    have hvalue : digitsValue (digits.filterMap asciiDigit?) <
        10 ^ (digits.filterMap asciiDigit?).length := by
      apply digitsValue_lt
      intro d hd
      obtain ⟨c, -, hc⟩ := List.mem_filterMap.1 hd
      exact asciiDigit?_lt hc
    have hlength : (digits.filterMap asciiDigit?).length ≤ digitLimit :=
      (List.length_filterMap_le _ _).trans (Nat.not_lt.1 hlong)
    rw [Json.natAbs_signed]
    exact lt_of_lt_of_le hvalue (Nat.pow_le_pow_right (by decide) hlength)

theorem readInteger_lt {s : String} {n : Int} (hread : readInteger s = .integer n) :
    n.natAbs < 10 ^ digitLimit := by
  unfold readInteger at hread
  split at hread
  next =>
    split at hread
    next m htidied =>
      obtain rfl := Reading.integer.inj hread
      obtain ⟨cs, -, hplain⟩ := Option.map_eq_some_iff.1 htidied
      exact plain_lt hplain
    next => cases hread
  next => exact plain_lt hread

end Numeral

/-- An integer setting is within the digit limit if what it is read from is. -/
theorem Setting.integer_legible {value : Value} (hvalue : value.Legible) {n : Int}
    (hread : Setting.integer value = .ok n) : (Value.int n).Legible := by
  have hsmall {m : Int} (hm : m.natAbs < 2 ^ 63) : (Value.int m).Legible := by
    rw [Value.Legible.int_iff]
    calc m.natAbs
      _ < 2 ^ 63 := hm
      _ ≤ 10 ^ 63 := Nat.pow_le_pow_left (by decide) 63
      _ ≤ 10 ^ digitLimit := Nat.pow_le_pow_right (by decide) (by decide)
  match value with
  | .int m =>
    obtain rfl : m = n := Except.ok.inj hread
    exact hvalue
  | .bool b =>
    obtain rfl : (if b then 1 else 0) = n := Except.ok.inj hread
    cases b <;> exact hsmall (by decide)
  | .real x =>
    rw [integer, integerOfReal] at hread
    split at hread
    next d _ =>
      split_ifs at hread with hwhole hfits
      obtain rfl := Except.ok.inj hread
      exact hsmall hfits
    next => cases hread
  | .text s =>
    rw [integer, integerOfText] at hread
    split at hread
    next m hm =>
      obtain rfl := Except.ok.inj hread
      exact Value.Legible.int_iff.2 (Numeral.readInteger_lt hm)
    next => cases hread
    next => cases hread
  | .null | .list _ | .record _ => cases hread

/-! ### Fields -/

/-- Whether a field that is set to something with a text holds something with a text. -/
def Field.Shows {α : Type} (field : Field α) : Prop :=
  ∀ value set, value.Legible → field.set? value = .ok set → ∀ a, (field.get (set a)).Legible

theorem Field.shows_make {α β : Type} {name : String} {read : Value → Except Problem β}
    {write : β → Value} {get : α → β} {put : α → β → α} (hput : ∀ a b, get (put a b) = b)
    (hread : ∀ value b, value.Legible → read value = .ok b → (write b).Legible) :
    (make name read write get put).Shows := by
  intro value set hvalue hset a
  obtain ⟨b, hb, rfl⟩ := map_eq_ok_iff.1 hset
  have hheld : (write (get (put a b))).Legible := by
    rw [hput]
    exact hread value b hvalue hb
  exact hheld

theorem legible_texts (ss : List String) : (Value.list (ss.map .text)).Legible :=
  .list fun _ hmem => by
    obtain ⟨s, -, rfl⟩ := List.mem_map.1 hmem
    exact .text s

/-- Rows have a text if whatever their fields hold has one. -/
theorem legible_rows {β : Type} [Settings β]
    (hfields : ∀ field ∈ (Settings.fields : List (Field β)), ∀ b, (field.get b).Legible)
    (bs : List β) : (Value.list (bs.map fun b => .record (Settings.toFields b))).Legible := by
  apply Value.Legible.list
  intro value hvalue
  obtain ⟨b, -, rfl⟩ := List.mem_map.1 hvalue
  apply Value.Legible.record
  intro name held hheld
  obtain ⟨field, hfield, hpair⟩ := List.mem_map.1 hheld
  obtain ⟨-, rfl⟩ := Prod.mk.inj hpair
  exact hfields field hfield b

theorem legible_buttons (buttons : List Button) :
    (Value.list (buttons.map fun button => .record (Settings.toFields button))).Legible := by
  apply legible_rows
  intro field hfield button
  rcases List.mem_pair.1 hfield with rfl | rfl <;> exact .text _

theorem legible_formFields (formFields : List FormField) :
    (Value.list (formFields.map fun field => .record (Settings.toFields field))).Legible := by
  apply legible_rows
  intro field hfield formField
  rcases List.mem_pair.1 hfield with rfl | rfl <;> exact .text _

/-- Settings that hold nothing without a text unless they are set to it. -/
class Settings.Shown (α : Type) [Settings α] : Prop where
  initial : ∀ field ∈ (Settings.fields : List (Field α)), (field.get Settings.initial).Legible
  shows : ∀ field ∈ (Settings.fields : List (Field α)), field.Shows

/-- The settings of every kind of block hold nothing without a text unless they are set to it. -/
instance (kind : Kind) : Settings.Shown kind.SettingsOf := by
  have hsmall (n : Nat) (hn : n < 10 ^ 3) : (Value.int n).Legible := by
    rw [Value.Legible.int_iff, Int.natAbs_natCast]
    exact lt_of_lt_of_le hn (Nat.pow_le_pow_right (by decide) (by decide))
  constructor
  · cases kind <;>
      repeat' first
        | exact List.forall_mem_nil _
        | refine List.forall_mem_cons.2 ⟨?_, ?_⟩
        | exact Value.Legible.text _
        | exact Value.Legible.real _
        | exact Value.Legible.bool _
        | exact hsmall _ (by decide)
        | exact legible_texts _
        | exact legible_buttons _
        | exact legible_formFields _
  · cases kind <;>
      repeat' first
        | exact List.forall_mem_nil _
        | refine List.forall_mem_cons.2 ⟨?_, ?_⟩
        | exact Field.shows_make (fun _ _ => rfl) fun _ s _ _ => Value.Legible.text s
        | exact Field.shows_make (fun _ _ => rfl) fun _ _ hvalue => Setting.integer_legible hvalue
        | exact Field.shows_make (fun _ _ => rfl) fun _ x _ _ => Value.Legible.real x
        | exact Field.shows_make (fun _ _ => rfl) fun _ b _ _ => Value.Legible.bool b
        | exact Field.shows_make (fun _ _ => rfl) fun _ b _ _ => Value.Legible.text (Tagged.tag b)
        | exact Field.shows_make (fun _ _ => rfl) fun _ ss _ _ => legible_texts ss
        | exact Field.shows_make (fun _ _ => rfl) fun _ buttons _ _ => legible_buttons buttons
        | exact Field.shows_make (fun _ _ => rfl) fun _ fields _ _ => legible_formFields fields

/-! ### Records of fields -/

/-- Settings that are read from data with a text have a text. -/
theorem Settings.legible_ofFields {α : Type} [Settings α] [Apart α] [Settled α]
    [hα : Shown α] {data : Fields} (hdata : (Value.record data).Legible) :
    (Value.record (toFields (ofFields data : α))).Legible := by
  apply Value.Legible.record
  intro name held hmem
  obtain ⟨field, hfield, hpair⟩ := List.mem_map.1 hmem
  obtain ⟨-, rfl⟩ := Prod.mk.inj hpair
  rw [get_ofFields data hfield, heldBy]
  split
  next => exact hα.initial field hfield
  next value hvalue =>
    split
    next held hheld =>
      obtain ⟨set, hset, rfl⟩ := map_eq_ok_iff.1 hheld
      exact hα.shows field hfield value set (hdata.of_get? hvalue) hset initial
    next => exact hα.initial field hfield

end DialogGraph

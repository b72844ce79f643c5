import DialogGraph.Proofs.Number.Fields
import DialogGraph.Value.Equality
import Mathlib.Data.List.Forall2
import Mathlib.Data.List.Perm.Subperm

/-!
# Equality of values

Values are compared by what they stand for: a number by its value, whatever its sort, a double that
is no number by its origin. Scalars are equal when they stand for the same, so their equality is an
equivalence. Records are compared one way only, field by field among the fields of the other record;
where no name occurs twice this makes no difference, and values that equal a third equal each other.
-/

namespace DialogGraph

open DialogGraph.Number

/-- What a scalar stands for. -/
inductive Essence where
  | null
  | number (q : ℚ)
  | infinite (negative : Bool)
  /-- A double that is no number. -/
  | nan (origin : Origin)
  | text (s : String)

def Double.essence (x : Double) : Essence :=
  match decode x.value with
  | .finite d => .number d.value
  | .infinite negative => .infinite negative
  | .nan => .nan x.origin

namespace Value

/-- What a value stands for, unless it is a list or a record. -/
def essence? : Value → Option Essence
  | null => some .null
  | bool b => some (.number (if b then 1 else 0))
  | int n => some (.number n)
  | real x => some x.essence
  | text s => some (.text s)
  | list _ => none
  | record _ => none

end Value

/-! ### Scalars -/

theorem Double.same_iff {x y : Double} : x.same y = true ↔ x.essence = y.essence := by
  rw [Double.same, Bool.or_eq_true, Bool.and_eq_true, Bool.and_eq_true, beq_iff, isNaN_iff,
    isNaN_iff, beq_iff_eq, Double.essence, Double.essence]
  cases decode x.value <;> cases decode y.value <;> simp [eq_comm]

theorem Double.essence_ne_null (x : Double) : x.essence ≠ .null := by
  rw [Double.essence]
  split <;> simp

theorem Double.essence_ne_text (x : Double) (s : String) : x.essence ≠ .text s := by
  rw [Double.essence]
  split <;> simp

theorem Double.essence_eq_number_iff {x : Double} {n : Int} :
    x.essence = .number n ↔ exactInt? x.value = some n := by
  rw [exactInt?_eq_some_iff, Double.essence]
  cases decode x.value <;> simp

theorem Double.number_eq_essence_iff {x : Double} {n : Int} :
    .number n = x.essence ↔ exactInt? x.value = some n :=
  eq_comm.trans Double.essence_eq_number_iff

namespace Value

theorem essence?_numeric (value : Value) : value.numeric.essence? = value.essence? := by
  cases value with
  | bool b => cases b <;> simp [numeric, essence?]
  | _ => rfl

/-- Scalars are equal when they stand for the same. -/
theorem equalScalars_iff {a b : Value} :
    equalScalars a b = true ↔ a.essence? = b.essence? ∧ a.essence? ≠ none := by
  rw [equalScalars, ← essence?_numeric a, ← essence?_numeric b]
  have ha : ∀ t, a.numeric ≠ bool t := by cases a <;> simp [numeric]
  have hb : ∀ t, b.numeric ≠ bool t := by cases b <;> simp [numeric]
  generalize a.numeric = a at *
  generalize b.numeric = b at *
  cases a with
  | bool t => exact absurd rfl (ha t)
  | null | int | real | text | list | record =>
    cases b with
    | bool t => exact absurd rfl (hb t)
    | null | int | real | text | list | record =>
      simp [essence?, Double.same_iff, Double.essence_eq_number_iff, Double.number_eq_essence_iff,
        Double.essence_ne_null, Double.essence_ne_text, (Double.essence_ne_null _).symm,
        (Double.essence_ne_text _ _).symm]

/-! ### Lists and records -/

theorem equalItems_iff {items others : List Value} :
    equalItems items others = true ↔ List.Forall₂ (fun a b => a.equal b = true) items others := by
  induction items generalizing others with
  | nil => cases others <;> simp [equalItems]
  | cons item rest ih =>
    cases others with
    | nil => simp [equalItems]
    | cons other others => simp [equalItems, ih]

theorem equalFields_iff {fields others : Fields} :
    equalFields fields others = true ↔
      ∀ field ∈ fields, ∃ other, Assoc.get? others field.1 = some other ∧
        field.2.equal other = true := by
  induction fields with
  | nil => simp [equalFields]
  | cons field rest ih =>
    obtain ⟨name, value⟩ := field
    rw [equalFields, Bool.and_eq_true, ih, List.forall_mem_cons]
    cases Assoc.get? others name <;> simp

variable {a b : Value} {items : List Value} {fields : Fields} {essence : Essence}

/-- A scalar equals the scalars that stand for the same. -/
theorem equal_iff_of_essence (ha : a.essence? = some essence) :
    a.equal b = true ↔ b.essence? = some essence := by
  have hscalars : equalScalars a b = true ↔ b.essence? = some essence := by
    rw [equalScalars_iff, ha]
    simp [eq_comm]
  cases a with
  | list | record => cases ha
  | _ => cases b <;> simpa only [equal] using hscalars

theorem list_equal_iff :
    (list items).equal b = true ↔
      ∃ others, b = list others ∧ List.Forall₂ (fun a b => a.equal b = true) items others := by
  cases b with
  | list others => simp [equal, equalItems_iff]
  | _ => simp [equal, equalScalars_iff, essence?]

theorem record_equal_iff :
    (record fields).equal b = true ↔
      ∃ others, b = record others ∧ fields.length = others.length ∧
        ∀ field ∈ fields, ∃ other, Assoc.get? others field.1 = some other ∧
          field.2.equal other = true := by
  cases b with
  | record others => simp [equal, equalFields_iff]
  | _ => simp [equal, equalScalars_iff, essence?]

/-! ### Keyed values -/

/-- A value in whose records no name occurs twice. -/
inductive Keyed : Value → Prop
  | scalar {value : Value} {essence : Essence} (hscalar : value.essence? = some essence) :
      Keyed value
  | list {items : List Value} (hitems : ∀ item ∈ items, Keyed item) : Keyed (.list items)
  | record {fields : Fields} (hnodup : (Assoc.keys fields).Nodup)
      (hfields : ∀ field ∈ fields, Keyed field.2) : Keyed (.record fields)

theorem keyed_record_iff :
    (record fields).Keyed ↔ (Assoc.keys fields).Nodup ∧ ∀ field ∈ fields, field.2.Keyed := by
  constructor
  · rintro (hscalar | _ | ⟨hnodup, hfields⟩)
    · cases hscalar
    · exact ⟨hnodup, hfields⟩
  · rintro ⟨hnodup, hfields⟩
    exact .record hnodup hfields

/-- A keyed value equals itself. -/
theorem Keyed.equal_self (hkeyed : a.Keyed) : a.equal a = true := by
  induction hkeyed with
  | scalar hscalar => exact (equal_iff_of_essence hscalar).2 hscalar
  | list hitems ih =>
    refine list_equal_iff.2 ⟨_, rfl, ?_⟩
    exact List.forall₂_same.2 ih
  | record hnodup hfields ih =>
    refine record_equal_iff.2 ⟨_, rfl, rfl, fun field hfield => ?_⟩
    exact ⟨field.2, Assoc.get?_of_mem hnodup hfield, ih field hfield⟩

/-- If each field of a keyed record is among as many others by its name, the others have the same
names, each once. -/
theorem keys_perm {others : Fields} (hnodup : (Assoc.keys fields).Nodup)
    (hlength : fields.length = others.length)
    (hnames : ∀ name ∈ Assoc.keys fields, name ∈ Assoc.keys others) :
    (Assoc.keys fields).Perm (Assoc.keys others) := by
  apply (List.subperm_of_subset hnodup hnames).perm_of_length_le
  rw [Assoc.keys, Assoc.keys, List.length_map, List.length_map, hlength]

theorem forall₂_of_forall₂ {left right : List Value}
    (hitems : ∀ item ∈ items, ∀ {a b : Value}, item.equal a = true → item.equal b = true →
      a.equal b = true)
    (hleft : List.Forall₂ (fun a b => a.equal b = true) items left)
    (hright : List.Forall₂ (fun a b => a.equal b = true) items right) :
    List.Forall₂ (fun a b => a.equal b = true) left right := by
  induction hleft generalizing right with
  | nil =>
    cases hright
    exact .nil
  | cons hfirst _ ih =>
    cases hright with
    | cons hother hothers =>
      obtain ⟨hitem, hrest⟩ := List.forall_mem_cons.1 hitems
      exact .cons (hitem hfirst hother) (ih hrest hothers)

/-- Values that a keyed value equals are equal. -/
theorem Keyed.equal_of_equal {value : Value} (hkeyed : value.Keyed) (ha : value.equal a = true)
    (hb : value.equal b = true) : a.equal b = true := by
  induction hkeyed generalizing a b with
  | scalar hscalar =>
    rw [equal_iff_of_essence hscalar] at ha hb
    exact (equal_iff_of_essence ha).2 hb
  | list hitems ih =>
    obtain ⟨left, rfl, hleft⟩ := list_equal_iff.1 ha
    obtain ⟨right, rfl, hright⟩ := list_equal_iff.1 hb
    exact list_equal_iff.2 ⟨right, rfl, forall₂_of_forall₂ ih hleft hright⟩
  | @record fields hnodup hfields ih =>
    obtain ⟨left, rfl, hleftLength, hleft⟩ := record_equal_iff.1 ha
    obtain ⟨right, rfl, hrightLength, hright⟩ := record_equal_iff.1 hb
    refine record_equal_iff.2 ⟨right, rfl, hleftLength.symm.trans hrightLength, ?_⟩
    have hnames : ∀ name ∈ Assoc.keys fields, name ∈ Assoc.keys left := by
      intro name hname
      obtain ⟨field, hfield, rfl⟩ := List.mem_map.1 hname
      obtain ⟨other, hother, -⟩ := hleft field hfield
      rw [← Assoc.contains_iff_mem_keys, Assoc.contains, hother, Option.isSome_some]
    have hperm := keys_perm hnodup hleftLength hnames
    rintro ⟨name, value⟩ hmem
    obtain ⟨field, hfield, rfl⟩ := List.mem_map.1 (hperm.mem_iff.2 (List.mem_map_of_mem hmem))
    obtain ⟨first, hfirst, hfirstEqual⟩ := hleft field hfield
    obtain ⟨second, hsecond, hsecondEqual⟩ := hright field hfield
    have hvalue : value = first := by
      rw [Assoc.get?_of_mem (hperm.nodup hnodup) hmem] at hfirst
      exact Option.some.inj hfirst
    exact ⟨second, hsecond, ih field hfield (hvalue ▸ hfirstEqual) hsecondEqual⟩

end Value

end DialogGraph

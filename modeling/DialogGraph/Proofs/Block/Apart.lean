import DialogGraph.Proofs.Block.ReadBack
import DialogGraph.Proofs.Result
import Mathlib.Data.List.Pairwise

/-!
# Fields are apart

Setting one field of a block's settings leaves all others as they are, and setting a field to what
it holds changes nothing. Each sort of field is set through a component of the record, so both come
down to components that are different or the same.
-/

namespace DialogGraph

namespace Field

variable {α β : Type}

/-- Whether setting a field never touches another one. -/
def Spares (field other : Field α) : Prop :=
  ∀ value set a, field.set? value = .ok set → other.get (set a) = other.get a

/-- Whether setting a field to what it holds is possible and changes nothing. -/
def Keeps (field : Field α) : Prop :=
  ∀ a, ∃ set, field.set? (field.get a) = .ok set ∧ set a = a

theorem spares_make {name : String} {read : Value → Except Problem β} {write : β → Value}
    {get : α → β} {put : α → β → α} {other : Field α}
    (hother : ∀ a b, other.get (put a b) = other.get a) :
    (make name read write get put).Spares other := by
  intro value set a hset
  obtain ⟨b, -, rfl⟩ := map_eq_ok_iff.1 hset
  exact hother a b

theorem keeps_make {name : String} {read : Value → Except Problem β} {write : β → Value}
    {get : α → β} {put : α → β → α} (hread : ReadsBack read write)
    (hput : ∀ a, put a (get a) = a) : (make name read write get put).Keeps :=
  fun a => ⟨_, set?_get hread get put a, hput a⟩

theorem get?_map_get (fields : List (Field α)) (a : α) (name : String) :
    Assoc.get? (fields.map fun field => (field.name, field.get a)) name =
      (fields.find? fun field => field.name == name).map fun field => field.get a := by
  induction fields with
  | nil => rfl
  | cons field rest ih =>
    by_cases hname : field.name = name
    · simp [Assoc.get?, hname]
    · simp [Assoc.get?, hname, ih]

end Field

/-- Settings whose fields are apart. -/
class Settings.Apart (α : Type) [Settings α] : Prop where
  spares : (Settings.fields : List (Field α)).Pairwise fun field other =>
    field.Spares other ∧ other.Spares field
  keeps : ∀ field ∈ (Settings.fields : List (Field α)), field.Keeps

/-- The fields of the settings of every kind of block are apart. -/
instance (kind : Kind) : Settings.Apart kind.SettingsOf := by
  constructor
  · -- Pair by pair: a component is the same in a record in which another one is replaced.
    cases kind <;>
      repeat' first
        | exact List.Pairwise.nil
        | refine List.Pairwise.cons ?_ ?_
        | exact List.forall_mem_nil _
        | refine List.forall_mem_cons.2 ⟨?_, ?_⟩
        | exact ⟨Field.spares_make fun _ _ => rfl, Field.spares_make fun _ _ => rfl⟩
  · cases kind <;>
      repeat' first
        | exact List.forall_mem_nil _
        | refine List.forall_mem_cons.2 ⟨?_, ?_⟩
        | exact Field.keeps_make Setting.readsBack_text fun _ => rfl
        | exact Field.keeps_make Setting.readsBack_integer fun _ => rfl
        | exact Field.keeps_make Setting.readsBack_real fun _ => rfl
        | exact Field.keeps_make Setting.readsBack_truth fun _ => rfl
        | exact Field.keeps_make Setting.readsBack_option fun _ => rfl
        | exact Field.keeps_make (Setting.readsBack_list Setting.readsBack_text) fun _ => rfl
        | exact Field.keeps_make (Setting.readsBack_list (Settings.readsBack_row _)) fun _ => rfl

namespace Settings

variable {α : Type} [Settings α]

/-- Among the saved fields a name leads to the field of that name. -/
theorem get?_toFields_eq (a : α) (name : String) :
    Assoc.get? (toFields a) name = (field? α name).map fun field => field.get a :=
  Field.get?_map_get fields a name

theorem mem_of_field? {name : String} {field : Field α} (hfield : field? α name = some field) :
    field ∈ (fields : List (Field α)) ∧ field.name = name :=
  ⟨List.mem_of_find?_eq_some hfield, by simpa using List.find?_some hfield⟩

variable [hα : Apart α]

theorem spares_of_ne {field other : Field α} (hfield : field ∈ (fields : List (Field α)))
    (hother : other ∈ (fields : List (Field α))) (hne : field ≠ other) : field.Spares other := by
  have : Std.Symm fun field other : Field α => field.Spares other ∧ other.Spares field :=
    ⟨fun _ _ h => h.symm⟩
  exact (hα.spares.forall hfield hother hne).1

end Settings

namespace Config

variable {config after : Config} {name : String} {value : Value}

theorem set?_eq_some_ok_iff : config.set? name value = some (.ok after) ↔
    ∃ field set, Settings.field? config.kind.SettingsOf name = some field ∧
      field.set? value = .ok set ∧ ⟨config.kind, set config.settings⟩ = after := by
  rw [set?, Option.map_eq_some_iff]
  simp only [Settings.setField, map_eq_ok_iff]
  constructor
  · rintro ⟨field, hfield, settings, ⟨set, hset, rfl⟩, hafter⟩
    exact ⟨field, set, hfield, hset, hafter⟩
  · rintro ⟨field, set, hfield, hset, hafter⟩
    exact ⟨field, hfield, _, ⟨set, hset, rfl⟩, hafter⟩

/-- Setting one field leaves every other one as it is. -/
theorem get?_of_set? (hset : config.set? name value = some (.ok after)) {other : String}
    (hother : other ≠ name) : after.get? other = config.get? other := by
  obtain ⟨field, set, hfield, hvalue, rfl⟩ := set?_eq_some_ok_iff.1 hset
  obtain ⟨hmem, hname⟩ := Settings.mem_of_field? hfield
  rw [get?, toFields, Settings.get?_toFields_eq, get?, toFields, Settings.get?_toFields_eq]
  cases hfound : Settings.field? config.kind.SettingsOf other with
  | none => rfl
  | some found =>
    obtain ⟨hfoundMem, hfoundName⟩ := Settings.mem_of_field? hfound
    have hne : field ≠ found := by
      rintro rfl
      exact hother (hfoundName.symm.trans hname)
    exact congrArg some (Settings.spares_of_ne hmem hfoundMem hne value set _ hvalue)

/-- A field may be set to what it holds, which changes nothing. -/
theorem set?_of_get? (hget : config.get? name = some value) :
    config.set? name value = some (.ok config) := by
  rw [get?, toFields, Settings.get?_toFields_eq, Option.map_eq_some_iff] at hget
  obtain ⟨field, hfield, rfl⟩ := hget
  obtain ⟨set, hset, hsame⟩ :=
    Settings.Apart.keeps field (Settings.mem_of_field? hfield).1 config.settings
  exact set?_eq_some_ok_iff.2 ⟨field, set, hfield, hset, by rw [hsame]⟩

end Config

end DialogGraph

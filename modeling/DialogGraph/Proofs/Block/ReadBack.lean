import DialogGraph.Block.Settings
import Mathlib.Data.List.Basic

/-!
# Settings read back

Settings are saved field by field and read field by field. Each sort of field reads back what it
wrote; from this it follows for every record of settings, hence for those of every kind of block,
that reading the saved fields gives the settings again and turns none of them down.
-/

namespace DialogGraph

/-! ### One field -/

/-- Whether a way of reading undoes a way of writing. -/
def ReadsBack {β : Type} (read : Value → Except Problem β) (write : β → Value) : Prop :=
  ∀ b, read (write b) = .ok b

theorem Setting.readsBack_text : ReadsBack Setting.text .text := fun _ => rfl

theorem Setting.readsBack_integer : ReadsBack Setting.integer .int := fun _ => rfl

theorem Setting.readsBack_real : ReadsBack Setting.real .real := fun _ => rfl

theorem Setting.readsBack_truth : ReadsBack Setting.truth .bool := fun _ => rfl

/-- A type of options that are found by their tags: none is missing and no two have the same. -/
class Tagged.ReadBack (β : Type) [Tagged β] : Prop where
  ofTag?_tag : ∀ b : β, Tagged.ofTag? (Tagged.tag b) = some b

theorem Setting.readsBack_option {β : Type} [Tagged β] [Tagged.ReadBack β] :
    ReadsBack (Setting.option β) fun b => .text (Tagged.tag b) := by
  intro b
  unfold Setting.option
  dsimp only
  rw [Tagged.ReadBack.ofTag?_tag]

instance : Tagged.ReadBack Comparison := ⟨fun b => by cases b <;> rfl⟩

instance : Tagged.ReadBack LoopMode := ⟨fun b => by cases b <;> rfl⟩

instance : Tagged.ReadBack CartAction := ⟨fun b => by cases b <;> rfl⟩

instance : Tagged.ReadBack StoreOperation := ⟨fun b => by cases b <;> rfl⟩

instance : Tagged.ReadBack CatalogSource := ⟨fun b => by cases b <;> rfl⟩

instance : Tagged.ReadBack NotifyTarget := ⟨fun b => by cases b <;> rfl⟩

instance : Tagged.ReadBack FormFieldType := ⟨fun b => by cases b <;> rfl⟩

/-- A list is read back if its items are. -/
theorem Setting.readsBack_list {β : Type} {read : Value → Except Problem β} {write : β → Value}
    (hitem : ReadsBack read write) :
    ReadsBack (Setting.list read) fun bs => .list (bs.map write) := by
  intro bs
  unfold Setting.list
  induction bs with
  | nil => rfl
  | cons b rest ih =>
    dsimp only at ih ⊢
    rw [List.map_cons, List.mapM_cons, hitem b, ih]
    rfl

namespace Field

variable {α β : Type}

/-- Setting a field that reads back to its own value, seen from other settings. -/
theorem set?_get {name : String} {read : Value → Except Problem β} {write : β → Value}
    (hread : ReadsBack read write) (get : α → β) (set : α → β → α) (a : α) :
    (make name read write get set).set? ((make name read write get set).get a) =
      .ok fun other => set other (get a) := by
  simp only [make]
  rw [hread]
  rfl

variable (name : String) (a : α)

@[simp]
theorem set?_get_text (get : α → String) (set : α → String → α) :
    (text name get set).set? ((text name get set).get a) = .ok fun other => set other (get a) :=
  set?_get Setting.readsBack_text get set a

@[simp]
theorem set?_get_integer (get : α → Int) (set : α → Int → α) :
    (integer name get set).set? ((integer name get set).get a) =
      .ok fun other => set other (get a) :=
  set?_get Setting.readsBack_integer get set a

@[simp]
theorem set?_get_real (get : α → Double) (set : α → Double → α) :
    (real name get set).set? ((real name get set).get a) = .ok fun other => set other (get a) :=
  set?_get Setting.readsBack_real get set a

@[simp]
theorem set?_get_truth (get : α → Bool) (set : α → Bool → α) :
    (truth name get set).set? ((truth name get set).get a) = .ok fun other => set other (get a) :=
  set?_get Setting.readsBack_truth get set a

@[simp]
theorem set?_get_texts (get : α → List String) (set : α → List String → α) :
    (texts name get set).set? ((texts name get set).get a) = .ok fun other => set other (get a) :=
  set?_get (Setting.readsBack_list Setting.readsBack_text) get set a

@[simp]
theorem set?_get_option [Tagged β] [Tagged.ReadBack β] (get : α → β) (set : α → β → α) :
    (option β name get set).set? ((option β name get set).get a) =
      .ok fun other => set other (get a) :=
  set?_get Setting.readsBack_option get set a

end Field

/-! ### Records of fields -/

namespace Settings

/-- Settings whose saved fields give them back: no two fields share a name, every field can be read
from what it is saved as, and setting all of them one after the other restores the settings. -/
class ReadBack (α : Type) [Settings α] : Prop where
  nodup_names : ((fields : List (Field α)).map Field.name).Nodup
  reads : ∀ a, ∀ field ∈ (fields : List (Field α)), ∃ set, field.set? (field.get a) = .ok set
  restores : ∀ a, (fields : List (Field α)).foldl (fun other field =>
    match field.set? (field.get a) with
    | .ok set => set other
    | .error _ => other) initial = a

variable {α : Type} [Settings α]

@[simp]
theorem keys_toFields (a : α) : Assoc.keys (toFields a) = (fields : List (Field α)).map Field.name := by
  simp [Assoc.keys, toFields, Function.comp_def]

variable [hα : ReadBack α]

/-- A field is saved under its name. -/
theorem get?_toFields (a : α) {field : Field α}
    (hfield : field ∈ (fields : List (Field α))) :
    Assoc.get? (toFields a) field.name = some (field.get a) := by
  apply Assoc.get?_of_mem
  · rw [keys_toFields]
    exact hα.nodup_names
  · exact List.mem_map_of_mem hfield

/-- Settings read from their own saved fields are the same settings. -/
theorem ofFields_toFields (a : α) : ofFields (toFields a) = a := by
  have hadopt : ∀ other, ∀ field ∈ (fields : List (Field α)),
      adopt (toFields a) other field =
        match field.set? (field.get a) with
        | .ok set => set other
        | .error _ => other := by
    intro other field hfield
    cases hset : field.set? (field.get a) <;> simp only [adopt, get?_toFields a hfield, hset]
  calc ofFields (toFields a)
      = (fields : List (Field α)).foldl (adopt (toFields a)) initial := rfl
    _ = (fields : List (Field α)).foldl (fun other field =>
          match field.set? (field.get a) with
          | .ok set => set other
          | .error _ => other) initial := List.foldl_ext _ _ _ hadopt
    _ = a := hα.restores a

/-- A row of a list is read back if its fields are. -/
theorem readsBack_row (name : String) :
    ReadsBack (Settings.row (α := α) name) fun a => .record (toFields a) := by
  intro a
  have hgood : firstProblem α (toFields a) = none := by
    rw [firstProblem]
    rw [List.findSome?_eq_none_iff]
    intro field hfield
    obtain ⟨set, hset⟩ := hα.reads a field hfield
    rw [get?_toFields a hfield]
    dsimp only
    rw [hset]
  rw [Settings.row, hgood]
  dsimp only
  rw [ofFields_toFields]

end Settings

@[simp]
theorem Field.set?_get_rows {α β : Type} [Settings β] [Settings.ReadBack β] (row name : String)
    (a : α) (get : α → List β) (set : α → List β → α) :
    (Field.rows β row name get set).set? ((Field.rows β row name get set).get a) =
      .ok fun other => set other (get a) :=
  Field.set?_get (Setting.readsBack_list (Settings.readsBack_row row)) get set a

/-! ### The settings of blocks -/

instance : Settings.ReadBack Button :=
  ⟨by decide, by simp [Settings.fields], by simp [Settings.fields]⟩

instance : Settings.ReadBack FormField :=
  ⟨by decide, by simp [Settings.fields], by simp [Settings.fields]⟩

instance : Settings.ReadBack StartSettings :=
  ⟨by decide, by simp [Settings.fields], by simp [Settings.fields]⟩

instance : Settings.ReadBack MessageSettings :=
  ⟨by decide, by simp [Settings.fields], by simp [Settings.fields]⟩

instance : Settings.ReadBack QuestionSettings :=
  ⟨by decide, by simp [Settings.fields], by simp [Settings.fields]⟩

instance : Settings.ReadBack ChoiceSettings :=
  ⟨by decide, by simp [Settings.fields], by simp [Settings.fields]⟩

instance : Settings.ReadBack ConditionSettings :=
  ⟨by decide, by simp [Settings.fields], by simp [Settings.fields]⟩

instance : Settings.ReadBack DelaySettings :=
  ⟨by decide, by simp [Settings.fields], by simp [Settings.fields]⟩

instance : Settings.ReadBack SetVariableSettings :=
  ⟨by decide, by simp [Settings.fields], by simp [Settings.fields]⟩

instance : Settings.ReadBack LoopSettings :=
  ⟨by decide, by simp [Settings.fields], by simp [Settings.fields]⟩

instance : Settings.ReadBack SendImageSettings :=
  ⟨by decide, by simp [Settings.fields], by simp [Settings.fields]⟩

instance : Settings.ReadBack InlineKeyboardSettings :=
  ⟨by decide, by simp [Settings.fields], by simp [Settings.fields]⟩

instance : Settings.ReadBack ComputeSettings :=
  ⟨by decide, by simp [Settings.fields], by simp [Settings.fields]⟩

instance : Settings.ReadBack CartOpSettings :=
  ⟨by decide, by simp [Settings.fields], by simp [Settings.fields]⟩

instance : Settings.ReadBack PaymentSettings :=
  ⟨by decide, by simp [Settings.fields], by simp [Settings.fields]⟩

instance : Settings.ReadBack RecordStoreSettings :=
  ⟨by decide, by simp [Settings.fields], by simp [Settings.fields]⟩

instance : Settings.ReadBack CatalogSettings :=
  ⟨by decide, by simp [Settings.fields], by simp [Settings.fields]⟩

instance : Settings.ReadBack IntakeFormSettings :=
  ⟨by decide, by simp [Settings.fields], by simp [Settings.fields]⟩

instance : Settings.ReadBack NotifySettings :=
  ⟨by decide, by simp [Settings.fields], by simp [Settings.fields]⟩

instance : Settings.ReadBack OrderConfirmSettings :=
  ⟨by decide, by simp [Settings.fields], by simp [Settings.fields]⟩

instance : Settings.ReadBack LlmPromptSettings :=
  ⟨by decide, by simp [Settings.fields], by simp [Settings.fields]⟩

/-- The settings of every kind of block are read back. -/
instance (kind : Kind) : Settings.ReadBack kind.SettingsOf :=
  match kind with
  | .start => inferInstanceAs (Settings.ReadBack StartSettings)
  | .message => inferInstanceAs (Settings.ReadBack MessageSettings)
  | .question => inferInstanceAs (Settings.ReadBack QuestionSettings)
  | .choice => inferInstanceAs (Settings.ReadBack ChoiceSettings)
  | .condition => inferInstanceAs (Settings.ReadBack ConditionSettings)
  | .delay => inferInstanceAs (Settings.ReadBack DelaySettings)
  | .setVariable => inferInstanceAs (Settings.ReadBack SetVariableSettings)
  | .loop => inferInstanceAs (Settings.ReadBack LoopSettings)
  | .sendImage => inferInstanceAs (Settings.ReadBack SendImageSettings)
  | .inlineKeyboard => inferInstanceAs (Settings.ReadBack InlineKeyboardSettings)
  | .compute => inferInstanceAs (Settings.ReadBack ComputeSettings)
  | .cartOp => inferInstanceAs (Settings.ReadBack CartOpSettings)
  | .payment => inferInstanceAs (Settings.ReadBack PaymentSettings)
  | .recordStore => inferInstanceAs (Settings.ReadBack RecordStoreSettings)
  | .catalog => inferInstanceAs (Settings.ReadBack CatalogSettings)
  | .intakeForm => inferInstanceAs (Settings.ReadBack IntakeFormSettings)
  | .notify => inferInstanceAs (Settings.ReadBack NotifySettings)
  | .orderConfirm => inferInstanceAs (Settings.ReadBack OrderConfirmSettings)
  | .llmPrompt => inferInstanceAs (Settings.ReadBack LlmPromptSettings)

namespace Config

/-- Settings read from their own saved fields are the same settings. -/
theorem ofFields_toFields (config : Config) : ofFields config.kind config.toFields = config := by
  rw [ofFields, toFields, Settings.ofFields_toFields]

end Config

end DialogGraph

import DialogGraph.Proofs.Block.ReadBack
import DialogGraph.Proofs.Value.Equality

/-!
# Settings are keyed

What settings are saved as is keyed: a field holds a scalar, a list of texts, or rows with fields of
their own, and no two fields share a name.
-/

namespace DialogGraph

open Value

theorem Field.keyed_texts {α : Type} (name : String) (a : α) (get : α → List String)
    (set : α → List String → α) : ((texts name get set).get a).Keyed := by
  apply Keyed.list
  intro item hitem
  obtain ⟨s, -, rfl⟩ := List.mem_map.1 hitem
  exact .scalar rfl

/-- Settings whose fields are all saved as keyed values. -/
class Settings.AllKeyed (α : Type) [Settings α] : Prop where
  keyed_get : ∀ a, ∀ field ∈ (Settings.fields : List (Field α)), (field.get a).Keyed

theorem Settings.keyed_toFields {α : Type} [Settings α] [ReadBack α] [hα : AllKeyed α] (a : α) :
    (record (toFields a)).Keyed := by
  apply Keyed.record
  · rw [keys_toFields]
    exact ReadBack.nodup_names
  · intro saved hsaved
    obtain ⟨field, hfield, rfl⟩ := List.mem_map.1 hsaved
    exact hα.keyed_get a field hfield

theorem Field.keyed_rows {α β : Type} [Settings β] [Settings.ReadBack β] [Settings.AllKeyed β]
    (row name : String) (a : α) (get : α → List β) (set : α → List β → α) :
    ((rows β row name get set).get a).Keyed := by
  apply Keyed.list
  intro item hitem
  obtain ⟨b, -, rfl⟩ := List.mem_map.1 hitem
  exact Settings.keyed_toFields b

instance : Settings.AllKeyed Button :=
  ⟨fun _ => List.forall_iff_forall_mem.1 ⟨.scalar rfl, .scalar rfl⟩⟩

instance : Settings.AllKeyed FormField :=
  ⟨fun _ => List.forall_iff_forall_mem.1 ⟨.scalar rfl, .scalar rfl⟩⟩

/-- The settings of every kind of block are keyed. -/
instance (kind : Kind) : Settings.AllKeyed kind.SettingsOf := by
  constructor
  -- Field by field: nearly all of them hold scalars.
  cases kind <;> intro a <;> refine List.forall_iff_forall_mem.1 ?_ <;>
    repeat' first
      | exact Keyed.scalar rfl
      | exact Field.keyed_texts ..
      | exact Field.keyed_rows ..
      | refine ⟨?_, ?_⟩

theorem Config.keyed_toFields (config : Config) : (record config.toFields).Keyed :=
  Settings.keyed_toFields config.settings

end DialogGraph

import Mathlib.Data.List.Forall2

/-!
# Results and faults

When a computation that may fail succeeds, and when it fails.
-/

namespace DialogGraph

variable {ε ε' α β : Type} {first : Except ε α}

theorem bind_eq_ok_iff {rest : α → Except ε β} {result : β} :
    (first >>= rest) = .ok result ↔ ∃ a, first = .ok a ∧ rest a = .ok result := by
  cases first with
  | error fault => simp [bind, Except.bind]
  | ok a => simp [bind, Except.bind]

theorem bind_eq_error_iff {rest : α → Except ε β} {fault : ε} :
    (first >>= rest) = .error fault ↔
      first = .error fault ∨ ∃ a, first = .ok a ∧ rest a = .error fault := by
  cases first with
  | error => simp [bind, Except.bind]
  | ok a => simp [bind, Except.bind]

/-- A bind whose second step always succeeds fails where the first one does. -/
theorem bind_pure_eq_error_iff {f : α → β} {fault : ε} :
    (do let a ← first; return f a) = .error fault ↔ first = .error fault := by
  cases first <;> simp [bind, Except.bind, pure, Except.pure]

theorem map_eq_ok_iff {f : α → β} {b : β} :
    first.map f = .ok b ↔ ∃ a, first = .ok a ∧ f a = b := by
  cases first <;> simp [Except.map]

theorem toOption_eq_some_iff {a : α} : first.toOption = some a ↔ first = .ok a := by
  cases first <;> simp [Except.toOption]

theorem mapError_eq_ok_iff {f : ε → ε'} {a : α} : first.mapError f = .ok a ↔ first = .ok a := by
  cases first with
  | error fault => exact ⟨nofun, nofun⟩
  | ok b =>
    constructor <;>
    · intro hok
      cases hok
      rfl

/-- A row of checks succeeds when each of them does. -/
theorem forM_eq_ok_iff {check : α → Except ε Unit} {items : List α} :
    items.forM check = .ok () ↔ ∀ a ∈ items, check a = .ok () := by
  induction items with
  | nil => simp [pure, Except.pure]
  | cons a rest ih =>
    change (check a >>= fun _ => rest.forM check) = .ok () ↔ _
    cases hfirst : check a with
    | error fault => simp [hfirst, bind, Except.bind]
    | ok done => simpa [hfirst, bind, Except.bind] using ih

/-- A list is mapped when each of its items is. -/
theorem mapM_eq_ok_iff {f : α → Except ε β} {items : List α} {results : List β} :
    items.mapM f = .ok results ↔ List.Forall₂ (fun a b => f a = .ok b) items results := by
  induction items generalizing results with
  | nil => simp [pure, Except.pure, eq_comm]
  | cons a rest ih =>
    rw [List.mapM_cons, bind_eq_ok_iff, List.forall₂_cons_left_iff]
    simp only [bind_eq_ok_iff, ih]
    constructor
    · rintro ⟨b, hfirst, others, hrest, hresults⟩
      cases hresults
      exact ⟨b, others, hfirst, hrest, rfl⟩
    · rintro ⟨b, others, hfirst, hrest, rfl⟩
      exact ⟨b, hfirst, others, hrest, rfl⟩

/-- What a list is mapped to comes from its items. -/
theorem exists_of_mem_mapM {f : α → Except ε β} {items : List α} {results : List β}
    (hresults : items.mapM f = .ok results) {b : β} (hb : b ∈ results) :
    ∃ a ∈ items, f a = .ok b := by
  induction mapM_eq_ok_iff.1 hresults with
  | nil => cases hb
  | @cons a first rest results hfirst hrest ih =>
    rcases List.mem_cons.1 hb with rfl | hb
    · exact ⟨a, List.mem_cons_self, hfirst⟩
    · obtain ⟨item, hitem, hread⟩ := ih (mapM_eq_ok_iff.2 hrest) hb
      exact ⟨item, List.mem_cons_of_mem _ hitem, hread⟩

/-- A list whose items can each be mapped can be mapped. -/
theorem exists_mapM_eq_ok {f : α → Except ε β} {items : List α}
    (hitems : ∀ a ∈ items, ∃ b, f a = .ok b) : ∃ results, items.mapM f = .ok results := by
  induction items with
  | nil => exact ⟨[], rfl⟩
  | cons a rest ih =>
    obtain ⟨⟨b, hfirst⟩, hrest⟩ := List.forall_mem_cons.1 hitems
    obtain ⟨others, hothers⟩ := ih hrest
    exact ⟨b :: others, mapM_eq_ok_iff.2 (.cons hfirst (mapM_eq_ok_iff.1 hothers))⟩

end DialogGraph

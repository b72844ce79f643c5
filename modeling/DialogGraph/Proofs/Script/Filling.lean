import DialogGraph.Proofs.Script.Passing

/-!
# Filling in a template

A template that is put together from characters and slots, with a value bound to the name in each
slot, becomes the same characters with the texts of the values in between.
-/

namespace DialogGraph.Template

variable {bindings : Fields} {cs filled : List Char}

/-- A row of characters and slots, and what it becomes when the slots are filled in. -/
inductive Supplied (bindings : Fields) : List Char → List Char → Prop
  | nil : Supplied bindings [] []
  | plain {cs filled : List Char} (c : Char) (hopen : c ≠ '\x7b') (hclose : c ≠ '\x7d')
      (hrest : Supplied bindings cs filled) : Supplied bindings (c :: cs) (c :: filled)
  | slot {cs filled : List Char} (name : List Char) {value : Value} (shown : String)
      (hname : name ≠ [])
      (hplain : ∀ c ∈ name, c ≠ '\x7b' ∧ c ≠ '\x7d')
      (hvalue : Assoc.get? bindings (String.ofList name) = some value)
      (hshown : value.display = .ok shown) (hrest : Supplied bindings cs filled) :
      Supplied bindings ('\x7b' :: (name ++ '\x7d' :: cs)) (shown.toList ++ filled)

/-- What a row is supplied with is what it becomes in one pass. -/
theorem Supplied.replaced (hsupplied : Supplied bindings cs filled) :
    Replaced bindings cs filled := by
  induction hsupplied with
  | nil => exact .nil
  | plain c hopen _ _ ih =>
    refine .kept c (fun name after _ htext => ?_) ih
    exact absurd (List.cons_eq_cons.1 htext).1 hopen
  | @slot cs _ name value shown hname hplain hvalue hshown _ ih =>
    have hslot := Replaced.slot name ⟨hname, hplain⟩ hvalue hshown ih
    have htext : slotText name ++ cs = '\x7b' :: (name ++ '\x7d' :: cs) := by simp [slotText]
    rwa [htext] at hslot

/-- A template becomes what it is supplied with. -/
theorem fill_of_supplied (hsupplied : Supplied bindings cs filled) :
    fill (String.ofList cs) bindings = .ok (String.ofList filled) := by
  rw [fill_eq, String.toList_ofList, fillPieces_of_replaced hsupplied.replaced]
  rfl

end DialogGraph.Template

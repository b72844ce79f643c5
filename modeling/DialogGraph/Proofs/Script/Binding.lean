import DialogGraph.Proofs.Result
import DialogGraph.Proofs.Value.Equality
import DialogGraph.Script.Loop

/-!
# Bound variables

A variable is bound under any value that can be a key. Two names are the same when they are equal as
values, so `1` and `true` name one variable; what is bound under other names stays as it is.
-/

namespace DialogGraph

namespace Value

variable {a b : Value} {essence : Essence}

/-- What equals a scalar is a scalar that stands for the same. -/
theorem equal_scalar_iff (hb : b.essence? = some essence) :
    a.equal b = true ↔ a.essence? = some essence := by
  cases ha : a.essence? with
  | some found =>
    rw [equal_iff_of_essence ha, hb, eq_comm]
  | none =>
    refine iff_of_false (fun hequal => ?_) nofun
    cases a with
    | list items =>
      obtain ⟨others, rfl, -⟩ := list_equal_iff.1 hequal
      cases hb
    | record fields =>
      obtain ⟨others, rfl, -⟩ := record_equal_iff.1 hequal
      cases hb
    | _ => cases ha

/-- The values that can be keys are the scalars. -/
theorem keyFault?_eq_none_iff {name : Value} :
    name.keyFault? = none ↔ ∃ essence, name.essence? = some essence := by
  cases name <;> simp [keyFault?, essence?]

theorem text_equal_text_iff {s t : String} : (text s).equal (text t) = true ↔ s = t := by
  rw [equal_iff_of_essence rfl]
  simp [essence?, eq_comm]

end Value

namespace Loop

namespace Scope

variable {name other value : Value} {essence : Essence} {entries : List (Value × Value)}
  {scope after : Scope}

theorem find?_bindOther (hname : name.essence? = some essence) :
    ((bindOther name value entries).find? fun entry => entry.1.equal name).map Prod.snd =
      some value := by
  induction entries with
  | nil => simp [bindOther, (Value.equal_iff_of_essence hname).2 hname]
  | cons entry rest ih =>
    by_cases hentry : entry.1.equal name = true
    · simp [bindOther, hentry]
    · simpa [bindOther, hentry] using ih

theorem find?_bindOther_of_ne (hname : name.essence? = some essence)
    (hother : other.equal name = false) :
    ((bindOther name value entries).find? fun entry => entry.1.equal other).map Prod.snd =
      (entries.find? fun entry => entry.1.equal other).map Prod.snd := by
  -- what equals both names would make them equal
  have hapart : ∀ key : Value, key.equal name = true → key.equal other = false := by
    intro key hkey
    rw [Value.equal_scalar_iff hname] at hkey
    rw [← Bool.not_eq_true, Value.equal_iff_of_essence hkey, ← Value.equal_scalar_iff hname,
      hother]
    exact Bool.false_ne_true
  have hself : name.equal other = false :=
    hapart name ((Value.equal_iff_of_essence hname).2 hname)
  induction entries with
  | nil => simp [bindOther, hself]
  | cons entry rest ih =>
    by_cases hentry : entry.1.equal name = true
    · simp [bindOther, hentry, hapart _ hentry]
    · by_cases hfound : entry.1.equal other = true
      · simp [bindOther, hentry, hfound]
      · simpa [bindOther, hentry, hfound] using ih

/-- The variables after a name was bound: it has the value, every other name has what it had. An
empty name binds nothing. -/
structure Binds (name value : Value) (before after : Scope) : Prop where
  empty : name.isTruthy = false → after = before
  bound : name.isTruthy = true → after.get? name = .ok (some value)
  others : ∀ other, other.equal name = false → after.get? other = before.get? other

theorem get?_of_other (hname : name.keyFault? = none) (htext : name.isText = false) :
    scope.get? name = .ok ((scope.others.find? fun entry => entry.1.equal name).map Prod.snd) := by
  cases name with
  | list | record => cases hname
  | text s => cases htext
  | _ => rfl

theorem exists_get? (hname : name.keyFault? = none) : ∃ found, scope.get? name = .ok found := by
  cases name with
  | list | record => cases hname
  | _ => exact ⟨_, rfl⟩

theorem bind_of_other (hname : name.keyFault? = none) (htext : name.isText = false)
    (htruthy : name.isTruthy = true) :
    scope.bind name value = .ok { scope with others := bindOther name value scope.others } := by
  cases name with
  | list | record => cases hname
  | text s => cases htext
  | _ => simp [bind, htruthy, Value.keyFault?]

theorem binds_text (s : String) (hempty : (Value.text s).isTruthy = true) :
    Binds (.text s) value scope
      { scope with bindings := Assoc.insert scope.bindings s value } where
  empty hfalse := absurd (hempty.symm.trans hfalse) nofun
  bound _ := by simp [get?, Value.keyFault?, Assoc.get?_insert]
  others other hother := by
    cases other with
    | text t =>
      have hne : s ≠ t := by
        rintro rfl
        rw [Value.text_equal_text_iff.2 rfl] at hother
        cases hother
      simp [get?, Value.keyFault?, Assoc.get?_insert, hne]
    | _ => rfl

theorem binds_bindOther (hname : name.keyFault? = none) (htext : name.isText = false)
    (htruthy : name.isTruthy = true) :
    Binds name value scope { scope with others := bindOther name value scope.others } := by
  obtain ⟨essence, hessence⟩ := Value.keyFault?_eq_none_iff.1 hname
  refine ⟨fun hfalse => absurd (htruthy.symm.trans hfalse) nofun, fun _ => ?_, ?_⟩
  · rw [get?_of_other hname htext, find?_bindOther hessence]
  · intro other hother
    cases other with
    | list | record | text => rfl
    | _ =>
      rw [get?_of_other rfl rfl, get?_of_other rfl rfl, find?_bindOther_of_ne hessence hother]

/-- A name that can be a key is bound, and nothing else changes. -/
theorem bind_spec (hname : name.keyFault? = none) (value : Value) (scope : Scope) :
    ∃ after, scope.bind name value = .ok after ∧ Binds name value scope after := by
  cases htruthy : name.isTruthy with
  | false =>
    refine ⟨scope, by simp [bind, htruthy], fun _ => rfl, fun htrue => ?_, fun _ _ => rfl⟩
    exact absurd (htruthy.symm.trans htrue) nofun
  | true =>
    cases htext : name.isText with
    | false => exact ⟨_, bind_of_other hname htext htruthy, binds_bindOther hname htext htruthy⟩
    | true =>
      cases name with
      | text s => exact ⟨_, by simp [bind, htruthy, Value.keyFault?], binds_text s htruthy⟩
      | _ => cases htext

end Scope

end Loop

end DialogGraph

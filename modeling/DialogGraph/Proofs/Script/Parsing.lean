import DialogGraph.Proofs.Json.Nesting
import DialogGraph.Proofs.Literal.Spelling
import DialogGraph.Proofs.Text.Rows

/-!
# Reading a catalog

Whatever a text holds, the products read from it have a name. A text that is malformed has none. Two
sorts of text are refused all the same: rows behind a bare carriage return or with a field that is
too long, and JSON that is nested too deeply.
-/

namespace DialogGraph

open DialogGraph.Number DialogGraph.Text

/-! ### Names -/

/-- A value that counts as present is not shown as the empty text. -/
theorem Value.display_ne_empty {value : Value} (htruthy : value.isTruthy = true) {shown : String}
    (hshown : value.display = .ok shown) : shown ≠ "" := by
  have hnumber {found : Value} : Literal.number? "".toList ≠ some found := nofun
  have hopened (first : Char) (rest : String) : String.ofList [first] ++ rest ≠ "" := by
    intro hempty
    simpa using congrArg String.toList hempty
  cases value with
  | null => cases htruthy
  | bool b =>
    cases b
    · cases htruthy
    · cases hshown
      decide
  | int n =>
    obtain ⟨hshort, rfl⟩ := Literal.integerText_eq_ok hshown
    intro hempty
    exact hnumber (hempty ▸ Literal.number?_intText hshort)
  | real x =>
    cases hshown
    intro hempty
    by_cases hfinite : x.value.isFinite = true
    · obtain ⟨d, hdecode⟩ := isFinite_iff.1 hfinite
      exact hnumber (hempty ▸ Literal.number?_realText hdecode)
    · have hname := Literal.realText_mem_names hfinite
      rw [hempty] at hname
      simp at hname
  | text s =>
    cases hshown
    rintro rfl
    cases htruthy
  | list items =>
    obtain ⟨parts, -, hshown⟩ := bind_eq_ok_iff.1 hshown
    cases hshown
    rw [String.append_assoc]
    exact hopened '[' _
  | record fields =>
    obtain ⟨parts, -, hshown⟩ := bind_eq_ok_iff.1 hshown
    cases hshown
    rw [String.append_assoc]
    exact hopened '\x7b' _

namespace Catalog

variable {source : Option CatalogSource} {s : String} {depth : Nat} {products : List Product}
  {product : Product}

theorem name_ne_empty_of_ofRow? {row : List String} (hrow : ofRow? row = some product) :
    product.name ≠ "" := by
  unfold ofRow? at hrow
  split at hrow
  next => cases hrow
  next first rest =>
    dsimp only at hrow
    split at hrow
    next => cases hrow
    next hname =>
      cases hrow
      simpa using hname

theorem name_ne_empty_of_ofRecord? {value : Value}
    (hproduct : ofRecord? value = .ok (some product)) : product.name ≠ "" := by
  unfold ofRecord? at hproduct
  split at hproduct
  next fields =>
    split at hproduct
    next name hname =>
      split at hproduct
      next htruthy =>
        obtain ⟨shown, hshown, hproduct⟩ := bind_eq_ok_iff.1 hproduct
        obtain ⟨description, -, hproduct⟩ := bind_eq_ok_iff.1 hproduct
        cases hproduct
        exact Value.display_ne_empty htruthy hshown
      next => cases hproduct
    next => cases hproduct
  next => cases hproduct

/-! ### Texts -/

/-- Products that all have a name. -/
def Named (products : List Product) : Prop := ∀ product ∈ products, product.name ≠ ""

theorem named_of_ofRows (hrows : ofRows s = .ok products) : Named products := by
  unfold ofRows at hrows
  split at hrows
  next rows =>
    cases hrows
    intro product hmem
    obtain ⟨row, -, hrow⟩ := List.mem_filterMap.1 hmem
    exact name_ne_empty_of_ofRow? hrow
  next => cases hrows

theorem ofRecord?_of_legible {value : Value} (hvalue : value.Legible) :
    ∃ found, ofRecord? value = .ok found := by
  unfold ofRecord?
  split
  next fields =>
    split
    next name hname =>
      split
      next =>
        obtain ⟨shown, hshown⟩ := (hvalue.of_get? hname).display
        have hdescription : ((Assoc.get? fields "description").getD (.text "")).Legible := by
          cases hfound : Assoc.get? fields "description" with
          | none => exact .text ""
          | some description => exact hvalue.of_get? hfound
        obtain ⟨description, hdescription⟩ := hdescription.display
        exact ⟨_, by rw [hshown, hdescription]; rfl⟩
      next => exact ⟨none, rfl⟩
    next => exact ⟨none, rfl⟩
  next => exact ⟨none, rfl⟩

/-- What a JSON text has for products when it is read: they all have a name. -/
theorem ofJson_of_parse {value : Value} (hparse : Json.parse s depth = .ok value) :
    ∃ products, ofJson s depth = .ok products ∧ Named products := by
  have hrecords := records_legible (Json.parse_legible hparse)
  obtain ⟨found, hfound⟩ := exists_mapM_eq_ok fun item hitem =>
    ofRecord?_of_legible (hrecords item hitem)
  refine ⟨found.filterMap id, by simp only [ofJson, hparse, hfound], ?_⟩
  intro product hmem
  obtain ⟨_, hsome, rfl⟩ := List.mem_filterMap.1 hmem
  obtain ⟨item, -, hitem⟩ := exists_of_mem_mapM hfound hsome
  exact name_ne_empty_of_ofRecord? hitem

/-- What comes of a text. It is read, its products have a name, and there are none if it is
malformed JSON; or it is refused, on account of its carriage returns, its length or its depth. -/
theorem read_cases (depth : Nat) (source : Option CatalogSource) (text : Option String) :
    (∃ products, read source (text.getD "") depth = .ok products ∧
      (∀ product ∈ products, Assoc.keys product.toFields = ["name", "price", "description"] ∧
        ∃ name, Assoc.get? product.toFields "name" = some (.text name) ∧ name ≠ "") ∧
      (source ≠ some .csv → (∃ fault, Json.parse (trim (text.getD "")) depth = .error fault) →
        products = [])) ∨
    (source = some .csv ∧ ∃ fault, read source (text.getD "") depth = .error (.rows fault) ∧
      (fault = .bareReturn ∧ Csv.BareReturn (trim (text.getD "")).toList ∨
        fault = .oversizedField ∧ Csv.fieldLimit < (trim (text.getD "")).toList.length)) ∨
    (source ≠ some .csv ∧
      ∃ container, read source (text.getD "") depth = .error (.tooDeep container) ∧
        depth < (trim (text.getD "")).toList.countP Json.isOpening) := by
  have hnamed {products : List Product} (hnamed : Named products) : ∀ product ∈ products,
      Assoc.keys product.toFields = ["name", "price", "description"] ∧
        ∃ name, Assoc.get? product.toFields "name" = some (.text name) ∧ name ≠ "" :=
    fun product hmem => ⟨rfl, product.name, rfl, hnamed product hmem⟩
  generalize htrim : trim (text.getD "") = trimmed
  rw [read, htrim]
  by_cases hempty : trimmed.isEmpty = true
  · rw [if_pos hempty]
    exact .inl ⟨[], rfl, nofun, fun _ _ => rfl⟩
  rw [if_neg hempty]
  by_cases hsource : source = some .csv
  · rw [if_pos hsource]
    cases hrows : Csv.rows trimmed with
    | ok rows =>
      have hread : ofRows trimmed = .ok ((rows.drop 1).filterMap ofRow?) := by
        simp only [ofRows, hrows]
      exact .inl ⟨_, hread, hnamed (named_of_ofRows hread), fun hother => absurd hsource hother⟩
    | error fault =>
      have hread : ofRows trimmed = .error (.rows fault) := by simp only [ofRows, hrows]
      exact .inr (.inl ⟨hsource, fault, hread, Csv.rows_eq_error hrows⟩)
  · rw [if_neg hsource]
    cases hparse : Json.parse trimmed depth with
    | ok value =>
      obtain ⟨products, hread, hproducts⟩ := ofJson_of_parse hparse
      exact .inl ⟨products, hread, hnamed hproducts, fun _ ⟨_, hfault⟩ => nomatch hfault⟩
    | error fault =>
      cases fault with
      | tooDeep container =>
        have hread : ofJson trimmed depth = .error (.tooDeep container) := by
          simp only [ofJson, hparse]
        exact .inr (.inr ⟨hsource, container, hread, Json.parse_tooDeep hparse⟩)
      | malformed | oversized =>
        have hread : ofJson trimmed depth = .ok [] := by simp only [ofJson, hparse]
        exact .inl ⟨[], hread, nofun, fun _ _ => rfl⟩

/-- A carriage return between a header and a row. -/
theorem read_bareReturn :
    read (some .csv) "name\rTea" = .error (.rows .bareReturn) := by
  rfl

end Catalog

end DialogGraph

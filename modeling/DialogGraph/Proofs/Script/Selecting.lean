import DialogGraph.Proofs.Json.Nesting
import DialogGraph.Proofs.Number.Largest

/-!
# Choosing a product

A tag chooses the product at the place that it names, and the tag shown with a product chooses that
one. A product that is chosen is bound to four variables. Its price stands in the way only if it is
an integer beyond the range of doubles, as a JSON text may hold it: then its name has been bound
already.
-/

namespace DialogGraph.Catalog

open DialogGraph.Number DialogGraph.Text

/-! ### Tags -/

section Tags

variable {α : Type} {items : List α} {tag : String} {i : Nat} {a : α}

theorem chosen?_eq_some_iff :
    chosen? items tag = some (i, a) ↔ tagIndex tag = i ∧ items[i]? = some a := by
  rw [chosen?]
  constructor
  · intro hchosen
    split at hchosen
    next => cases hchosen
    next hnonneg =>
      obtain ⟨b, hb, hsame⟩ := Option.map_eq_some_iff.1 hchosen
      obtain ⟨rfl, rfl⟩ := Prod.mk.inj hsame
      exact ⟨(Int.toNat_of_nonneg (Int.not_lt.1 hnonneg)).symm, hb⟩
  · rintro ⟨hindex, ha⟩
    simp [hindex, ha]

theorem tagIndex_productTag (hi : i ≤ 2 ^ 53) : tagIndex (productTag i) = i := by
  have hrest : (productTag i).toList.drop productTagStart.length = (natText i).toList := by
    rw [productTag, String.toList_append, ← String.length_toList, List.drop_left]
  rw [tagIndex, hrest, String.ofList_toList, Value.wholeOr_natText hi]

/-- The tag that is shown with an item chooses it. -/
theorem chosen?_productTag (hi : i ≤ 2 ^ 53) (ha : items[i]? = some a) :
    chosen? items (productTag i) = some (i, a) :=
  chosen?_eq_some_iff.2 ⟨tagIndex_productTag hi, ha⟩

end Tags

/-! ### Prices -/

/-- A price that no double comes near to. -/
def Unpayable (price : Value) : Prop := ∃ n : Int, price = .int n ∧ realLimit ≤ n.natAbs

theorem realOr_eq_error_iff {price : Value} {default : Float} :
    price.realOr default = .error .tooLarge ↔ Unpayable price := by
  cases price with
  | int n =>
    have hlimit := ofInt?_eq_none_iff (n := n)
    rw [Value.realOr, Value.asReal?]
    cases hreal : ofInt? n with
    | none => simp [Unpayable, Except.map, hlimit.1 hreal]
    | some x => simp [Unpayable, Except.map, ← hlimit, hreal]
  | _ => simp [Value.realOr, Value.asReal?, Unpayable, Except.map]

instance (price : Value) : Decidable (Unpayable price) :=
  match price with
  | .int n =>
    decidable_of_iff (realLimit ≤ n.natAbs)
      ⟨fun hlimit => ⟨n, rfl, hlimit⟩, fun ⟨_, hn, hlimit⟩ => Value.int.inj hn ▸ hlimit⟩
  | .null => isFalse nofun
  | .bool _ => isFalse nofun
  | .real _ => isFalse nofun
  | .text _ => isFalse nofun
  | .list _ => isFalse nofun
  | .record _ => isFalse nofun

/-! ### Bindings -/

/-- The variables after a product was bound with its place and its price as a double; no other
variable has changed. -/
structure Bound (i : Nat) (product : Product) (price : Float) (before after : Fields) : Prop where
  name : Assoc.get? after "product_name" = some (.text product.name)
  price : Assoc.get? after "product_price" = some (.real price)
  description : Assoc.get? after "product_description" = some (.text product.description)
  number : Assoc.get? after "selected_product_number" = some (.int (i + 1))
  others : ∀ name, name ∉ ["product_name", "product_price", "product_description",
    "selected_product_number"] → Assoc.get? after name = Assoc.get? before name

section Bind

variable (i : Nat) {product : Product} (bindings : Fields)

theorem priceOf_toFields (product : Product) :
    priceOf product.toFields = (product.price.realOr 0).mapError .range := rfl

theorem bind_of_payable {price : Float} (hprice : product.price.realOr 0 = .ok price) :
    ∃ after, bind i product.toFields bindings = (after, .ok ()) ∧
      Bound i product price bindings after := by
  have hbind : bind i product.toFields bindings =
      (Assoc.insert (Assoc.insert (Assoc.insert (Assoc.insert bindings
        "product_name" (.text product.name)) "product_price" (.real price))
        "product_description" (.text product.description))
        "selected_product_number" (.int (i + 1)), .ok ()) := by
    have hpriceOf := priceOf_toFields product
    rw [hprice] at hpriceOf
    have hname : fieldOf product.toFields "name" = .ok (.text product.name) := rfl
    have hdescription : fieldOf product.toFields "description" =
        .ok (.text product.description) := rfl
    simp only [bind, hname, hpriceOf, Except.mapError, hdescription]
  refine ⟨_, hbind, by simp [Assoc.get?_insert], by simp [Assoc.get?_insert],
    by simp [Assoc.get?_insert], by simp [Assoc.get?_insert], fun name hname => ?_⟩
  simp only [List.mem_cons, List.not_mem_nil, or_false, not_or] at hname
  obtain ⟨hfirst, hsecond, hthird, hlast⟩ := hname
  simp [Assoc.get?_insert, Ne.symm hfirst, Ne.symm hsecond, Ne.symm hthird, Ne.symm hlast]

theorem bind_of_unpayable (hprice : Unpayable product.price) :
    bind i product.toFields bindings =
      (Assoc.insert bindings "product_name" (.text product.name), .error (.range .tooLarge)) := by
  have hpriceOf := priceOf_toFields product
  rw [realOr_eq_error_iff.2 hprice] at hpriceOf
  have hname : fieldOf product.toFields "name" = .ok (.text product.name) := rfl
  simp only [bind, hname, hpriceOf, Except.mapError]

end Bind

/-! ### Products that were read -/

section Read

variable {source : Option CatalogSource} {s : String} {depth : Nat} {products : List Product}
  {tag : String}
  {bindings : Fields} {i : Nat} {product : Product}

theorem not_unpayable_of_ofRow? {row : List String} (hrow : ofRow? row = some product) :
    ¬Unpayable product.price := by
  unfold ofRow? at hrow
  split at hrow
  next => cases hrow
  next =>
    dsimp only at hrow
    split at hrow
    · cases hrow
    · cases hrow
      rintro ⟨n, hprice, -⟩
      cases hprice

/-- The price of a row is always a text. -/
theorem source_ne_csv_of_unpayable (hread : read source s depth = .ok products)
    (hproduct : product ∈ products) (hprice : Unpayable product.price) : source ≠ some .csv := by
  rintro rfl
  unfold read at hread
  dsimp only at hread
  split_ifs at hread
  · cases hread
    cases hproduct
  · unfold ofRows at hread
    split at hread
    next =>
      cases hread
      obtain ⟨row, -, hrow⟩ := List.mem_filterMap.1 hproduct
      exact not_unpayable_of_ofRow? hrow hprice
    next => cases hread
  next hcsv => exact hcsv rfl

theorem chosen?_map_eq_none_iff {α β : Type} {items : List α} {f : α → β} :
    chosen? (items.map f) tag = none ↔ chosen? items tag = none := by
  simp only [chosen?, List.getElem?_map]
  split <;> simp

theorem select_of_none (hchosen : chosen? products tag = none) :
    select products tag bindings = (bindings, .ok false) := by
  delta select selectRecord
  rw [chosen?_map_eq_none_iff.2 hchosen]

theorem chosen?_toFields (hchosen : chosen? products tag = some (i, product)) :
    chosen? (products.map Product.toFields) tag = some (i, product.toFields) := by
  obtain ⟨hindex, hproduct⟩ := chosen?_eq_some_iff.1 hchosen
  exact chosen?_eq_some_iff.2 ⟨hindex, by rw [List.getElem?_map, hproduct, Option.map_some]⟩

/-- A product that is chosen is bound. -/
theorem select_of_chosen (hchosen : chosen? products tag = some (i, product)) :
    select products tag bindings =
      ((bind i product.toFields bindings).1,
        (bind i product.toFields bindings).2.map fun _ => true) := by
  delta select selectRecord
  rw [chosen?_toFields hchosen]
  dsimp only
  rcases bind i product.toFields bindings with ⟨after, fault | ⟨⟩⟩ <;> rfl

/-- Choosing among the products of a catalog. A tag without a product changes nothing, and a product
that is chosen is bound as a whole, unless its price is an integer beyond the range of doubles. -/
theorem select_of_read (hread : read source s depth = .ok products) (tag : String)
    (bindings : Fields) :
    (chosen? products tag = none ∧ select products tag bindings = (bindings, .ok false) ∨
      ∃ i product, chosen? products tag = some (i, product) ∧ products[i]? = some product ∧
        ((∃ price after, product.price.realOr 0 = .ok price ∧
            select products tag bindings = (after, .ok true) ∧
              Bound i product price bindings after) ∨
          Unpayable product.price ∧ source ≠ some .csv ∧
            select products tag bindings =
              (Assoc.insert bindings "product_name" (.text product.name),
                .error (.range .tooLarge)))) ∧
      ∀ i product, i < 2 ^ 53 → products[i]? = some product →
        chosen? products (productTag i) = some (i, product) := by
  refine ⟨?_, fun i product hi => chosen?_productTag hi.le⟩
  cases hchosen : chosen? products tag with
  | none => exact .inl ⟨rfl, select_of_none hchosen⟩
  | some found =>
    obtain ⟨i, product⟩ := found
    have hproduct := (chosen?_eq_some_iff.1 hchosen).2
    refine .inr ⟨i, product, rfl, hproduct, ?_⟩
    cases hprice : product.price.realOr 0 with
    | ok price =>
      obtain ⟨after, hbind, hbound⟩ := bind_of_payable i bindings hprice
      exact .inl ⟨price, after, rfl, by rw [select_of_chosen hchosen, hbind]; rfl, hbound⟩
    | error fault =>
      cases fault
      have hunpayable := realOr_eq_error_iff.1 hprice
      have hmem := List.mem_of_getElem? hproduct
      refine .inr ⟨hunpayable, source_ne_csv_of_unpayable hread hmem hunpayable, ?_⟩
      rw [select_of_chosen hchosen, bind_of_unpayable i bindings hunpayable]
      rfl

theorem select_of_read_tea :
    read (some .csv) "name,price\nTea,3" = .ok [⟨"Tea", .text "3", ""⟩] ∧
      ∃ price after, select [⟨"Tea", .text "3", ""⟩] "catalog_product_0" [] = (after, .ok true) ∧
        Bound 0 ⟨"Tea", .text "3", ""⟩ price [] after := by
  have hread : read (some .csv) "name,price\nTea,3" = .ok [⟨"Tea", .text "3", ""⟩] := rfl
  obtain ⟨hselect, htag⟩ := select_of_read hread (productTag 0) []
  have htea := htag 0 _ (by decide) rfl
  refine ⟨hread, ?_⟩
  rcases hselect with ⟨hnone, -⟩ | ⟨i, product, hchosen, -, hbound⟩
  · cases hnone.symm.trans htea
  · cases hchosen.symm.trans htea
    rcases hbound with ⟨price, after, -, hselect, hbound⟩ | ⟨-, hsource, -⟩
    · exact ⟨price, after, hselect, hbound⟩
    · exact absurd rfl hsource

/-- The products of a JSON text without outer blanks. -/
theorem read_json_of_run {cs : List Char} {value : Value} {found : List (Option Product)}
    (hne : cs ≠ []) (htrim : trimWith isBlank cs = cs)
    (hmark : cs.head? ≠ some (Char.ofNat 0xFEFF))
    (hrun : Json.run depth cs.length [] .value (Json.tokensFrom 0 [] cs) = .ok value)
    (hfound : (records value).mapM ofRecord? = .ok found) :
    read (some .json) (String.ofList cs) depth = .ok (found.filterMap id) := by
  have hsome : (String.ofList cs).isEmpty = false := by simpa using hne
  have hcsv : some CatalogSource.json ≠ some .csv := nofun
  rw [read, trim, String.toList_ofList, htrim, hsome, if_neg Bool.false_ne_true, if_neg hcsv,
    ofJson, Json.parse_ofList hmark hrun]
  simp only [hfound]

/-- A catalog of one product, at a price of 310 digits. -/
def dearCatalog : List Char :=
  "[\x7b\"name\":\"A\",\"price\":1".toList ++ List.replicate 309 '0' ++ "\x7d]".toList

theorem read_dearCatalog :
    ∃ product, read (some .json) (String.ofList dearCatalog) = .ok [product] ∧
      product.name = "A" ∧ Unpayable product.price := by
  have hall : (do
      let value ← (Json.run Json.usualDepth dearCatalog.length [] .value
        (Json.tokensFrom 0 [] dearCatalog)).toOption
      let found ← ((records value).mapM ofRecord?).toOption
      return (found.filterMap id).map fun product =>
        (product.name, decide (Unpayable product.price))) = some [("A", true)] := by
    decide +kernel
  have hkept : dearCatalog ≠ [] ∧ trimWith isBlank dearCatalog = dearCatalog ∧
      dearCatalog.head? ≠ some (Char.ofNat 0xFEFF) := by decide +kernel
  obtain ⟨value, hrun, hall⟩ := Option.bind_eq_some_iff.1 hall
  obtain ⟨found, hfound, hall⟩ := Option.bind_eq_some_iff.1 hall
  obtain ⟨product, hproducts, hproduct⟩ := List.map_eq_singleton_iff.1 (Option.some.inj hall)
  obtain ⟨hname, hprice⟩ := Prod.mk.inj hproduct
  have hread := read_json_of_run hkept.1 hkept.2.1 hkept.2.2 (toOption_eq_some_iff.1 hrun)
    (toOption_eq_some_iff.1 hfound)
  rw [hproducts] at hread
  exact ⟨product, hread, hname, of_decide_eq_true hprice⟩

/-- A product may be bound in part: its price comes behind its name. -/
theorem select_dearCatalog :
    ∃ products, read (some .json) (String.ofList dearCatalog) = .ok products ∧
      select products "catalog_product_0" [] =
        ([("product_name", .text "A")], .error (.range .tooLarge)) := by
  obtain ⟨product, hread, hname, hprice⟩ := read_dearCatalog
  have hchosen : chosen? [product] (productTag 0) = some (0, product) :=
    chosen?_productTag (Nat.zero_le _) rfl
  refine ⟨[product], hread, ?_⟩
  rw [show "catalog_product_0" = productTag 0 from rfl, select_of_chosen hchosen,
    bind_of_unpayable 0 [] hprice, hname]
  rfl

end Read

end DialogGraph.Catalog

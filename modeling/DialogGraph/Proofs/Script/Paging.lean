import DialogGraph.Proofs.Number.Integers
import DialogGraph.Script.Catalog
import Mathlib.Algebra.Order.Floor.Semiring

/-!
# Pages of a catalog

The pages are windows onto the numbered products, one behind the other and each of the same size.
Together they show every product once, whichever page a value asks for is one of them, and none of
them is empty unless there is no product at all.
-/

namespace DialogGraph.Catalog

variable {α : Type} {products : List α}

/-! ### The range of pages -/

/-- The number of pages is the number of products divided by eight, rounded up. -/
theorem pageCount_eq_ceil (size : Nat) : pageCount size = max 1 ⌈(size : ℚ) / 8⌉₊ := by
  rw [pageCount, pageSize]
  congr 1
  apply le_antisymm
  · apply Nat.le_of_lt_succ
    have hceil : (size : ℚ) ≤ ⌈(size : ℚ) / 8⌉₊ * 8 := by
      rw [← div_le_iff₀ (by norm_num)]
      exact Nat.le_ceil _
    have hsize : size ≤ ⌈(size : ℚ) / 8⌉₊ * 8 := by exact_mod_cast hceil
    omega
  · have hsize : size ≤ (size + 8 - 1) / 8 * 8 := by omega
    rw [Nat.ceil_le, div_le_iff₀ (by norm_num)]
    exact_mod_cast hsize

theorem pageNumber_lt (size : Nat) (value : Value) :
    pageNumber (pageCount size) value < pageCount size := by
  have hpos : 0 < pageCount size := by
    rw [pageCount]
    omega
  rw [pageNumber]
  omega

/-- An integer asks for the page of its number, or for the page that comes nearest to it. -/
theorem pageNumber_int (pages : Nat) {page : Int} (hpage : page.natAbs ≤ 2 ^ 53) :
    pageNumber pages (.int page) = min page.toNat (pages - 1) := by
  rw [pageNumber, Value.wholeOr_int hpage]
  omega

theorem pageCount_le {size : Nat} (hsize : size < 2 ^ 53) : pageCount size ≤ 2 ^ 53 := by
  rw [pageCount, pageSize]
  omega

/-! ### Windows -/

theorem numberedFrom_eq (start : Nat) (items : List α) :
    numberedFrom start items = (items.zipIdx start).map Prod.swap := by
  induction items generalizing start with
  | nil => rfl
  | cons a rest ih => rw [numberedFrom, ih, List.zipIdx_cons, List.map_cons, Prod.swap_prod_mk]

/-- The products with their places in the catalog. -/
def numbered (products : List α) : List (Nat × α) := products.zipIdx.map Prod.swap

theorem getElem?_numbered (products : List α) (i : Nat) :
    (numbered products)[i]? = products[i]?.map fun a => (i, a) := by
  simp [numbered, Function.comp_def]

/-- A page is a window onto the numbered products. -/
theorem pageItems_eq (products : List α) (page : Nat) :
    pageItems products page = ((numbered products).drop (page * pageSize)).take pageSize := by
  apply List.ext_getElem?
  intro i
  rw [pageItems, numberedFrom_eq, List.getElem?_map, List.getElem?_zipIdx, List.getElem?_take,
    List.getElem?_take, List.getElem?_drop, List.getElem?_drop, getElem?_numbered]
  split
  · cases products[page * pageSize + i]? <;> simp
  · rfl

/-- A product is on the page that its place falls on, and on no other. -/
theorem mem_pageItems_iff {page i : Nat} {a : α} :
    (i, a) ∈ pageItems products page ↔ products[i]? = some a ∧ i / pageSize = page := by
  rw [pageItems_eq, List.mem_iff_getElem?]
  simp only [List.getElem?_take, List.getElem?_drop, getElem?_numbered, pageSize]
  constructor
  · rintro ⟨place, hplace⟩
    split at hplace
    next hless =>
      obtain ⟨b, hb, hsame⟩ := Option.map_eq_some_iff.1 hplace
      cases hsame
      exact ⟨hb, by omega⟩
    next => cases hplace
  · rintro ⟨hi, hpage⟩
    refine ⟨i % 8, ?_⟩
    have hplace : page * 8 + i % 8 = i := by omega
    rw [if_pos (Nat.mod_lt i (by decide)), hplace, hi]
    rfl

/-- Windows one behind the other show the list up to the end of the last. -/
theorem flatMap_windows (items : List α) (size count : Nat) :
    (List.range count).flatMap (fun k => (items.drop (k * size)).take size) =
      items.take (count * size) := by
  induction count with
  | zero => simp
  | succ count ih =>
    rw [List.range_succ, List.flatMap_append, ih, List.flatMap_singleton, Nat.succ_mul,
      List.take_add]

theorem length_le_pages (size : Nat) : size ≤ pageCount size * pageSize := by
  rw [pageCount, pageSize]
  omega

/-- What the pages of a list of products show. -/
structure Paged (products : List α) : Prop where
  count : pageCount products.length = max 1 ⌈(products.length : ℚ) / 8⌉₊
  /-- Every value asks for a page in the range. -/
  range : ∀ value : Value,
    pageNumber (pageCount products.length) value < pageCount products.length
  /-- All the pages in their order show all the products in their order, with their places. -/
  whole : (List.range (pageCount products.length)).flatMap (fun page : Nat =>
      pageItems products (pageNumber (pageCount products.length) (.int page))) =
    products.zipIdx.map Prod.swap
  full : products ≠ [] → ∀ value : Value,
    pageItems products (pageNumber (pageCount products.length) value) ≠ []

theorem paged (hlength : products.length < 2 ^ 53) : Paged products := by
  refine ⟨pageCount_eq_ceil _, pageNumber_lt _, ?_, ?_⟩
  · have hpages : ∀ page ∈ List.range (pageCount products.length),
        pageItems products (pageNumber (pageCount products.length) (.int page)) =
          ((numbered products).drop (page * pageSize)).take pageSize := by
      intro page hpage
      have hless := List.mem_range.1 hpage
      have hpages := pageCount_le hlength
      rw [pageNumber_int _ (by omega), Int.toNat_natCast, min_eq_left (by omega), pageItems_eq]
    rw [List.flatMap_congr hpages, flatMap_windows, List.take_of_length_le]
    · rfl
    · rw [numbered, List.length_map, List.length_zipIdx]
      exact length_le_pages _
  · intro hsome value
    have hpage := pageNumber_lt products.length value
    have hfirst : pageNumber (pageCount products.length) value * pageSize < products.length := by
      have hpos := List.length_pos_iff.2 hsome
      rw [pageCount, pageSize] at *
      omega
    refine List.ne_nil_of_mem (mem_pageItems_iff.2 ⟨List.getElem?_eq_getElem hfirst, ?_⟩)
    exact Nat.mul_div_cancel _ (by decide)

end DialogGraph.Catalog

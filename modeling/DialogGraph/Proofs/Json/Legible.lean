import DialogGraph.Json.Parser
import DialogGraph.Proofs.Number.Shortest
import DialogGraph.Proofs.Script.Overlong
import DialogGraph.Script.Catalog
import Mathlib.Data.List.Induction

/-!
# JSON values have a text

An integer beyond the digit limit is refused where it stands in a JSON text. So every value that is
read from one can be shown, and with it every price of a catalog.
-/

namespace DialogGraph

open DialogGraph.Number DialogGraph.Text

/-- A value in which every integer is within the digit limit. -/
def Value.Legible (value : Value) : Prop := ¬value.Overlong

namespace Value.Legible

theorem null : Value.null.Legible := by
  intro hlong
  cases hlong

theorem bool (b : Bool) : (Value.bool b).Legible := by
  intro hlong
  cases hlong

theorem real (x : Double) : (Value.real x).Legible := by
  intro hlong
  cases hlong

theorem text (s : String) : (Value.text s).Legible := by
  intro hlong
  cases hlong

theorem int_iff {n : Int} : (Value.int n).Legible ↔ n.natAbs < 10 ^ digitLimit := by
  constructor
  · exact fun hlegible => Nat.lt_of_not_le fun hlong => hlegible (.int hlong)
  · intro hshort hlong
    cases hlong with
    | int hlong => exact absurd hlong (Nat.not_le.2 hshort)

theorem list {items : List Value} (hitems : ∀ value ∈ items, value.Legible) :
    (Value.list items).Legible := by
  intro hlong
  cases hlong with
  | item hmem hlong => exact hitems _ hmem hlong

theorem record {fields : Fields} (hfields : ∀ name value, (name, value) ∈ fields → value.Legible) :
    (Value.record fields).Legible := by
  intro hlong
  cases hlong with
  | field hmem hlong => exact hfields _ _ hmem hlong

theorem of_mem {items : List Value} (hlist : (Value.list items).Legible) {value : Value}
    (hmem : value ∈ items) : value.Legible :=
  fun hlong => hlist (.item hmem hlong)

theorem of_get? {fields : Fields} (hrecord : (Value.record fields).Legible) {name : String}
    {value : Value} (hfound : Assoc.get? fields name = some value) : value.Legible :=
  fun hlong => hrecord (.field (Assoc.mem_of_get? hfound) hlong)

theorem display {value : Value} (hvalue : value.Legible) : ∃ shown, value.display = .ok shown := by
  cases hshown : value.display with
  | ok shown => exact ⟨shown, rfl⟩
  | error fault =>
    cases fault
    exact absurd ((Value.display_eq_error_iff value).1 hshown) hvalue

end Value.Legible

/-! ### Numbers -/

theorem Number.digitsValue_lt {ds : List Nat} (hds : ∀ d ∈ ds, d < 10) :
    digitsValue ds < 10 ^ ds.length := by
  induction ds using List.reverseRecOn with
  | nil => decide
  | append_singleton ds d ih =>
    have hlast : digitsValue [d] = d := by simp [digitsValue]
    have hinit := ih fun e he => hds e (List.mem_append_left _ he)
    have hd := hds d (List.mem_append_right _ List.mem_cons_self)
    rw [digitsValue_append, hlast, List.length_append, List.length_singleton, pow_one, pow_succ]
    omega

namespace Json

theorem isDigit_of_mem_scanWhole {cs : List Char} : ∀ c ∈ scanWhole cs, c.isDigit = true := by
  intro c hc
  match cs with
  | [] => cases hc
  | first :: rest =>
    rw [scanWhole] at hc
    split at hc
    next hzero =>
      obtain rfl := List.mem_singleton.1 hc
      rw [beq_iff_eq.1 hzero]
      decide
    next =>
      split at hc
      next hdigit =>
        rcases List.mem_cons.1 hc with rfl | hrest
        · exact hdigit
        · exact List.mem_takeWhile_imp hrest
      next => cases hc

/-- An integral number of at most the limit of digits is within the digit limit. -/
theorem scanWhole_lt {cs : List Char} (hshort : (scanWhole cs).length ≤ digitLimit) :
    digitsValue ((scanWhole cs).map fun c => c.toNat - 48) < 10 ^ digitLimit := by
  have hvalue : digitsValue ((scanWhole cs).map fun c => c.toNat - 48) <
      10 ^ ((scanWhole cs).map fun c => c.toNat - 48).length := by
    apply digitsValue_lt
    intro d hd
    obtain ⟨c, hc, rfl⟩ := List.mem_map.1 hd
    have := toNat_bounds_of_isDigit (isDigit_of_mem_scanWhole c hc)
    omega
  rw [List.length_map] at hvalue
  exact lt_of_lt_of_le hvalue (Nat.pow_le_pow_right (by decide) hshort)

/-! ### Tokens -/

/-- A token that is a value is one that has a text. -/
def Token.Legible : Token → Prop
  | .scalar value => value.Legible
  | _ => True

theorem natAbs_signed (negative : Bool) (n : Nat) : (signed negative n).natAbs = n := by
  cases negative <;> simp [signed]

theorem scanNumber_legible (cs : List Char) : (scanNumber cs).1.Legible := by
  unfold scanNumber
  split
  next signs negative cs hsign =>
    extract_lets whole fraction points exponent values
    split_ifs with hnone hwhole hlong
    · trivial
    · trivial
    · change (Value.int _).Legible
      rw [Value.Legible.int_iff, natAbs_signed]
      exact scanWhole_lt (Nat.not_lt.1 hlong)
    · exact Value.Legible.real _

theorem legible_of_mem_words : ∀ word ∈ words, word.2.Legible := by
  simp only [words, List.forall_mem_cons]
  exact ⟨.null, .bool _, .bool _, .real _, .real _, .real _, List.forall_mem_nil _⟩

theorem scanToken_legible (position : Nat) (c : Char) (rest : List Char) :
    (scanToken position c rest).1.Legible := by
  unfold scanToken
  iterate 6 split; trivial
  split
  · split
    next s behind _ => exact Value.Legible.text s
    next => trivial
  · split
    next word value hfound => exact legible_of_mem_words _ (List.mem_of_find?_eq_some hfound)
    next => exact scanNumber_legible _

/-- All the values among the tokens of a text have a text. -/
theorem tokensFrom_legible {position : Nat} {done : List Located} {cs : List Char}
    (hdone : ∀ here ∈ done, here.token.Legible) :
    ∀ here ∈ tokensFrom position done cs, here.token.Legible := by
  -- what was cut is reversed at the end and gets a last token that is no value, if any
  have hstop (position : Nat) (token : Token) (htoken : token.Legible) {done : List Located}
      (hdone : ∀ here ∈ done, here.token.Legible) :
      ∀ here ∈ (⟨position, token⟩ :: done).reverse, here.token.Legible := by
    intro here hmem
    rcases List.mem_cons.1 (List.mem_reverse.1 hmem) with rfl | hmem
    · exact htoken
    · exact hdone here hmem
  fun_induction tokensFrom position done cs with
  | case1 position done => exact fun here hmem => hdone here (List.mem_reverse.1 hmem)
  | case2 position done c rest hspace ih => exact ih hdone
  | case3 position done c rest hspace taken problem place =>
    exact hstop position (.faulty problem place) trivial hdone
  | case4 position done c rest hspace taken digits =>
    exact hstop position (.oversized digits) trivial hdone
  | case5 position => exact hstop position .stray trivial hdone
  | case6 position done c rest hspace taken token _ _ _ hscan ih =>
    apply ih
    have htoken := scanToken_legible position c rest
    rw [hscan] at htoken
    exact List.forall_mem_cons.2 ⟨htoken, hdone⟩

/-! ### Bindings -/

theorem mem_of_mem_insert {α : Type} {entries : List (String × α)} {key : String} {a : α}
    {entry : String × α} (hmem : entry ∈ Assoc.insert entries key a) :
    entry ∈ entries ∨ entry = (key, a) := by
  induction entries with
  | nil => exact .inr (List.mem_singleton.1 hmem)
  | cons first rest ih =>
    rw [Assoc.insert] at hmem
    split at hmem
    next hsame =>
      rcases List.mem_cons.1 hmem with rfl | hrest
      · exact .inr (Prod.ext hsame rfl)
      · exact .inl (List.mem_cons_of_mem _ hrest)
    next =>
      rcases List.mem_cons.1 hmem with rfl | hrest
      · exact .inl List.mem_cons_self
      · exact (ih hrest).imp_left (List.mem_cons_of_mem _)

/-- Bindings that are collected hold no other values than the bindings. -/
theorem mem_of_mem_ofList {α : Type} {bindings : List (String × α)} {entry : String × α}
    (hmem : entry ∈ Assoc.ofList bindings) : entry ∈ bindings := by
  suffices hfrom : ∀ entries : List (String × α),
      entry ∈ bindings.foldl (fun entries binding => Assoc.insert entries binding.1 binding.2)
        entries → entry ∈ entries ∨ entry ∈ bindings from (hfrom [] hmem).resolve_left nofun
  clear hmem
  induction bindings with
  | nil => exact fun entries hmem => .inl hmem
  | cons binding rest ih =>
    intro entries hmem
    rcases ih _ hmem with hinserted | hrest
    · rcases mem_of_mem_insert hinserted with hentries | rfl
      · exact .inl hentries
      · exact .inr List.mem_cons_self
    · exact .inr (List.mem_cons_of_mem _ hrest)

/-! ### Values read -/

/-- What an open container holds so far has a text. -/
def Frame.Legible : Frame → Prop
  | .array items => (Value.list items).Legible
  | .object fields _ => (Value.record fields).Legible

/-- All that was read so far has a text. -/
structure Reading (stack : List Frame) (expected : Expected) : Prop where
  frames : ∀ frame ∈ stack, frame.Legible
  complete : ∀ value, expected = .nothing value → value.Legible

theorem deliver_reading {value : Value} (hvalue : value.Legible) {stack : List Frame}
    (hstack : ∀ frame ∈ stack, frame.Legible) :
    Reading (deliver value stack).1 (deliver value stack).2 := by
  match stack with
  | [] =>
    refine ⟨nofun, fun other hother => ?_⟩
    cases hother
    exact hvalue
  | .array items :: outer =>
    obtain ⟨hitems, houter⟩ := List.forall_mem_cons.1 hstack
    refine ⟨List.forall_mem_cons.2 ⟨?_, houter⟩, nofun⟩
    exact .list (List.forall_mem_cons.2 ⟨hvalue, fun _ => hitems.of_mem⟩)
  | .object fields name :: outer =>
    obtain ⟨hfields, houter⟩ := List.forall_mem_cons.1 hstack
    refine ⟨List.forall_mem_cons.2 ⟨.record fun other found hmem => ?_, houter⟩, nofun⟩
    rcases List.mem_cons.1 hmem with hsame | hmem
    · cases hsame
      exact hvalue
    · exact fun hlong => hfields (.field hmem hlong)

theorem close?_legible {container : Container} {stack outer : List Frame} {value : Value}
    (hclose : close? container stack = some (value, outer))
    (hstack : ∀ frame ∈ stack, frame.Legible) :
    value.Legible ∧ ∀ frame ∈ outer, frame.Legible := by
  unfold close? at hclose
  split at hclose
  next items outer =>
    cases hclose
    obtain ⟨hitems, houter⟩ := List.forall_mem_cons.1 hstack
    exact ⟨.list fun value hmem => Value.Legible.of_mem hitems (List.mem_reverse.1 hmem), houter⟩
  next fields name outer =>
    cases hclose
    obtain ⟨hfields, houter⟩ := List.forall_mem_cons.1 hstack
    refine ⟨.record fun name value hmem hlong => ?_, houter⟩
    exact hfields (.field (List.mem_reverse.1 (mem_of_mem_ofList hmem)) hlong)
  next => cases hclose

theorem endContainer_reading {stack after : List Frame} {expected : Expected} {here : Located}
    {container : Container} {problem : Problem}
    (hend : endContainer stack here container problem = .ok (after, expected))
    (hstack : ∀ frame ∈ stack, frame.Legible) : Reading after expected := by
  rw [endContainer] at hend
  split at hend
  next value outer hclose =>
    obtain ⟨hvalue, houter⟩ := close?_legible hclose hstack
    have hreading := deliver_reading hvalue houter
    rwa [Except.ok.inj hend] at hreading
  next => cases hend

theorem beginValue_reading {depth : Nat} {stack after : List Frame} {expected : Expected}
    {here : Located} {problem : Problem}
    (hbegin : beginValue depth stack here problem = .ok (after, expected))
    (hstack : ∀ frame ∈ stack, frame.Legible) (hhere : here.token.Legible) :
    Reading after expected := by
  unfold beginValue at hbegin
  split at hbegin
  next value htoken =>
    rw [htoken] at hhere
    have hreading := deliver_reading hhere hstack
    rwa [Except.ok.inj hbegin] at hreading
  next =>
    split at hbegin
    · cases hbegin
    · cases hbegin
      exact ⟨List.forall_mem_cons.2 ⟨.list nofun, hstack⟩, nofun⟩
  next =>
    split at hbegin
    · cases hbegin
    · cases hbegin
      exact ⟨List.forall_mem_cons.2 ⟨.record nofun, hstack⟩, nofun⟩
  all_goals cases hbegin

theorem beginName_reading {stack after : List Frame} {expected : Expected} {here : Located}
    (hbegin : beginName stack here = .ok (after, expected))
    (hstack : ∀ frame ∈ stack, frame.Legible) : Reading after expected := by
  unfold beginName at hbegin
  split at hbegin
  next =>
    cases hbegin
    obtain ⟨hfields, houter⟩ := List.forall_mem_cons.1 hstack
    exact ⟨List.forall_mem_cons.2 ⟨hfields, houter⟩, nofun⟩
  all_goals cases hbegin

/-- One token keeps what was read so far legible. -/
theorem step_reading {depth : Nat} {stack after : List Frame} {expected next : Expected}
    {here : Located} (hstep : step depth stack expected here = .ok (after, next))
    (hreading : Reading stack expected) (hhere : here.token.Legible) : Reading after next := by
  have hstack := hreading.frames
  unfold step at hstep
  split at hstep
  · exact endContainer_reading hstep hstack
  · exact beginValue_reading hstep hstack hhere
  · exact beginValue_reading hstep hstack hhere
  · exact endContainer_reading hstep hstack
  · exact beginName_reading hstep hstack
  · exact beginName_reading hstep hstack
  · cases hstep
    exact ⟨hstack, nofun⟩
  · cases hstep
    refine ⟨hstack, fun value hvalue => ?_⟩
    unfold afterComma at hvalue
    split at hvalue <;> cases hvalue
  · exact endContainer_reading hstep hstack
  · cases hstep

theorem run_legible {depth finish : Nat} {stack : List Frame} {expected : Expected}
    {tokens : List Located} {value : Value}
    (hrun : run depth finish stack expected tokens = .ok value)
    (hreading : Reading stack expected) (htokens : ∀ here ∈ tokens, here.token.Legible) :
    value.Legible := by
  induction tokens generalizing stack expected with
  | nil =>
    unfold run at hrun
    split at hrun
    next =>
      cases hrun
      exact hreading.complete value rfl
    next => cases hrun
  | cons here rest ih =>
    obtain ⟨hhere, hrest⟩ := List.forall_mem_cons.1 htokens
    rw [run] at hrun
    split at hrun
    next hstep => exact ih hrun (step_reading hstep hreading hhere) hrest
    next => cases hrun

/-- Every value that is read from a JSON text has a text. -/
theorem parse_legible {s : String} {depth : Nat} {value : Value}
    (hparse : parse s depth = .ok value) :
    value.Legible := by
  rw [parse] at hparse
  split at hparse
  · cases hparse
  · split at hparse
    next hrun =>
      cases hparse
      exact run_legible hrun ⟨nofun, nofun⟩ (tokensFrom_legible nofun)
    all_goals cases hparse

end Json

/-! ### Catalogs -/

namespace Catalog

variable {source : Option CatalogSource} {s : String} {depth : Nat} {products : List Product}

theorem legible_of_ofRow? {row : List String} {product : Product}
    (hrow : ofRow? row = some product) : product.price.Legible := by
  unfold ofRow? at hrow
  split at hrow
  next => cases hrow
  next =>
    dsimp only at hrow
    split at hrow
    · cases hrow
    · cases hrow
      exact .text _

theorem legible_of_ofRecord? {value : Value} (hvalue : value.Legible) {product : Product}
    (hproduct : ofRecord? value = .ok (some product)) : product.price.Legible := by
  unfold ofRecord? at hproduct
  split at hproduct
  next fields =>
    split at hproduct
    next name hname =>
      split at hproduct
      next =>
        obtain ⟨shown, -, hproduct⟩ := bind_eq_ok_iff.1 hproduct
        obtain ⟨description, -, hproduct⟩ := bind_eq_ok_iff.1 hproduct
        cases hproduct
        cases hprice : Assoc.get? fields "price" with
        | none => exact Value.Legible.int_iff.2 (Nat.pow_pos (by decide))
        | some price => exact hvalue.of_get? hprice
      next => cases hproduct
    next => cases hproduct
  next => cases hproduct

theorem records_legible {value : Value} (hvalue : value.Legible) :
    ∀ item ∈ records value, item.Legible := by
  unfold records
  split
  next => exact fun item => hvalue.of_mem
  next fields =>
    split
    next hfound => exact fun item => (hvalue.of_get? hfound).of_mem
    next => exact nofun
  next => exact nofun

theorem legible_of_ofRows (hrows : ofRows s = .ok products) :
    ∀ product ∈ products, product.price.Legible := by
  unfold ofRows at hrows
  split at hrows
  next rows =>
    cases hrows
    intro product hmem
    obtain ⟨row, -, hrow⟩ := List.mem_filterMap.1 hmem
    exact legible_of_ofRow? hrow
  next => cases hrows

theorem legible_of_ofJson (hjson : ofJson s depth = .ok products) :
    ∀ product ∈ products, product.price.Legible := by
  unfold ofJson at hjson
  split at hjson
  next value hparse =>
    split at hjson
    next found hfound =>
      cases hjson
      intro product hmem
      obtain ⟨_, hsome, rfl⟩ := List.mem_filterMap.1 hmem
      obtain ⟨item, hitem, hproduct⟩ := exists_of_mem_mapM hfound hsome
      exact legible_of_ofRecord? (records_legible (Json.parse_legible hparse) item hitem) hproduct
    next => cases hjson
  next => cases hjson
  next =>
    cases hjson
    exact fun product hmem => absurd hmem List.not_mem_nil

/-- The price of every product can be shown. -/
theorem legible_of_read (hread : read source s depth = .ok products) :
    ∀ product ∈ products, product.price.Legible := by
  unfold read at hread
  dsimp only at hread
  split_ifs at hread
  · cases hread
    exact fun product hmem => absurd hmem List.not_mem_nil
  · exact legible_of_ofRows hread
  · exact legible_of_ofJson hread

end Catalog

end DialogGraph

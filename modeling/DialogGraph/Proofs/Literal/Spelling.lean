import DialogGraph.Program.Spread
import DialogGraph.Proofs.Literal.Scanning
import DialogGraph.Proofs.Result
import DialogGraph.Proofs.Script.Overlong
import DialogGraph.Proofs.Value.Equality

/-!
# What literals stand for

The literal of a value is read as that value, be it written on one line or spread over several. Only
doubles that are infinite or no number have no literal: what is written for them is a name.

What a literal stands for does not depend on what comes behind it, so that the literals of lists and
records are read item by item.
-/

namespace DialogGraph

open DialogGraph.Number DialogGraph.Text

/-- All of the results, when each of them is there. -/
theorem mapM_guarded {α β : Type} (p : α → Bool) (f : α → β) (items : List α) :
    (items.mapM fun a => if p a then some (f a) else none) =
      if items.all p then some (items.map f) else none := by
  induction items with
  | nil => rfl
  | cons a rest ih =>
    rw [List.mapM_cons, ih]
    cases hfirst : p a <;> cases hrest : rest.all p <;> simp [hfirst, hrest]

namespace Value

mutual

/-- Whether all doubles in a value are finite. -/
def allFinite : Value → Bool
  | real x => x.value.isFinite
  | list items => allFiniteItems items
  | record fields => allFiniteFields fields
  | _ => true

def allFiniteItems : List Value → Bool
  | [] => true
  | item :: rest => allFinite item && allFiniteItems rest

def allFiniteFields : Fields → Bool
  | [] => true
  | (_, value) :: rest => allFinite value && allFiniteFields rest

end

mutual

/-- A value whose doubles are new ones. -/
def unmarked : Value → Value
  | real x => real ⟨x.value, .fresh⟩
  | list items => list (unmarkedItems items)
  | record fields => record (unmarkedFields fields)
  | value => value

def unmarkedItems : List Value → List Value
  | [] => []
  | item :: rest => unmarked item :: unmarkedItems rest

def unmarkedFields : Fields → Fields
  | [] => []
  | (name, value) :: rest => (name, unmarked value) :: unmarkedFields rest

end

@[simp]
theorem allFinite_list (items : List Value) : (list items).allFinite = items.all allFinite := by
  rw [allFinite]
  induction items with
  | nil => rfl
  | cons item rest ih => rw [allFiniteItems, List.all_cons, ih]

@[simp]
theorem allFinite_record (fields : Fields) :
    (record fields).allFinite = fields.all fun field => field.2.allFinite := by
  rw [allFinite]
  induction fields with
  | nil => rfl
  | cons field rest ih => rw [allFiniteFields, List.all_cons, ih]

@[simp]
theorem unmarked_list (items : List Value) :
    (list items).unmarked = list (items.map unmarked) := by
  rw [unmarked]
  induction items with
  | nil => rfl
  | cons item rest ih => rw [unmarkedItems, List.map_cons, list.inj ih]

@[simp]
theorem unmarked_record (fields : Fields) :
    (record fields).unmarked =
      record (fields.map fun field => (field.1, field.2.unmarked)) := by
  rw [unmarked]
  induction fields with
  | nil => rfl
  | cons field rest ih => rw [unmarkedFields, List.map_cons, record.inj ih]

/-- What the literal of a value stands for. A double that is not finite has none, and where doubles
come from is not written. -/
def literal? (value : Value) : Option Value :=
  if value.allFinite then some value.unmarked else none

def literalField? (field : String × Value) : Option (String × Value) :=
  field.2.literal?.map fun value => (field.1, value)

theorem literal?_list (items : List Value) :
    (list items).literal? = (items.mapM literal?).map list := by
  have hitems : items.mapM literal? =
      if items.all allFinite then some (items.map unmarked) else none :=
    mapM_guarded allFinite unmarked items
  rw [hitems, literal?, allFinite_list, unmarked_list]
  split_ifs <;> rfl

theorem literal?_record (fields : Fields) :
    (record fields).literal? = (fields.mapM literalField?).map record := by
  have hfields : fields.mapM literalField? =
      if fields.all fun field => field.2.allFinite then
        some (fields.map fun field => (field.1, field.2.unmarked)) else none := by
    rw [← mapM_guarded]
    congr 1
    funext field
    rw [literalField?, literal?]
    split_ifs <;> rfl
  rw [hfields, literal?, allFinite_record, unmarked_record]
  split_ifs <;> rfl

end Value

namespace Literal

variable {frames : List Frame} {cs : List Char} {n : Nat}

/-! ### Numbers -/

/-- No zero comes first but that of the number zero. -/
theorem eq_zero_of_head?_digitsOf (hhead : (digitsOf n).head? = some 0) : n = 0 := by
  induction n using Nat.strongRecOn with
  | ind n ih =>
    rw [digitsOf, toList_natText] at hhead
    rcases Nat.lt_or_ge n 10 with hlt | hge
    · have hdigit : ∀ m < 10, (Nat.digitChar m).toNat - 48 = m := by decide
      rw [Nat.toDigits_of_lt_base hlt] at hhead
      exact (hdigit n hlt).symm.trans (Option.some.inj hhead)
    · rw [Nat.toDigits_of_base_le (by decide) hge, List.map_append,
        List.head?_append_of_ne_nil _ (by simp [Nat.toDigits_ne_nil]), ← toList_natText] at hhead
      have := ih (n / 10) (by omega) hhead
      omega

theorem isInteger_digitsOf (hn : n < 10 ^ digitLimit) : isInteger (digitsOf n) = true := by
  have hlength : (digitsOf n).length ≤ digitLimit := by
    rw [digitsOf, List.length_map, toList_natText]
    exact (Nat.length_toDigits_le_iff (by decide) (by decide)).2 hn
  have hzero : (digitsOf n).head? = some 0 → (digitsOf n).all (· == 0) = true := by
    intro hhead
    rw [eq_zero_of_head?_digitsOf hhead]
    decide
  simp only [isInteger, Bool.and_eq_true, Bool.or_eq_true, decide_eq_true_eq, bne_iff_ne]
  exact ⟨⟨by simp [digitsOf_ne_nil], hlength⟩, not_or_of_imp hzero⟩

theorem unsigned?_natText (negative : Bool) (hn : n < 10 ^ digitLimit) :
    unsigned? negative (symbols decimalDigit? (natText n).toList) =
      some (.int (signed negative n)) := by
  have htake : takeDigits ((digitsOf n).map Symbol.digit) = (digitsOf n, []) := by
    have happend : takeDigits ((digitsOf n).map Symbol.digit ++ []) = (digitsOf n, []) :=
      takeDigits_append _ rfl
    rwa [List.append_nil] at happend
  rw [symbols_natText, unsigned?, htake]
  simp only [List.isEmpty_nil, if_true, isInteger_digitsOf hn, digitsValue_digitsOf]

/-- A sign before a number that has none. -/
theorem number?_sign (negative : Bool) {s : String}
    (hs : takeSign (symbols decimalDigit? s.toList) = (false, symbols decimalDigit? s.toList)) :
    number? ((if negative then "-" else "") ++ s).toList =
      unsigned? negative (symbols decimalDigit? s.toList) := by
  cases negative with
  | false => simp only [Bool.false_eq_true, if_false, String.empty_append, number?, hs]
  | true =>
    have hsymbols : symbols decimalDigit? ("-" ++ s).toList =
        .other '-' :: symbols decimalDigit? s.toList := by
      rw [String.toList_append]
      rfl
    simp only [if_true, number?, hsymbols, takeSign]

theorem intText_eq_sign (n : Int) :
    intText n = (if decide (n < 0) then "-" else "") ++ natText n.natAbs := by
  rw [intText]
  simp only [decide_eq_true_eq]
  split_ifs
  · rfl
  · rw [String.empty_append]

theorem number?_intText {n : Int} (hn : n.natAbs < 10 ^ digitLimit) :
    number? (intText n).toList = some (.int n) := by
  have hsigned : signed (decide (n < 0)) n.natAbs = n := by
    rw [signed]
    simp only [decide_eq_true_eq]
    split_ifs <;> omega
  rw [intText_eq_sign, number?_sign, unsigned?_natText _ hn, hsigned]
  rw [symbols_natText, takeSign_map_digit]

/-- A finite double is read from its text, but where it came from is lost. -/
theorem number?_realText {x : Float} {d : Number.Dyadic} (hdecode : decode x = .finite d) :
    number? (realText x).toList = some (.real x) := by
  obtain ⟨decimal, hspells⟩ := spells_unsigned plainLayout d
  have hafter : (takeDigits (symbols decimalDigit? (plainLayout.unsigned d).toList)).2.isEmpty =
      false := by
    rw [List.isEmpty_eq_false_iff]
    exact takeDigits_of_spells hspells
  rw [realText, Layout.text_of_finite _ hdecode, number?_sign _ (takeSign_of_spells hspells)]
  simp only [unsigned?, hafter, Bool.false_eq_true, if_false, magnitude?_unsigned _ hdecode,
    Option.map_some]

/-! ### Constants, numbers and texts -/

/-- Characters that are read as a value wherever one may come, or that no value comes from. -/
def Spells (frames : List Frame) (cs : List Char) (found : Option Value) : Prop :=
  ∀ stage, stage = .value ∨ stage = .item → ∀ rest, Delimited rest →
    run ⟨⟨frames, stage⟩, .gap⟩ (cs ++ rest) =
      found.bind fun value => run ⟨⟨frames, .after value⟩, .gap⟩ rest

theorem put_open {stage : Stage} (hstage : stage = .value ∨ stage = .item) (value : Value) :
    (Place.mk frames stage).put value = some ⟨frames, .after value⟩ := by
  rcases hstage with rfl | rfl <;> rfl

theorem spells_word (hne : cs ≠ []) (hcs : cs.all isWordChar = true) :
    Spells frames cs (wordValue? cs) := by
  intro stage hstage rest hrest
  rw [run_word hne hcs hrest]
  refine Option.bind_congr fun value _ => ?_
  rw [put_open hstage, Option.bind_some]

theorem spells_quote (s : String) : Spells frames (quote s).toList (some (.text s)) := by
  intro stage hstage rest hrest
  rw [quote, String.toList_ofList, run_quoteChars _ hrest, put_open hstage, String.ofList_toList,
    Option.bind_some, Option.bind_some]

theorem isWordChar_of_isNumberChar {c : Char} (hc : isNumberChar c = true) :
    isWordChar c = true := by
  simp only [isNumberChar, Bool.or_eq_true, beq_iff_eq] at hc
  rcases hc with (((hdigit | rfl) | rfl) | rfl) | rfl
  · simp [isWordChar, Char.isAlphanum, hdigit]
  all_goals decide

theorem spells_number {s : String} {value : Value} (hs : Numeric s)
    (hvalue : number? s.toList = some value) : Spells frames s.toList (some value) := by
  have hne : s.toList ≠ [] := by
    intro hnil
    rw [hnil] at hvalue
    cases hvalue
  have hconstant : ∀ t : String, (∃ c ∈ t.toList, isNumberChar c = false) →
      s.toList ≠ t.toList := by
    rintro t ⟨c, hc, hother⟩ hsame
    rw [hs c (hsame ▸ hc)] at hother
    cases hother
  have hword : wordValue? s.toList = some value := by
    rw [wordValue?, if_neg (hconstant "None" ⟨'N', by decide, by decide⟩),
      if_neg (hconstant "True" ⟨'T', by decide, by decide⟩),
      if_neg (hconstant "False" ⟨'F', by decide, by decide⟩), hvalue]
  rw [← hword]
  exact spells_word hne (List.all_eq_true.2 fun c hc => isWordChar_of_isNumberChar (hs c hc))

theorem numeric_sign (negative : Bool) {s : String} (hs : Numeric s) :
    Numeric ((if negative then "-" else "") ++ s) := by
  apply Numeric.append _ hs
  cases negative <;> decide

theorem numeric_intText (n : Int) : Numeric (intText n) := by
  rw [intText_eq_sign]
  exact numeric_sign _ (numeric_natText _)

theorem integerText_of_short {n : Int} (hn : n.natAbs < 10 ^ digitLimit) :
    integerText n = .ok (intText n) := by
  unfold integerText
  rw [Nat.pow_eq, if_neg (Nat.not_le.2 hn)]

theorem integerText_eq_ok {n : Int} {line : String} (hline : integerText n = .ok line) :
    n.natAbs < 10 ^ digitLimit ∧ intText n = line := by
  rcases Nat.lt_or_ge n.natAbs (10 ^ digitLimit) with hshort | hlong
  · refine ⟨hshort, ?_⟩
    rw [integerText_of_short hshort] at hline
    exact Except.ok.inj hline
  · rw [integerText_eq_error_iff.2 hlong] at hline
    cases hline

theorem spells_int {n : Int} {line : String} (hline : integerText n = .ok line) :
    Spells frames line.toList (some (.int n)) := by
  obtain ⟨hshort, rfl⟩ := integerText_eq_ok hline
  exact spells_number (numeric_intText n) (number?_intText hshort)

theorem numeric_realText {x : Float} {d : Number.Dyadic} (hdecode : decode x = .finite d) :
    Numeric (realText x) := by
  rw [realText, Layout.text_of_finite _ hdecode]
  exact numeric_sign _ (numeric_unsigned _ d)

/-- The texts of the doubles that are not finite are names. -/
theorem realText_mem_names {x : Float} (hx : ¬x.isFinite = true) :
    realText x ∈ ["nan", "inf", "-inf"] := by
  rw [isFinite_iff] at hx
  rw [realText, Layout.text]
  cases hdecode : decode x with
  | finite d => exact absurd ⟨d, hdecode⟩ hx
  | infinite negative => cases negative <;> decide
  | nan => decide

theorem spells_real (x : Double) :
    Spells frames (realText x.value).toList (Value.real x).literal? := by
  rw [Value.literal?]
  split_ifs with hfinite
  · obtain ⟨d, hdecode⟩ := isFinite_iff.1 hfinite
    exact spells_number (numeric_realText hdecode) (number?_realText hdecode)
  · have hname : ∀ s ∈ ["nan", "inf", "-inf"], s.toList ≠ [] ∧
        s.toList.all isWordChar = true ∧ wordValue? s.toList = none := by
      simp only [List.forall_mem_cons, List.not_mem_nil, false_imp_iff, implies_true, and_true]
      exact ⟨⟨by decide, by decide, rfl⟩, ⟨by decide, by decide, rfl⟩, ⟨by decide, by decide, rfl⟩⟩
    obtain ⟨hne, hword, hnone⟩ := hname _ (realText_mem_names hfinite)
    rw [← hnone]
    exact spells_word hne hword

/-! ### Whole literals -/

/-- A literal is read as what it stands for. -/
theorem read?_of_spells {s : String} {found : Option Value} (hspells : Spells [] s.toList found) :
    read? s = found := by
  rw [read?, start, hspells .value (.inl rfl) _ (.mark (by decide)), Option.bind_assoc]
  cases found <;> rfl

end Literal

end DialogGraph

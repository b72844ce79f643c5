import DialogGraph.Proofs.Number.ReadBack
import DialogGraph.Proofs.Number.Rounding

/-!
# The text of a double reads back

The digits that a double is written with lie in its interval, however they are found, and every
layout keeps the value of the digits. So the text of a finite double is read as that double again.
-/

namespace DialogGraph.Number

open DialogGraph.Text

/-! ### Digits -/

/-- Dropping a zero at the end moves the exponent up by one. -/
theorem Decimal.value_strip (fuel : Nat) (decimal : Decimal) :
    (decimal.strip fuel).value = decimal.value ∧
      decimal.exponent ≤ (decimal.strip fuel).exponent := by
  induction fuel generalizing decimal with
  | zero => exact ⟨rfl, le_rfl⟩
  | succ fuel ih =>
    rw [strip]
    split_ifs with hzero
    · obtain ⟨hvalue, hexponent⟩ := ih ⟨decimal.digits / 10, decimal.exponent + 1⟩
      refine ⟨hvalue.trans ?_, (Int.le_add_one le_rfl).trans hexponent⟩
      have hdigits : decimal.digits = 10 * (decimal.digits / 10) := by
        rw [Bool.and_eq_true, decide_eq_true_eq] at hzero
        omega
      rw [value, value]
      dsimp only
      conv_rhs => rw [hdigits]
      rw [zpow_add₀ (by norm_num)]
      push_cast
      ring
    · exact ⟨rfl, le_rfl⟩

/-- What is found on a grid reads back. -/
theorem readsBack_of_onGrid {mantissa : Nat} {exponent grid : Int} {decimal : Decimal}
    (hfound : onGrid mantissa exponent grid = some decimal) :
    readsBack mantissa exponent decimal = true ∧ decimal.exponent = grid := by
  rw [onGrid] at hfound
  split_ifs at hfound with hboth hround hlower hupper
  all_goals
    obtain rfl := Option.some.inj hfound
    simp_all

/-- The scale of a double is not below that of the least one. -/
theorem le_leastScale {mantissa : Nat} {exponent : Int} (hexponent : -1074 ≤ exponent) :
    -325 ≤ leastScale mantissa exponent := by
  have hguess : -325 ≤ ((mantissa.log2 : Int) + exponent) * 3 / 10 - 2 := by omega
  unfold leastScale
  dsimp only
  generalize ((mantissa.log2 : Int) + exponent) * 3 / 10 - 2 = guess at *
  cases hfound : ((List.range 40).map fun (i : Nat) => guess + (i : Int)).find? fun k =>
      compareScaled 1 k mantissa exponent == .gt with
  | none => exact hguess
  | some k =>
    obtain ⟨i, -, rfl⟩ := List.mem_map.1 (List.mem_of_find?_eq_some hfound)
    rw [Option.getD_some]
    omega

namespace Dyadic

variable {d : Dyadic}

/-- A double covers its own value. -/
theorem covers_magnitude (d : Dyadic) : d.Covers d.magnitude := by
  have hp : (0 : ℚ) < 2 ^ d.exponent := zpow_pos zero_lt_two _
  have hmargin : (1 : ℚ) ≤ d.margin := by
    rw [margin]
    split_ifs <;> norm_num
  have hscaled := mul_le_mul_of_nonneg_right hmargin hp.le
  refine ⟨by linarith, by linarith, ?_⟩
  rintro (hend | hend) <;> linarith

/-- The value of a double in decimal digits. -/
theorem exact_value (d : Dyadic) :
    Decimal.value ⟨d.mantissa * 2 ^ d.exponent.toNat * 5 ^ (-d.exponent).toNat, min d.exponent 0⟩ =
      d.magnitude := by
  rw [magnitude, Decimal.value]
  rcases le_total 0 d.exponent with hup | hdown
  · obtain ⟨n, hn⟩ := Int.eq_ofNat_of_zero_le hup
    simp [hn]
  · obtain ⟨n, hn⟩ := Int.exists_eq_neg_ofNat hdown
    have hten : (10 : ℚ) ^ (-(n : Int)) = 2 ^ (-(n : Int)) * 5 ^ (-(n : Int)) := by
      rw [← mul_zpow]
      norm_num
    rw [hn, min_eq_left (by omega), hten]
    simp
    field_simp

/-- A double covers the digits that it is written with, and they have no place below its last. -/
theorem covers_shortest (hd : d.Canonical) (hpos : 0 < d.mantissa) :
    d.Covers (shortest d.mantissa d.exponent).value ∧
      -1074 ≤ (shortest d.mantissa d.exponent).exponent := by
  have hleast := hd.neg_le_exponent
  have hscale : -325 ≤ leastScale d.mantissa d.exponent := le_leastScale hleast
  suffices hfound : ∀ decimal : Decimal, d.Covers decimal.value → -1074 ≤ decimal.exponent →
      d.Covers (decimal.strip 30).value ∧ -1074 ≤ (decimal.strip 30).exponent by
    unfold shortest
    dsimp only
    cases hgrid : ((List.range 17).map fun (n : Nat) =>
        leastScale d.mantissa d.exponent - (n : Int) - 1).findSome? fun grid =>
          onGrid d.mantissa d.exponent grid with
    | none =>
      apply hfound
      · rw [Option.getD_none, Nat.pow_eq, Nat.pow_eq, exact_value]
        exact d.covers_magnitude
      · rw [Option.getD_none]
        dsimp only
        omega
    | some decimal =>
      obtain ⟨grid, hmem, honGrid⟩ := List.exists_of_findSome?_eq_some hgrid
      obtain ⟨n, hn, rfl⟩ := List.mem_map.1 hmem
      obtain ⟨hreads, hexponent⟩ := readsBack_of_onGrid honGrid
      have := List.mem_range.1 hn
      exact hfound decimal ((readsBack_iff d hpos decimal).1 hreads) (by omega)
  intro decimal hcovers hexponent
  obtain ⟨hvalue, hle⟩ := decimal.value_strip 30
  rw [hvalue]
  exact ⟨hcovers, hexponent.trans hle⟩

end Dyadic

/-! ### Symbols -/

theorem foldl_digits (ds : List Nat) (value : Nat) :
    ds.foldl (fun value d => 10 * value + d) value = value * 10 ^ ds.length + digitsValue ds := by
  induction ds generalizing value with
  | nil => simp [digitsValue]
  | cons d ds ih =>
    rw [digitsValue, List.foldl_cons, List.foldl_cons, ih, ih (10 * 0 + d), List.length_cons]
    ring

theorem digitsValue_append (ds es : List Nat) :
    digitsValue (ds ++ es) = digitsValue ds * 10 ^ es.length + digitsValue es := by
  rw [digitsValue, List.foldl_append, foldl_digits]
  rfl

@[simp]
theorem digitsValue_replicate_zero (n : Nat) : digitsValue (List.replicate n 0) = 0 := by
  induction n with
  | zero => rfl
  | succ n ih => rwa [List.replicate_succ, digitsValue, List.foldl_cons]

def digitsOf (n : Nat) : List Nat := (natText n).toList.map fun c => c.toNat - 48

theorem symbols_natText (n : Nat) :
    symbols decimalDigit? (natText n).toList = (digitsOf n).map Symbol.digit :=
  symbols_of_isDigit fun _ hc => isDigit_of_mem_natText hc

theorem digitsValue_digitsOf (n : Nat) : digitsValue (digitsOf n) = n := by
  rw [digitsOf, digitsValue_map_toNat, toList_natText, Nat.ofDigitChars_ten_toDigits]

theorem length_digitsOf (n : Nat) : (digitsOf n).length = (natText n).length := by
  rw [digitsOf, List.length_map, String.length_toList]

theorem digitsOf_ne_nil (n : Nat) : digitsOf n ≠ [] := by
  rw [digitsOf, toList_natText, Ne, List.map_eq_nil_iff]
  exact Nat.toDigits_ne_nil

theorem symbols_append (digit? : Char → Option Nat) (cs rest : List Char) :
    symbols digit? (cs ++ rest) = symbols digit? cs ++ symbols digit? rest :=
  List.map_append

/-- Digits are taken up to the first symbol that is none. -/
theorem takeDigits_append (ds : List Nat) {rest : List Symbol} (hrest : takeDigits rest = ([], rest)) :
    takeDigits (ds.map Symbol.digit ++ rest) = (ds, rest) := by
  induction ds with
  | nil => exact hrest
  | cons d ds ih => rw [List.map_cons, List.cons_append, takeDigits, ih]

/-- The symbols of a real: digits, the digits behind the point if there are any, and the exponent
part. -/
def realSymbols (whole fraction : List Nat) (exponent : List Symbol) : List Symbol :=
  whole.map Symbol.digit ++
    ((if fraction.isEmpty then [] else Symbol.other '.' :: fraction.map Symbol.digit) ++ exponent)

/-- An exponent part: it is empty or begins with its letter. -/
inductive ExponentPart : List Symbol → Int → Prop
  | none : ExponentPart [] 0
  | letter {rest : List Symbol} {exponent : Int}
      (hread : exponentPart? (.other 'e' :: rest) = some exponent) :
      ExponentPart (.other 'e' :: rest) exponent

theorem ExponentPart.read {part : List Symbol} {exponent : Int}
    (hpart : ExponentPart part exponent) : exponentPart? part = some exponent := by
  cases hpart with
  | none => rfl
  | letter hread => exact hread

theorem ExponentPart.takeDigits {part : List Symbol} {exponent : Int}
    (hpart : ExponentPart part exponent) : Number.takeDigits part = ([], part) := by
  cases hpart <;> rfl

theorem magnitude?_realSymbols {whole fraction : List Nat} (hwhole : whole ≠ [])
    {part : List Symbol} {exponent : Int} (hpart : ExponentPart part exponent) (negative : Bool) :
    magnitude? negative (realSymbols whole fraction part) =
      some (ofDecimal negative (digitsValue (whole ++ fraction)) (exponent - fraction.length)) := by
  have hwhole : whole.isEmpty = false := by simpa using hwhole
  cases fraction with
  | nil =>
    have htake : takeDigits (realSymbols whole [] part) = (whole, part) :=
      takeDigits_append whole hpart.takeDigits
    cases hpart with
    | none => simp [magnitude?, htake, hwhole, exponentPart?]
    | letter hread => simp [magnitude?, htake, hwhole, hread]
  | cons d ds =>
    have htake : takeDigits (realSymbols whole (d :: ds) part) =
        (whole, .other '.' :: ((d :: ds).map Symbol.digit ++ part)) :=
      takeDigits_append whole rfl
    have hfraction := takeDigits_append (d :: ds) hpart.takeDigits
    generalize (d :: ds).map Symbol.digit ++ part = rest at *
    simp [magnitude?, htake, hfraction, hwhole, hpart.read]

/-- The symbols of a real are not digits alone. -/
theorem takeDigits_realSymbols_ne {whole fraction : List Nat} {part : List Symbol}
    {exponent : Int} (hpart : ExponentPart part exponent)
    (hreal : fraction ≠ [] ∨ part ≠ []) :
    (takeDigits (realSymbols whole fraction part)).2 ≠ [] := by
  cases fraction with
  | nil =>
    have htake : takeDigits (realSymbols whole [] part) = (whole, part) :=
      takeDigits_append whole hpart.takeDigits
    rw [htake]
    simpa using hreal
  | cons d ds =>
    have htake : takeDigits (realSymbols whole (d :: ds) part) =
        (whole, .other '.' :: ((d :: ds).map Symbol.digit ++ part)) :=
      takeDigits_append whole rfl
    rw [htake]
    exact List.cons_ne_nil _ _

/-! ### Layouts -/

theorem symbols_zeros (n : Nat) :
    symbols decimalDigit? (zeros n).toList = (List.replicate n 0).map Symbol.digit := by
  have hzero : decimalDigit? '0' = some 0 := rfl
  simp [symbols, zeros, hzero]

/-- Leading zeros do not count. -/
theorem symbols_padded (width n : Nat) : ∃ ds : List Nat, ds ≠ [] ∧ digitsValue ds = n ∧
    symbols decimalDigit? (padded width n).toList = ds.map Symbol.digit := by
  refine ⟨List.replicate (width - (natText n).length) 0 ++ digitsOf n, ?_, ?_, ?_⟩
  · simp [digitsOf_ne_nil]
  · rw [digitsValue_append, digitsValue_replicate_zero, zero_mul, zero_add, digitsValue_digitsOf]
  · rw [padded, String.toList_append, symbols_append, symbols_zeros, symbols_natText, List.map_append]

theorem exponentPart_of_digits {ds : List Nat} (hds : ds ≠ []) (negative : Bool) :
    ExponentPart (.other 'e' :: .other (if negative then '-' else '+') :: ds.map Symbol.digit)
      (signed negative (digitsValue ds)) := by
  have htake : takeDigits (ds.map Symbol.digit) = (ds, []) := by
    have happend : takeDigits (ds.map Symbol.digit ++ []) = (ds, []) := takeDigits_append ds rfl
    rwa [List.append_nil] at happend
  apply ExponentPart.letter
  cases negative
  all_goals
    simp only [exponentPart?, takeSign, htake, beq_self_eq_true, Bool.true_or, if_true,
      Bool.false_eq_true, if_false]

/-- The symbols of a real with the value of a decimal and no place below its last, or below the
first place behind the point. -/
inductive Spells (decimal : Decimal) : List Symbol → Prop
  | real {whole fraction : List Nat} {part : List Symbol} {exponent : Int} (hwhole : whole ≠ [])
      (hpart : ExponentPart part exponent) (hreal : fraction ≠ [] ∨ part ≠ [])
      (hvalue : Decimal.value ⟨digitsValue (whole ++ fraction), exponent - fraction.length⟩ =
        decimal.value)
      (hexponent : min decimal.exponent (-1) ≤ exponent - fraction.length) :
      Spells decimal (realSymbols whole fraction part)

variable {decimal : Decimal}

theorem symbols_point (cs : List Char) :
    symbols decimalDigit? ('.' :: cs) = .other '.' :: symbols decimalDigit? cs := rfl

theorem realSymbols_of_fraction (whole : List Nat) {fraction : List Nat} (hfraction : fraction ≠ []) :
    realSymbols whole fraction [] =
      whole.map Symbol.digit ++ .other '.' :: fraction.map Symbol.digit := by
  simp [realSymbols, hfraction]

/-- Digits and zeros up to the point, and a zero behind it. -/
theorem spells_integral (hexponent : 0 ≤ decimal.exponent) :
    Spells decimal (symbols decimalDigit?
      (natText decimal.digits ++ zeros decimal.exponent.toNat ++ ".0").toList) := by
  obtain ⟨n, hn⟩ := Int.eq_ofNat_of_zero_le hexponent
  have hsymbols : symbols decimalDigit?
      (natText decimal.digits ++ zeros decimal.exponent.toNat ++ ".0").toList =
        realSymbols (digitsOf decimal.digits ++ List.replicate n 0) [0] [] := by
    rw [String.toList_append, String.toList_append, symbols_append, symbols_append, symbols_natText,
      symbols_zeros, hn]
    simp [realSymbols]
    rfl
  rw [hsymbols]
  refine .real (by simp [digitsOf_ne_nil]) .none (by simp) ?_ (by simp)
  rw [Decimal.value, Decimal.value, digitsValue_append, digitsValue_append, digitsValue_digitsOf, hn]
  simp only [List.length_replicate, digitsValue_replicate_zero, List.length_singleton]
  have hlast : digitsValue [0] = 0 := rfl
  rw [hlast, show (0 - ((1 : Nat) : Int)) = -1 from rfl]
  push_cast
  rw [zpow_neg_one, zpow_natCast]
  field_simp
  ring

/-- Digits with the point among them. -/
theorem spells_point {n : Nat} (hpos : 0 < n)
    (hn : (n : Int) = decimal.exponent + (natText decimal.digits).length)
    (hexponent : decimal.exponent < 0) :
    Spells decimal (symbols decimalDigit?
      (String.ofList ((natText decimal.digits).toList.take n) ++ "." ++
        String.ofList ((natText decimal.digits).toList.drop n)).toList) := by
  have hlength := length_digitsOf decimal.digits
  have hfraction : (digitsOf decimal.digits).drop n ≠ [] := by
    rw [Ne, List.drop_eq_nil_iff]
    omega
  have hsymbols : symbols decimalDigit?
      (String.ofList ((natText decimal.digits).toList.take n) ++ "." ++
        String.ofList ((natText decimal.digits).toList.drop n)).toList =
        realSymbols ((digitsOf decimal.digits).take n) ((digitsOf decimal.digits).drop n) [] := by
    have htext : ∀ cs : List Char, symbols decimalDigit? (cs.take n ++ '.' :: cs.drop n) =
        (symbols decimalDigit? cs).take n ++ .other '.' :: (symbols decimalDigit? cs).drop n := by
      intro cs
      rw [symbols_append, symbols_point]
      simp [symbols]
    rw [realSymbols_of_fraction _ hfraction, List.map_take, List.map_drop, ← symbols_natText,
      ← htext]
    simp
  rw [hsymbols]
  refine .real ?_ .none (.inl hfraction) ?_ ?_
  · rw [Ne, List.take_eq_nil_iff]
    exact not_or.2 ⟨hpos.ne', digitsOf_ne_nil _⟩
  · rw [List.take_append_drop, digitsValue_digitsOf, List.length_drop]
    congr 2
    omega
  · rw [List.length_drop]
    omega

/-- A zero before the point, and zeros behind it before the digits. -/
theorem spells_small {n : Nat}
    (hn : (n : Int) + (natText decimal.digits).length = -decimal.exponent) :
    Spells decimal (symbols decimalDigit? ("0." ++ zeros n ++ natText decimal.digits).toList) := by
  have hlength := length_digitsOf decimal.digits
  have hsymbols : symbols decimalDigit? ("0." ++ zeros n ++ natText decimal.digits).toList =
      realSymbols [0] (List.replicate n 0 ++ digitsOf decimal.digits) [] := by
    rw [realSymbols_of_fraction _ (by simp [digitsOf_ne_nil]), String.toList_append,
      String.toList_append, symbols_append, symbols_append, symbols_zeros, symbols_natText,
      List.map_append]
    rfl
  rw [hsymbols]
  refine .real (by simp) .none (by simp [digitsOf_ne_nil]) ?_ ?_
  · rw [digitsValue_append, digitsValue_append, digitsValue_replicate_zero, digitsValue_digitsOf,
      List.length_append, List.length_replicate]
    have hfirst : digitsValue [0] = 0 := rfl
    rw [hfirst, zero_mul, zero_mul, zero_add, zero_add]
    congr 2
    omega
  · rw [List.length_append, List.length_replicate]
    omega

/-- The symbols of a text with an exponent. The parts are kept general, so that no digits need be
looked at. -/
theorem symbols_scientific {first rest : List Char} {power : String} {ds fs es : List Nat}
    (hfirst : symbols decimalDigit? first = ds.map Symbol.digit)
    (hrest : symbols decimalDigit? rest = fs.map Symbol.digit)
    (hpower : symbols decimalDigit? power.toList = es.map Symbol.digit) (negative : Bool) :
    symbols decimalDigit? (String.ofList first ++
      (if rest.isEmpty then "" else "." ++ String.ofList rest) ++ "e" ++
        (if negative then "-" else "+") ++ power).toList =
      realSymbols ds fs
        (.other 'e' :: .other (if negative then '-' else '+') :: es.map Symbol.digit) := by
  have hsame : fs.isEmpty = rest.isEmpty := by
    have hlength := congrArg List.length hrest
    rw [symbols, List.length_map, List.length_map] at hlength
    rw [Bool.eq_iff_iff, List.isEmpty_iff_length_eq_zero, List.isEmpty_iff_length_eq_zero, hlength]
  have hsign : symbols decimalDigit? (if negative then "-" else "+").toList =
      [.other (if negative then '-' else '+')] := by
    cases negative <;> rfl
  have hletter : symbols decimalDigit? "e".toList = [.other 'e'] := rfl
  have hpoint : symbols decimalDigit? ".".toList = [.other '.'] := rfl
  have hmiddle : symbols decimalDigit?
      (if rest.isEmpty then "" else "." ++ String.ofList rest).toList =
        if fs.isEmpty then [] else .other '.' :: fs.map Symbol.digit := by
    rw [hsame]
    split
    · rfl
    · rw [String.toList_append, symbols_append, hpoint, String.toList_ofList, hrest]
      rfl
  rw [realSymbols, String.toList_append, String.toList_append, String.toList_append,
    String.toList_append, symbols_append, symbols_append, symbols_append, symbols_append,
    String.toList_ofList, hfirst, hmiddle, hletter, hsign, hpower]
  simp

/-- One digit before the point, and an exponent. -/
theorem spells_scientific {width : Nat} {leading : Int}
    (hleading : decimal.exponent + (natText decimal.digits).length - 1 = leading) :
    Spells decimal (symbols decimalDigit?
      (String.ofList ((natText decimal.digits).toList.take 1) ++
        (if ((natText decimal.digits).toList.drop 1).isEmpty then ""
          else "." ++ String.ofList ((natText decimal.digits).toList.drop 1)) ++
        "e" ++ (if leading < 0 then "-" else "+") ++ padded width leading.natAbs).toList) := by
  have hlength := length_digitsOf decimal.digits
  have hpos := List.length_pos_of_ne_nil (digitsOf_ne_nil decimal.digits)
  obtain ⟨es, hes, hesValue, hesSymbols⟩ := symbols_padded width leading.natAbs
  have hpart := exponentPart_of_digits hes (decide (leading < 0))
  have hsigned : signed (decide (leading < 0)) (digitsValue es) = leading := by
    rw [hesValue, signed]
    split_ifs with hneg
    · rw [decide_eq_true_eq] at hneg
      omega
    · rw [decide_eq_true_eq] at hneg
      omega
  have hfirst : symbols decimalDigit? ((natText decimal.digits).toList.take 1) =
      ((digitsOf decimal.digits).take 1).map Symbol.digit := by
    rw [List.map_take, ← symbols_natText, symbols, symbols, List.map_take]
  have hrest : symbols decimalDigit? ((natText decimal.digits).toList.drop 1) =
      ((digitsOf decimal.digits).drop 1).map Symbol.digit := by
    rw [List.map_drop, ← symbols_natText, symbols, symbols, List.map_drop]
  have hsymbols := symbols_scientific hfirst hrest hesSymbols (decide (leading < 0))
  rw [hsigned] at hpart
  simp only [decide_eq_true_eq] at hsymbols hpart
  rw [hsymbols]
  refine .real ?_ hpart (.inr (List.cons_ne_nil _ _)) ?_ ?_
  · simp [List.take_eq_nil_iff, digitsOf_ne_nil]
  · have hplaces : leading - (((digitsOf decimal.digits).length - 1 : Nat) : Int) =
        decimal.exponent := by omega
    rw [List.take_append_drop, digitsValue_digitsOf, List.length_drop, hplaces]
  · rw [List.length_drop]
    omega

/-- Whatever the layout, what is written has the value of the decimal. -/
theorem spells_decimal (layout : Layout) (decimal : Decimal) :
    Spells decimal (symbols decimalDigit? (layout.decimal decimal).toList) := by
  unfold Layout.decimal
  dsimp only
  split
  · split
    · exact spells_integral ‹_›
    · split
      · exact spells_point (by omega) (by omega) (by omega)
      · exact spells_small (by omega)
  · exact spells_scientific rfl

/-! ### Doubles -/

def Layout.unsigned (layout : Layout) (d : Dyadic) : String :=
  if d.mantissa = 0 then "0.0" else layout.decimal (shortest d.mantissa d.exponent)

theorem Layout.text_of_finite (layout : Layout) {x : Float} {d : Dyadic}
    (hdecode : decode x = .finite d) :
    layout.text x = (if d.negative then "-" else "") ++ layout.unsigned d := by
  rw [text, hdecode, unsigned]

theorem spells_unsigned (layout : Layout) (d : Dyadic) :
    ∃ decimal, Spells decimal (symbols decimalDigit? (layout.unsigned d).toList) := by
  rw [Layout.unsigned]
  split
  · have hzero : Spells ⟨0, 0⟩ (realSymbols [0] [0] []) :=
      .real (by simp) .none (by simp) (by simp [Decimal.value, digitsValue]) (by simp)
    exact ⟨_, hzero⟩
  · exact ⟨_, spells_decimal layout _⟩

theorem takeSign_of_spells {decimal : Decimal} {symbols : List Symbol}
    (hspells : Spells decimal symbols) : takeSign symbols = (false, symbols) := by
  obtain ⟨hwhole⟩ := hspells
  rename_i whole _ _ _
  obtain ⟨d, ds, rfl⟩ := List.exists_cons_of_ne_nil hwhole
  rfl

theorem takeDigits_of_spells {decimal : Decimal} {symbols : List Symbol}
    (hspells : Spells decimal symbols) : (takeDigits symbols).2 ≠ [] := by
  obtain ⟨-, hpart, hreal⟩ := hspells
  exact takeDigits_realSymbols_ne hpart hreal

/-- What is written with the digits of a double reads as that double. -/
theorem magnitude?_of_spells {d : Dyadic} (hd : d.Canonical) (hpos : 0 < d.mantissa)
    {symbols : List Symbol} (hspells : Spells (shortest d.mantissa d.exponent) symbols)
    (negative : Bool) : magnitude? negative symbols = some (ofFields negative d.rest) := by
  obtain ⟨hcovers, hplaces⟩ := d.covers_shortest hd hpos
  obtain ⟨hwhole, hpart, -, hvalue, hexponent⟩ := hspells
  rw [magnitude?_realSymbols hwhole hpart, Option.some.injEq]
  rw [← hvalue] at hcovers
  exact ofDecimal_eq hd hpos (by dsimp only; omega) hcovers negative

/-- A finite double reads back from its text, the sign apart. -/
theorem magnitude?_unsigned (layout : Layout) {x : Float} {d : Dyadic}
    (hdecode : decode x = .finite d) :
    magnitude? d.negative (symbols decimalDigit? (layout.unsigned d).toList) = some x := by
  rw [← ofFields_rest hdecode, Layout.unsigned]
  split_ifs with hzero
  · have hrest : d.rest = 0 := by rw [Dyadic.rest, hzero, if_pos (by decide)]
    rw [hrest, ← ofDecimal_zero d.negative (-1)]
    rfl
  · exact magnitude?_of_spells (canonical_of_decode hdecode) (Nat.pos_of_ne_zero hzero)
      (spells_decimal layout _) d.negative

def isNumberChar (c : Char) : Bool := c.isDigit || c == '.' || c == 'e' || c == '+' || c == '-'

def Numeric (s : String) : Prop := ∀ c ∈ s.toList, isNumberChar c = true

instance (s : String) : Decidable (Numeric s) :=
  List.decidableBAll (fun c => isNumberChar c = true) s.toList

theorem Numeric.append {s t : String} (hs : Numeric s) (ht : Numeric t) : Numeric (s ++ t) := by
  intro c hc
  rw [String.toList_append, List.mem_append] at hc
  exact hc.elim (hs c) (ht c)

theorem numeric_natText (n : Nat) : Numeric (natText n) := by
  intro c hc
  simp [isNumberChar, isDigit_of_mem_natText hc]

theorem numeric_of_mem {n : Nat} {cs : List Char} (hcs : ∀ c ∈ cs, c ∈ (natText n).toList) :
    Numeric (String.ofList cs) := by
  intro c hc
  rw [String.toList_ofList] at hc
  exact numeric_natText n c (hcs c hc)

theorem numeric_zeros (n : Nat) : Numeric (zeros n) := by
  intro c hc
  rw [zeros, String.toList_ofList] at hc
  rw [List.eq_of_mem_replicate hc]
  rfl

theorem numeric_decimal (layout : Layout) (decimal : Decimal) :
    Numeric (layout.decimal decimal) := by
  have hpoint : Numeric "." := by decide
  have htake : ∀ n, Numeric (String.ofList ((natText decimal.digits).toList.take n)) :=
    fun n => numeric_of_mem fun _ => List.mem_of_mem_take
  have hdrop : ∀ n, Numeric (String.ofList ((natText decimal.digits).toList.drop n)) :=
    fun n => numeric_of_mem fun _ => List.mem_of_mem_drop
  unfold Layout.decimal
  dsimp only
  split
  · split
    · exact ((numeric_natText _).append (numeric_zeros _)).append (by decide)
    · split
      · exact ((htake _).append hpoint).append (hdrop _)
      · exact (Numeric.append (by decide) (numeric_zeros _)).append (numeric_natText _)
  · have hfraction : Numeric (if ((natText decimal.digits).toList.drop 1).isEmpty then ""
        else "." ++ String.ofList ((natText decimal.digits).toList.drop 1)) := by
      split
      · decide
      · exact hpoint.append (hdrop 1)
    have hsign : ∀ n : Int, Numeric (if n < 0 then "-" else "+") := by
      intro n
      split <;> decide
    have hpadded : ∀ width n, Numeric (padded width n) :=
      fun width n => (numeric_zeros _).append (numeric_natText n)
    exact ((((htake 1).append hfraction).append (by decide)).append (hsign _)).append (hpadded _ _)

theorem numeric_unsigned (layout : Layout) (d : Dyadic) : Numeric (layout.unsigned d) := by
  rw [Layout.unsigned]
  split
  · decide
  · exact numeric_decimal layout _

end DialogGraph.Number

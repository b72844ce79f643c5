import DialogGraph.Flow.Edit
import DialogGraph.Snapshot.Load
import Mathlib.Algebra.Group.Nat.Defs

/-!
# Numbers in ids read back

Ids are given out as a fixed start and a number in decimal notation. Later the number is read back
from the id by a reader that takes the digits of all scripts. These lemmas prove that the reader
undoes the writer, for the ids of edges and for those of blocks: the number in a new id is the
number that the id was made from.
-/

namespace DialogGraph.Number

open DialogGraph.Text

theorem toNat_bounds_of_isDigit {c : Char} (hdigit : c.isDigit = true) :
    48 ≤ c.toNat ∧ c.toNat ≤ 57 := by
  simpa [Char.isDigit, UInt32.le_iff_toNat_le] using hdigit

theorem decimalDigit?_of_isDigit {c : Char} (hdigit : c.isDigit = true) :
    decimalDigit? c = some (c.toNat - 48) := by
  have hbounds := toNat_bounds_of_isDigit hdigit
  have hascii : c.toNat < 128 := by omega
  simp [decimalDigit?, hascii, hdigit]

theorem isNumberBlank_of_isDigit {c : Char} (hdigit : c.isDigit = true) :
    isNumberBlank c = false := by
  have hbounds := toNat_bounds_of_isDigit hdigit
  simp [isNumberBlank, isBlank]
  omega

theorem isDigitLike_of_isDigit {c : Char} (hdigit : c.isDigit = true) : isDigitLike c = true := by
  simp [isDigitLike, decimalDigit?_of_isDigit hdigit]

theorem trimWith_eq_self {drop : Char → Bool} {cs : List Char}
    (hkeep : ∀ c ∈ cs, drop c = false) : trimWith drop cs = cs := by
  have hfront : cs.dropWhile drop = cs := by
    cases cs with
    | nil => rfl
    | cons c rest => simp [hkeep c]
  have hback : cs.reverse.dropWhile drop = cs.reverse := by
    cases hcs : cs.reverse with
    | nil => rfl
    | cons c rest =>
      have hmem : c ∈ cs := List.mem_reverse.1 (hcs ▸ List.mem_cons_self)
      simp [hkeep c hmem]
  rw [trimWith, hfront, hback, List.reverse_reverse]

theorem symbols_of_isDigit {cs : List Char} (hdigits : ∀ c ∈ cs, c.isDigit = true) :
    symbols decimalDigit? cs = (cs.map fun c => c.toNat - 48).map Symbol.digit := by
  simp only [symbols, List.map_map]
  apply List.map_congr_left
  intro c hc
  simp [decimalDigit?_of_isDigit (hdigits c hc)]

@[simp]
theorem takeDigitGroups_map_digit (ds : List Nat) :
    takeDigitGroups (ds.map Symbol.digit) = (ds, []) := by
  induction ds with
  | nil => rfl
  | cons d rest ih =>
    cases rest with
    | nil => rfl
    | cons e rest =>
      simp only [List.map_cons] at ih ⊢
      simp [takeDigitGroups, ih]

theorem takeSign_map_digit (ds : List Nat) :
    takeSign (ds.map Symbol.digit) = (false, ds.map Symbol.digit) := by
  cases ds <;> rfl

theorem digitsValue_map_toNat (cs : List Char) :
    digitsValue (cs.map fun c => c.toNat - 48) = Nat.ofDigitChars 10 cs 0 := by
  simp [digitsValue, Nat.ofDigitChars_eq_foldl, List.foldl_map]

/-- A row of ASCII digits within the limit reads as its value. -/
theorem readInteger_of_isDigit {s : String} (hne : s.toList ≠ [])
    (hdigits : ∀ c ∈ s.toList, c.isDigit = true) (hlength : s.toList.length ≤ digitLimit) :
    readInteger s = .ok (Nat.ofDigitChars 10 s.toList 0 : Int) := by
  have htrim : trimWith isNumberBlank s.toList = s.toList :=
    trimWith_eq_self fun c hc => isNumberBlank_of_isDigit (hdigits c hc)
  have hsymbols := symbols_of_isDigit hdigits
  simp only [readInteger, htrim, hsymbols, takeSign_map_digit, takeDigitGroups_map_digit]
  cases hcs : s.toList with
  | nil => exact absurd hcs hne
  | cons c rest =>
    have hshort : ¬digitLimit < (c :: rest).length := by rw [← hcs]; omega
    simp only [List.map_cons, List.length_cons, List.length_map] at hshort ⊢
    rw [if_neg hshort]
    simp [signed, ← digitsValue_map_toNat]

theorem toList_natText (n : Nat) : (natText n).toList = Nat.toDigits 10 n := by
  simp [natText]

theorem isDigit_of_mem_natText {n : Nat} {c : Char} (hc : c ∈ (natText n).toList) :
    c.isDigit = true := by
  rw [toList_natText] at hc
  exact Nat.isDigit_of_mem_toDigits (by decide) (by decide) hc

theorem natText_injective {m n : Nat} (heq : natText m = natText n) : m = n := by
  have hdigits : Nat.toDigits 10 m = Nat.toDigits 10 n := by
    rw [← toList_natText, ← toList_natText, heq]
  have hvalue := congrArg (fun cs => Nat.ofDigitChars 10 cs 0) hdigits
  simpa using hvalue

theorem readInteger_natText {n : Nat} (hn : n < 10 ^ digitLimit) :
    readInteger (natText n) = .ok (n : Int) := by
  have hne : (natText n).toList ≠ [] := by
    rw [toList_natText]
    exact Nat.toDigits_ne_nil
  have hlength : (natText n).toList.length ≤ digitLimit := by
    rw [toList_natText]
    exact (Nat.length_toDigits_le_iff (by decide) (by decide)).2 hn
  rw [readInteger_of_isDigit hne (fun c hc => isDigit_of_mem_natText hc) hlength,
    toList_natText, Nat.ofDigitChars_ten_toDigits]

theorem integerText_natCast {n : Nat} (hn : n < 10 ^ digitLimit) :
    integerText (n : Int) = .ok (natText n) := by
  unfold integerText
  rw [Int.natAbs_natCast, Nat.pow_eq, if_neg (Nat.not_le.2 hn)]
  simp [intText]

theorem integerText_eq_ok_iff {n : Nat} {digits : String} :
    integerText (n : Int) = .ok digits ↔ n < 10 ^ digitLimit ∧ digits = natText n := by
  by_cases hn : n < 10 ^ digitLimit
  · rw [integerText_natCast hn, Except.ok.injEq]
    exact ⟨fun h => ⟨hn, h.symm⟩, fun h => h.2.symm⟩
  · unfold integerText
    rw [Int.natAbs_natCast, Nat.pow_eq, if_pos (Nat.not_lt.1 hn)]
    constructor
    · intro h
      cases h
    · intro h
      exact absurd h.1 hn

end DialogGraph.Number

namespace DialogGraph

open DialogGraph.Number DialogGraph.Text

theorem isDigits_natText (n : Nat) : Flow.isDigits (natText n) = true := by
  have hne : natText n ≠ "" := by
    intro hempty
    have hdigits : Nat.toDigits 10 n = [] := by rw [← toList_natText, hempty]; rfl
    exact Nat.toDigits_ne_nil hdigits
  have hall : (natText n).toList.all isDigitLike = true := by
    rw [List.all_eq_true]
    exact fun c hc => isDigitLike_of_isDigit (isDigit_of_mem_natText hc)
  simp [Flow.isDigits, hne, hall]

def Flow.edgeId (n : Nat) : String := Flow.edgeIdStart ++ natText n

/-- The number in a new edge id is the one that the id was made from. -/
theorem Flow.edgeNumber?_edgeId {n : Nat} (hn : n < 10 ^ digitLimit) :
    Flow.edgeNumber? (Flow.edgeId n) = some (.ok n) := by
  have hlist : (Flow.edgeId n).toList = Flow.edgeIdStart.toList ++ (natText n).toList := by
    simp [Flow.edgeId]
  have hdrop : (Flow.edgeId n).toList.drop Flow.edgeIdStart.length = (natText n).toList := by
    rw [hlist, ← String.length_toList, List.drop_left]
  have hstart : Flow.edgeIdStart.toList.isPrefixOf (Flow.edgeId n).toList = true := by
    rw [List.isPrefixOf_iff_prefix, hlist]
    exact List.prefix_append _ _
  simp [Flow.edgeNumber?, hstart, hdrop, isDigits_natText, readInteger_natText hn, Except.map]

theorem Flow.blockId_eq_ok_iff {n : Nat} {id : String} :
    Flow.blockId n = .ok id ↔ n < 10 ^ digitLimit ∧ id = "block_" ++ natText n := by
  rw [Flow.blockId]
  split
  next digits hdigits =>
    obtain ⟨hn, rfl⟩ := integerText_eq_ok_iff.1 hdigits
    constructor
    · intro h
      exact ⟨hn, (Except.ok.inj h).symm⟩
    · rintro ⟨-, rfl⟩
      rfl
  next fault hfault =>
    constructor
    · intro h
      cases h
    · rintro ⟨hn, -⟩
      rw [integerText_natCast hn] at hfault
      cases hfault

theorem takeWhile_underscore_natText (n : Nat) (front : List Char) :
    ((natText n).toList.reverse ++ '_' :: front).takeWhile (· != '_') =
      (natText n).toList.reverse := by
  have hall : ∀ c ∈ (natText n).toList.reverse, (c != '_') = true := by
    intro c hc
    have hdigit := isDigit_of_mem_natText (List.mem_reverse.1 hc)
    rw [bne_iff_ne]
    rintro rfl
    exact absurd hdigit (by decide)
  rw [List.takeWhile_append_of_pos hall]
  simp

/-- The number in a new block id is the one that the id was made from. -/
theorem Snapshot.blockNumber_blockId {n : Nat} (hn : n < 10 ^ digitLimit) :
    Snapshot.blockNumber ("block_" ++ natText n) = .ok n := by
  have hlist : ("block_" ++ natText n).toList = "block_".toList ++ (natText n).toList := by simp
  have hreverse : ("block_" ++ natText n).toList.reverse =
      (natText n).toList.reverse ++ '_' :: "block".toList.reverse := by
    rw [hlist, List.reverse_append]
    rfl
  have hbehind : (("block_" ++ natText n).toList.reverse.takeWhile (· != '_')).reverse =
      (natText n).toList := by
    rw [hreverse, takeWhile_underscore_natText, List.reverse_reverse]
  have hfront : ("block_" ++ natText n).toList.take
      (("block_" ++ natText n).length - (natText n).toList.length) = "block_".toList := by
    have hlength : ("block_" ++ natText n).length - (natText n).toList.length =
        "block_".toList.length := by
      rw [← String.length_toList, hlist, List.length_append, Nat.add_sub_cancel]
    rw [hlength, hlist, List.take_left]
  simp only [Snapshot.blockNumber, hbehind, hfront, String.ofList_toList, isDigits_natText,
    readInteger_natText hn]
  simp [Except.map]

end DialogGraph

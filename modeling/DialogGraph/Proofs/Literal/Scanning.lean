import DialogGraph.Proofs.Literal.Reader
import DialogGraph.Proofs.Number.Shortest
import DialogGraph.Text.Quoted
import DialogGraph.Value.Text

/-!
# Words and texts are read as written

A word is put to the value that it is when the character behind it comes. A quoted text is read as
the characters that were quoted, whichever way each of them is written between the quotes.
-/

namespace DialogGraph.Literal

open DialogGraph.Number DialogGraph.Text

variable {place : Place} {cs rest : List Char}

/-! ### Runs -/

theorem run_cons (state : State) (c : Char) (cs : List Char) :
    run state (c :: cs) = (feed state c).bind fun state => run state cs := rfl

theorem run_append (state : State) (cs rest : List Char) :
    run state (cs ++ rest) = (run state cs).bind fun state => run state rest :=
  List.foldlM_append

/-! ### Marks -/

/-- The characters that may stand between words and texts. -/
def marks : List Char := [' ', '\n', '[', ']', '\x7b', '\x7d', ',', ':']

theorem of_mem_marks {c : Char} (hc : c ∈ marks) : isQuote c = false ∧ isWordChar c = false := by
  simp only [marks, List.mem_cons, List.not_mem_nil, or_false] at hc
  rcases hc with rfl | rfl | rfl | rfl | rfl | rfl | rfl | rfl <;> decide

/-- Characters that begin with a mark. -/
inductive Delimited : List Char → Prop
  | mark {c : Char} {rest : List Char} (hc : c ∈ marks) : Delimited (c :: rest)

theorem run_mark {c : Char} (hc : c ∈ marks) :
    run ⟨place, .gap⟩ (c :: rest) =
      (place.mark? c).bind fun place => run ⟨place, .gap⟩ rest := by
  obtain ⟨hquote, hword⟩ := of_mem_marks hc
  rw [run_cons]
  simp only [feed, hquote, hword, Bool.false_eq_true, if_false, Option.bind_map]
  rfl

theorem run_closed (hrest : Delimited rest) :
    run ⟨place, .closed⟩ rest = run ⟨place, .gap⟩ rest := by
  obtain ⟨hc⟩ := hrest
  rw [run_mark hc, run_cons]
  simp only [feed, Option.bind_map]
  rfl

/-! ### Words -/

theorem isQuote_of_isWordChar {c : Char} (hc : isWordChar c = true) : isQuote c = false := by
  rw [isQuote, Bool.or_eq_false_iff, beq_eq_false_iff_ne, beq_eq_false_iff_ne]
  constructor <;> rintro rfl <;> revert hc <;> decide

theorem run_wordChars (done : List Char) (hcs : ∀ c ∈ cs, isWordChar c = true) :
    run ⟨place, .word done⟩ cs = some ⟨place, .word (cs.reverse ++ done)⟩ := by
  induction cs generalizing done with
  | nil => rfl
  | cons c cs ih =>
    obtain ⟨hc, hcs⟩ := List.forall_mem_cons.1 hcs
    rw [run_cons]
    simp only [feed, hc, if_true, Option.bind_some]
    rw [ih _ hcs, List.reverse_cons, List.append_assoc, List.singleton_append]

/-- A word stands for the value that it is. -/
theorem run_word (hne : cs ≠ []) (hcs : cs.all isWordChar = true) (hrest : Delimited rest) :
    run ⟨place, .gap⟩ (cs ++ rest) =
      (wordValue? cs).bind fun value => (place.put value).bind fun place =>
        run ⟨place, .gap⟩ rest := by
  obtain ⟨c, cs, rfl⟩ := List.exists_cons_of_ne_nil hne
  obtain ⟨hc, hmore⟩ := List.forall_mem_cons.1 (List.all_eq_true.1 hcs)
  have hword : run ⟨place, .gap⟩ (c :: cs) = some ⟨place, .word (c :: cs).reverse⟩ := by
    rw [run_cons]
    simp only [feed, isQuote_of_isWordChar hc, hc, Bool.false_eq_true, if_false, if_true,
      Option.bind_some]
    rw [run_wordChars _ hmore, List.reverse_cons]
  rw [run_append, hword, Option.bind_some]
  obtain @⟨d, rest, hd⟩ := hrest
  rw [run_cons]
  simp only [feed, (of_mem_marks hd).2, Bool.false_eq_true, if_false, List.reverse_reverse,
    Option.bind_assoc, Option.bind_map]
  refine Option.bind_congr fun value _ => Option.bind_congr fun place _ => ?_
  rw [run_mark hd]
  rfl

/-! ### Texts -/

variable {quote : Char} {done : List Char}

theorem hexValue?_hexDigit {d : Nat} (hd : d < 16) : hexValue? (hexDigit d) = some d := by
  revert d
  decide

/-- Digit by digit, what has been read of a code is the code without the digits that follow. -/
theorem run_hexDigits {n : Nat} (hn : n.isValidChar) (left : Nat) :
    run ⟨place, .code quote done left (n / 16 ^ (left + 1))⟩ (hexDigits (left + 1) n) =
      some ⟨place, .text quote (Char.ofNat n :: done)⟩ := by
  induction left with
  | zero =>
    have hvalue : 16 * (n / 16 ^ 1) + n / Nat.pow 16 0 % 16 = n := by
      rw [Nat.pow_eq]
      omega
    rw [hexDigits, hexDigits, run_cons]
    simp only [feed, code?, hexValue?_hexDigit (Nat.mod_lt _ (by decide)), Option.bind_some,
      zero_add, hvalue, if_pos hn]
    rfl
  | succ left ih =>
    have hvalue : 16 * (n / 16 ^ (left + 1 + 1)) + n / Nat.pow 16 (left + 1) % 16 =
        n / 16 ^ (left + 1) := by
      rw [pow_succ 16 (left + 1), ← Nat.div_div_eq_div_mul, Nat.pow_eq]
      omega
    rw [hexDigits, run_cons]
    simp only [feed, code?, hexValue?_hexDigit (Nat.mod_lt _ (by decide)), Option.bind_some,
      hvalue, Option.map_some]
    exact ih

/-- A character that is written by its code. -/
theorem run_coded {letter : Char} {left : Nat} {c : Char} (hletter : escape? quote done letter =
    some (.code quote done left 0)) (hc : c.toNat < 16 ^ (left + 1)) :
    run ⟨place, .escape quote done⟩ (letter :: hexDigits (left + 1) c.toNat) =
      some ⟨place, .text quote (c :: done)⟩ := by
  have hvalue : Char.ofNat c.val.toNat = c := Char.ofNat_toNat c
  have hdigits : run ⟨place, .code quote done left (c.val.toNat / 16 ^ (left + 1))⟩
      (hexDigits (left + 1) c.val.toNat) = some ⟨place, .text quote (c :: done)⟩ := by
    conv_rhs => rw [← hvalue]
    exact run_hexDigits c.valid left
  have hzero : c.val.toNat / 16 ^ (left + 1) = 0 := Nat.div_eq_of_lt hc
  rw [hzero] at hdigits
  rw [run_cons]
  simp only [feed, hletter, Option.map_some, Option.bind_some]
  exact hdigits

theorem run_backslash (hquote : isQuote quote = true) (cs : List Char) :
    run ⟨place, .text quote done⟩ ('\\' :: cs) = run ⟨place, .escape quote done⟩ cs := by
  have hother : '\\' ≠ quote := by
    rintro rfl
    revert hquote
    decide
  rw [run_cons]
  simp only [feed, beq_eq_false_iff_ne.2 hother, beq_self_eq_true, Bool.false_eq_true, if_false,
    if_true, Option.bind_some]

/-- Printable characters are no line ends. -/
theorem isPrintable_eq_false {c : Char} (hc : c = '\n' ∨ c = '\r' ∨ c = '\x00') :
    isPrintable c = false := by
  rcases hc with rfl | rfl | rfl <;> decide

theorem run_printable {c : Char} (hprintable : isPrintable c = true) (hquote : c ≠ quote)
    (hbackslash : c ≠ '\\') :
    run ⟨place, .text quote done⟩ [c] = some ⟨place, .text quote (c :: done)⟩ := by
  have hfeed : ∀ d, isPrintable d = false → c ≠ d := by
    rintro d hd rfl
    rw [hprintable] at hd
    cases hd
  rw [run_cons]
  simp only [feed, beq_iff_eq, hquote, hbackslash, Bool.or_eq_true,
    hfeed _ (isPrintable_eq_false (.inl rfl)), hfeed _ (isPrintable_eq_false (.inr (.inl rfl))),
    hfeed _ (isPrintable_eq_false (.inr (.inr rfl))), or_self, if_false]
  rfl

theorem toNat_lt_of_valid (c : Char) : c.toNat < 0x110000 := by
  have hvalid : c.val.toNat.isValidChar := c.valid
  rw [Char.toNat]
  rcases hvalid with hlow | hhigh <;> omega

/-- However a character is written between quotes, it is read as that character. -/
theorem run_escapeChar (hquote : isQuote quote = true) (c : Char) :
    run ⟨place, .text quote done⟩ (escapeChar quote c) =
      some ⟨place, .text quote (c :: done)⟩ := by
  unfold escapeChar
  split_ifs with hsame hfeed hreturn htab hprintable hshort hmiddle
  · rw [run_backslash hquote, run_cons]
    have hself : (isQuote c || c == '\\') = true := by
      rw [Bool.or_eq_true, beq_iff_eq, beq_iff_eq] at hsame
      rcases hsame with rfl | rfl
      · rw [hquote, Bool.true_or]
      · rfl
    simp only [feed, escape?, hself, if_true]
    rfl
  · rw [run_backslash hquote, beq_iff_eq.1 hfeed]
    rfl
  · rw [run_backslash hquote, beq_iff_eq.1 hreturn]
    rfl
  · rw [run_backslash hquote, beq_iff_eq.1 htab]
    rfl
  · rw [Bool.or_eq_true, beq_iff_eq, beq_iff_eq, not_or] at hsame
    exact run_printable hprintable hsame.1 hsame.2
  · rw [run_backslash hquote]
    exact run_coded rfl hshort
  · rw [run_backslash hquote]
    exact run_coded rfl hmiddle
  · rw [run_backslash hquote]
    exact run_coded rfl ((toNat_lt_of_valid c).trans (by decide))

theorem run_escapes (hquote : isQuote quote = true) (cs : List Char) :
    run ⟨place, .text quote done⟩ (cs.flatMap (escapeChar quote)) =
      some ⟨place, .text quote (cs.reverse ++ done)⟩ := by
  induction cs generalizing done with
  | nil => rfl
  | cons c cs ih =>
    rw [List.flatMap_cons, run_append, run_escapeChar hquote, Option.bind_some, ih,
      List.reverse_cons, List.append_assoc, List.singleton_append]

theorem isQuote_enclosingQuote (cs : List Char) : isQuote (enclosingQuote cs) = true := by
  unfold enclosingQuote
  split <;> rfl

/-- A quoted text stands for the text. -/
theorem run_quoteChars (cs : List Char) (hrest : Delimited rest) :
    run ⟨place, .gap⟩ (quoteChars cs ++ rest) =
      (place.put (.text (String.ofList cs))).bind fun place => run ⟨place, .gap⟩ rest := by
  have hquote := isQuote_enclosingQuote cs
  have hopen : feed ⟨place, .gap⟩ (enclosingQuote cs) =
      some ⟨place, .text (enclosingQuote cs) []⟩ := by
    simp only [feed, hquote, if_true]
  have hclose : feed ⟨place, .text (enclosingQuote cs) cs.reverse⟩ (enclosingQuote cs) =
      (place.put (.text (String.ofList cs))).map fun place => ⟨place, .closed⟩ := by
    simp only [feed, beq_self_eq_true, if_true, List.reverse_reverse]
  unfold quoteChars
  rw [List.cons_append, run_cons, hopen, Option.bind_some, List.append_assoc, run_append,
    run_escapes hquote, Option.bind_some, List.append_nil, List.singleton_append, run_cons, hclose,
    Option.bind_map]
  exact Option.bind_congr fun _ _ => run_closed hrest

end DialogGraph.Literal

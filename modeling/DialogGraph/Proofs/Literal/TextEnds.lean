import DialogGraph.Proofs.Literal.Scanning

/-!
# Where the texts of a source end

A source is code with texts in it. Before a text the code may hold comments, and quotes in comments
open nothing. A text stands between single or double quotes, one or three on either side, and ends
at the first quotes like those that opened it. A backslash takes the next character along, whatever
it is, so a quote behind a backslash ends nothing. But not every character is an escape behind a
backslash: some are none, and some have to be followed by a code or by the name of a character.

A text that is quoted comes to its end at its last quote, with nothing but escapes behind its
backslashes. Of a text between three quotes that takes a line as it is, this is so just if the line
keeps it open and is in order itself.
-/

namespace DialogGraph.Literal

open DialogGraph.Text

/-! ### Texts -/

def longQuotes : List Char := List.replicate 3 doubleQuote

/-- Whether a character can stand in a text between these quotes. A text between single ones ends on
its line. -/
def mayHold (quotes : List Char) (c : Char) : Bool :=
  c != '\x00' && (quotes.length != 1 || !(c == '\n' || c == '\r'))

/-- Puts characters before those that have been found. -/
def through (cs : List Char) (found : List Char × List Char) : List Char × List Char :=
  (cs ++ found.1, found.2)

/-- What is in a text up to the quotes at its end, and what follows these. -/
def upTo? (quotes : List Char) : List Char → Option (List Char × List Char)
  | '\\' :: c :: cs => if c == '\x00' then none else (upTo? quotes cs).map (through ['\\', c])
  | c :: cs =>
    if quotes.isPrefixOf (c :: cs) then some ([], (c :: cs).drop quotes.length)
    else if mayHold quotes c then (upTo? quotes cs).map (through [c])
    else none
  | [] => none

/-- What is in the text that starts here, and what follows it. -/
def text? : List Char → Option (List Char × List Char)
  | quote :: cs =>
    if [quote, quote].isPrefixOf cs then upTo? [quote, quote, quote] (cs.drop 2)
    else upTo? [quote] cs
  | [] => none

/-! ### Escapes -/

/-- The characters that are escapes by themselves: line ends, the backslash, quotes, letters for
control characters, and octal digits. -/
def plainEscapes : List Char :=
  ['\n', '\r', '\\', singleQuote, doubleQuote, 'a', 'b', 'f', 'n', 'r', 't', 'v'] ++
    ['0', '1', '2', '3', '4', '5', '6', '7']

def hexCode? : Nat → Nat → List Char → Option Nat
  | 0, value, _ => some value
  | _ + 1, _, [] => none
  | width + 1, value, c :: cs =>
    (hexValue? c).bind fun digit => hexCode? width (16 * value + digit) cs

/-- Whether the code of a character comes next. -/
def isCode (width : Nat) (cs : List Char) : Bool := (hexCode? width 0 cs).any (· < 0x110000)

/-- What comes before a closing brace. No name of a character has a backslash in it. -/
def upToBrace? : List Char → Option (List Char)
  | [] => none
  | c :: cs =>
    if c == '\x7d' then some []
    else if c == '\\' then none
    else (upToBrace? cs).map (c :: ·)

/-- Whether the name of a character comes next, in braces. -/
def isNamed (named : String → Bool) : List Char → Bool
  | '\x7b' :: cs => (upToBrace? cs).any fun name => named (String.ofList name)
  | _ => false

/-- Whether a backslash is an escape together with a character and those that follow. -/
def isEscape (named : String → Bool) (c : Char) (cs : List Char) : Bool :=
  match c with
  | 'x' => isCode 2 cs
  | 'u' => isCode 4 cs
  | 'U' => isCode 8 cs
  | 'N' => isNamed named cs
  | c => plainEscapes.contains c

/-- Whether all backslashes in a text are parts of escapes. What follows the letter of an escape has
no backslash in it, hence may be gone through again. -/
def escapesValid (named : String → Bool) : List Char → Bool
  | '\\' :: c :: cs => isEscape named c cs && escapesValid named cs
  | c :: cs => c != '\\' && escapesValid named cs
  | [] => true

/-! ### Sources -/

/-- The code up to the next text, and the source from there on. Quotes in a comment open no text. -/
def code (comment : Bool) : List Char → List Char × List Char
  | [] => ([], [])
  | c :: cs =>
    if isQuote c && !comment then ([], c :: cs)
    else through [c] (code (c == '#' || (comment && !(c == '\n' || c == '\r'))) cs)

/-- A text with the code before it. -/
structure Piece where
  code : List Char
  text : List Char
  deriving DecidableEq

/-- The first pieces of a source, and what follows them. A text with a letter directly before it is
of another sort, and nothing is said of it. -/
def pieces? : Nat → List Char → Option (List Piece × List Char)
  | 0, cs => some ([], cs)
  | n + 1, cs =>
    let (code, rest) := code false cs
    if code.getLast?.any Char.isAlpha then none
    else (text? rest).bind fun (text, rest) =>
      (pieces? n rest).map fun (pieces, rest) => (⟨code, text⟩ :: pieces, rest)

variable {quotes cs rest : List Char} {named : String → Bool}

/-! ### A text that takes a line as it is -/

/-- Whether a text between three quotes is still open behind these characters. -/
def keepsOpen : List Char → Bool
  | '\\' :: c :: cs => c != '\x00' && keepsOpen cs
  | c :: cs => !longQuotes.isPrefixOf (c :: cs) && c != '\x00' && keepsOpen cs
  | [] => true

@[simp]
theorem through_nil : through [] = id := rfl

@[simp]
theorem through_through (cs ds : List Char) (found : List Char × List Char) :
    through cs (through ds found) = through (cs ++ ds) found := by
  simp [through]

theorem upTo?_cons {c : Char} (hc : c ≠ '\\') (cs : List Char) :
    upTo? quotes (c :: cs) =
      if quotes.isPrefixOf (c :: cs) then some ([], (c :: cs).drop quotes.length)
      else if mayHold quotes c then (upTo? quotes cs).map (through [c])
      else none := by
  rw [upTo?]
  exact fun _ _ hsame => absurd hsame hc

theorem text?_longQuotes (cs : List Char) : text? (longQuotes ++ cs) = upTo? longQuotes cs := rfl

theorem upTo?_longQuotes (cs : List Char) : upTo? longQuotes (longQuotes ++ cs) = some ([], cs) :=
  rfl

/-- What stands behind a character that quotes do not have makes no difference to them. -/
theorem isPrefixOf_append_cons {c : Char} (hc : c ∉ quotes) (cs rest : List Char) :
    quotes.isPrefixOf (cs ++ c :: rest) = quotes.isPrefixOf cs := by
  induction quotes generalizing cs with
  | nil => simp
  | cons quote quotes ih =>
    rw [List.mem_cons, not_or] at hc
    obtain ⟨hne, hmore⟩ := hc
    cases cs with
    | nil => simp [List.isPrefixOf, Ne.symm hne]
    | cons d cs => simp [List.isPrefixOf, ih hmore]

theorem mayHold_longQuotes (c : Char) : mayHold longQuotes c = (c != '\x00') := by
  simp [mayHold, longQuotes]

theorem eq_nil_of_lone {c : Char} (hc : ∀ d ds, c = '\\' → cs = d :: ds → False)
    (hbackslash : c = '\\') : cs = [] := by
  cases cs with
  | nil => rfl
  | cons d ds => exact (hc d ds hbackslash rfl).elim

/-- In a line a character is gone through by itself, unless it is a backslash with another behind. A
backslash at the end takes the end of the line along, but that would be gone through anyway. -/
theorem upTo?_line_cons {c : Char} (hc : ∀ d ds, c = '\\' → cs = d :: ds → False)
    (rest : List Char) :
    upTo? longQuotes (c :: cs ++ '\n' :: rest) =
      if longQuotes.isPrefixOf (c :: cs) then some ([], (c :: cs ++ '\n' :: rest).drop 3)
      else if c == '\x00' then none
      else (upTo? longQuotes (cs ++ '\n' :: rest)).map (through [c]) := by
  by_cases hbackslash : c = '\\'
  · obtain rfl := eq_nil_of_lone hc hbackslash
    have hfeed : upTo? longQuotes ('\n' :: rest) =
        (upTo? longQuotes rest).map (through ['\n']) := rfl
    rw [hbackslash, List.nil_append, hfeed, Option.map_map]
    rfl
  · have hsame : longQuotes.isPrefixOf (c :: cs ++ '\n' :: rest) =
        longQuotes.isPrefixOf (c :: cs) := isPrefixOf_append_cons (by decide) _ _
    rw [List.cons_append] at hsame ⊢
    rw [upTo?_cons hbackslash, hsame, mayHold_longQuotes]
    by_cases hzero : c = '\x00' <;> simp [hzero, longQuotes]

/-- A line that keeps a text open is gone through to its end. -/
theorem upTo?_line (hopen : keepsOpen cs = true) (rest : List Char) :
    upTo? longQuotes (cs ++ '\n' :: rest) =
      (upTo? longQuotes rest).map (through (cs ++ ['\n'])) := by
  fun_induction keepsOpen cs with
  | case1 c cs ih =>
    obtain ⟨hc, hopen⟩ := Bool.and_eq_true_iff.1 hopen
    rw [List.cons_append, List.cons_append, upTo?, if_neg (by simpa using hc), ih hopen]
    simp [Function.comp_def]
  | case2 c cs hother ih =>
    simp only [Bool.and_eq_true, Bool.not_eq_true', bne_iff_ne] at hopen
    obtain ⟨⟨hquotes, hc⟩, hopen⟩ := hopen
    rw [upTo?_line_cons hother, hquotes, if_neg Bool.false_ne_true, if_neg (by simpa using hc),
      ih hopen]
    simp [Function.comp_def]
  | case3 => rfl

theorem through_inj {more after : List Char} {found : List Char × List Char}
    (hfound : through cs found = (cs ++ more, after)) : found = (more, after) := by
  obtain ⟨htext, hafter⟩ := Prod.mk.inj hfound
  exact Prod.ext (List.append_cancel_left htext) hafter

/-- A text that goes on behind a line was open there. -/
theorem keepsOpen_of_upTo? {more after : List Char}
    (hfound : upTo? longQuotes (cs ++ '\n' :: rest) = some (cs ++ '\n' :: more, after)) :
    keepsOpen cs = true := by
  fun_induction keepsOpen cs with
  | case1 c cs ih =>
    rw [List.cons_append, List.cons_append, upTo?] at hfound
    split_ifs at hfound with hc
    obtain ⟨found, hmore, hsame⟩ := Option.map_eq_some_iff.1 hfound
    obtain rfl := through_inj hsame
    rw [ih hmore, Bool.and_true]
    simpa using hc
  | case2 c cs hother ih =>
    rw [upTo?_line_cons hother] at hfound
    split_ifs at hfound with hquotes hc
    · cases hfound
    · obtain ⟨found, hmore, hsame⟩ := Option.map_eq_some_iff.1 hfound
      obtain rfl := through_inj hsame
      simpa [hquotes, ih hmore] using hc
  | case3 => rfl

/-! ### Characters without a part to play -/

/-- Whether a character neither ends the text between these quotes nor begins an escape. -/
def IsPlain (quotes : List Char) (c : Char) : Prop :=
  mayHold quotes c = true ∧ c ≠ '\\' ∧ quotes.head? ≠ some c

instance (quotes : List Char) (c : Char) : Decidable (IsPlain quotes c) :=
  inferInstanceAs (Decidable (_ ∧ _ ∧ _))

theorem upTo?_plain (hquotes : quotes ≠ []) (hcs : ∀ c ∈ cs, IsPlain quotes c)
    (rest : List Char) : upTo? quotes (cs ++ rest) = (upTo? quotes rest).map (through cs) := by
  induction cs with
  | nil => simp
  | cons c cs ih =>
    obtain ⟨⟨hhold, hbackslash, hquote⟩, hmore⟩ := List.forall_mem_cons.1 hcs
    have hprefix : quotes.isPrefixOf (c :: (cs ++ rest)) = false := by
      cases quotes with
      | nil => exact absurd rfl hquotes
      | cons quote quotes =>
        have hne : quote ≠ c := fun hsame => hquote (congrArg some hsame)
        simp [List.isPrefixOf, hne]
    rw [List.cons_append, upTo?_cons hbackslash, hprefix, if_neg Bool.false_ne_true, if_pos hhold,
      ih hmore]
    simp [Function.comp_def]

theorem escapesValid_cons {c : Char} (hc : c ≠ '\\') (cs : List Char) :
    escapesValid named (c :: cs) = escapesValid named cs := by
  rw [escapesValid]
  · simp [hc]
  · exact fun _ _ hsame => absurd hsame hc

theorem escapesValid_append (hcs : '\\' ∉ cs) (rest : List Char) :
    escapesValid named (cs ++ rest) = escapesValid named rest := by
  induction cs with
  | nil => rfl
  | cons c cs ih =>
    rw [List.mem_cons, not_or] at hcs
    rw [List.cons_append, escapesValid_cons (Ne.symm hcs.1), ih hcs.2]

/-! ### Escapes in a line -/

/-- No code of a character goes beyond its line. -/
theorem hexCode?_line (width value : Nat) (cs rest : List Char) :
    hexCode? width value (cs ++ '\n' :: rest) = hexCode? width value (cs ++ ['\n']) := by
  induction width generalizing value cs with
  | zero => rfl
  | succ width ih =>
    cases cs with
    | nil => rfl
    | cons c cs =>
      rw [List.cons_append, List.cons_append, hexCode?, hexCode?]
      exact Option.bind_congr fun digit _ => ih _ cs

theorem upToBrace?_of_notMem (hcs : '\x7d' ∉ cs) : upToBrace? cs = none := by
  induction cs with
  | nil => rfl
  | cons c cs ih =>
    rw [List.mem_cons, not_or] at hcs
    rw [upToBrace?, if_neg (by simpa using Ne.symm hcs.1), ih hcs.2]
    simp

/-- Without a closing brace on the lines to come no name of a character goes beyond its line. -/
theorem upToBrace?_line (cs : List Char) (hrest : '\x7d' ∉ rest) :
    upToBrace? (cs ++ '\n' :: rest) = upToBrace? (cs ++ ['\n']) := by
  induction cs with
  | nil =>
    have hline : '\x7d' ∉ '\n' :: rest := by simpa using hrest
    exact upToBrace?_of_notMem hline
  | cons c cs ih => rw [List.cons_append, List.cons_append, upToBrace?, upToBrace?, ih]

theorem isEscape_line (c : Char) (cs : List Char) (hrest : '\x7d' ∉ rest) :
    isEscape named c (cs ++ '\n' :: rest) = isEscape named c (cs ++ ['\n']) := by
  have hcode : ∀ width, isCode width (cs ++ '\n' :: rest) = isCode width (cs ++ ['\n']) := by
    intro width
    rw [isCode, hexCode?_line, isCode]
  have hname : isNamed named (cs ++ '\n' :: rest) = isNamed named (cs ++ ['\n']) := by
    cases cs with
    | nil => rfl
    | cons d ds =>
      rw [List.cons_append, List.cons_append]
      by_cases hbrace : d = '\x7b'
      · rw [hbrace, isNamed, isNamed, upToBrace?_line ds hrest]
      · simp [isNamed, hbrace]
  unfold isEscape
  split
  · exact hcode 2
  · exact hcode 4
  · exact hcode 8
  · exact hname
  · rfl

/-- The escapes in a line do not depend on the lines to come, if there are no backslashes and
closing braces in these. -/
theorem escapesValid_line (cs : List Char) (hrest : '\\' ∉ rest) (hbrace : '\x7d' ∉ rest) :
    escapesValid named (cs ++ '\n' :: rest) = escapesValid named (cs ++ ['\n']) := by
  have hmore : escapesValid named rest = true := by
    have hend : escapesValid named (rest ++ []) = true := escapesValid_append hrest []
    rwa [List.append_nil] at hend
  fun_induction escapesValid named cs with
  | case1 c cs ih =>
    rw [List.cons_append, List.cons_append, escapesValid, isEscape_line c cs hbrace, ih]
    rfl
  | case2 c cs hother ih =>
    by_cases hbackslash : c = '\\'
    · obtain rfl := eq_nil_of_lone hother hbackslash
      rw [hbackslash]
      exact hmore
    · rw [List.cons_append, List.cons_append, escapesValid_cons hbackslash,
        escapesValid_cons hbackslash, ih]
  | case3 => exact hmore

/-! ### Quoted texts -/

variable {quote : Char}

def spelling (s : String) : List Char := s.toList.flatMap (escapeChar (enclosingQuote s.toList))

theorem toList_quote (s : String) : (Text.quote s).toList =
    enclosingQuote s.toList :: (spelling s ++ [enclosingQuote s.toList]) := String.toList_ofList

theorem eq_quote_of_isQuote (hquote : isQuote quote = true) :
    quote = singleQuote ∨ quote = doubleQuote := by
  simpa [isQuote] using hquote

theorem isPlain_hexDigit (hquote : isQuote quote = true) {d : Nat} (hd : d < 16) :
    IsPlain [quote] (hexDigit d) := by
  rcases eq_quote_of_isQuote hquote with rfl | rfl <;> revert d <;> decide

theorem isPlain_of_mem_hexDigits (hquote : isQuote quote = true) (width n : Nat) :
    ∀ c ∈ hexDigits width n, IsPlain [quote] c := by
  induction width with
  | zero => exact nofun
  | succ width ih =>
    exact List.forall_mem_cons.2 ⟨isPlain_hexDigit hquote (Nat.mod_lt _ (by decide)), ih⟩

theorem isPlain_of_isPrintable {c : Char} (hprintable : isPrintable c = true) (hquote : c ≠ quote)
    (hbackslash : c ≠ '\\') : IsPlain [quote] c := by
  have hother : ∀ d, isPrintable d = false → c ≠ d := by
    rintro d hd rfl
    rw [hprintable] at hd
    cases hd
  refine ⟨?_, hbackslash, fun hsame => hquote (Option.some.inj hsame).symm⟩
  simp [mayHold, hother _ (isPrintable_eq_false (.inl rfl)),
    hother _ (isPrintable_eq_false (.inr (.inl rfl))),
    hother _ (isPrintable_eq_false (.inr (.inr rfl)))]

/-- Digit by digit, what has been read of a code is the code without the digits that follow. -/
theorem hexCode?_hexDigits (width n : Nat) (rest : List Char) :
    hexCode? width (n / 16 ^ width) (hexDigits width n ++ rest) = some n := by
  induction width with
  | zero => simp [hexCode?]
  | succ width ih =>
    have hvalue : 16 * (n / 16 ^ (width + 1)) + n / Nat.pow 16 width % 16 = n / 16 ^ width := by
      rw [pow_succ, ← Nat.div_div_eq_div_mul, Nat.pow_eq]
      omega
    rw [hexDigits, List.cons_append, hexCode?, hexValue?_hexDigit (Nat.mod_lt _ (by decide)),
      Option.bind_some, hvalue, ih]

theorem isCode_hexDigits {width : Nat} {c : Char} (hc : c.toNat < 16 ^ width) (rest : List Char) :
    isCode width (hexDigits width c.toNat ++ rest) = true := by
  have hread := hexCode?_hexDigits width c.toNat rest
  rw [Nat.div_eq_of_lt hc] at hread
  rw [isCode, hread]
  simpa using toNat_lt_of_valid c

/-- What is written for a character: the character itself, or an escape with nothing behind its
letter that would end the text or begin another. -/
theorem escapeChar_cases (hquote : isQuote quote = true) (c : Char) :
    IsPlain [quote] c ∧ escapeChar quote c = [c] ∨
      ∃ letter digits, escapeChar quote c = '\\' :: letter :: digits ∧ letter ≠ '\x00' ∧
        (∀ d ∈ digits, IsPlain [quote] d) ∧
          ∀ named rest, isEscape named letter (digits ++ rest) = true := by
  have hdigits := fun width => isPlain_of_mem_hexDigits hquote width c.toNat
  unfold escapeChar
  split_ifs with hsame hfeed hreturn htab hprintable hshort hmiddle
  · have hmarks : c = singleQuote ∨ c = doubleQuote ∨ c = '\\' := by
      rw [Bool.or_eq_true, beq_iff_eq, beq_iff_eq] at hsame
      rcases hsame with rfl | rfl
      · exact (eq_quote_of_isQuote hquote).imp_right .inl
      · exact .inr (.inr rfl)
    have hzero : c ≠ '\x00' := by rcases hmarks with rfl | rfl | rfl <;> decide
    have hescape : ∀ named rest, isEscape named c rest = true := by
      intro named rest
      rcases hmarks with rfl | rfl | rfl <;> rfl
    exact .inr ⟨c, [], rfl, hzero, nofun, hescape⟩
  · exact .inr ⟨'n', [], rfl, by decide, nofun, fun _ _ => rfl⟩
  · exact .inr ⟨'r', [], rfl, by decide, nofun, fun _ _ => rfl⟩
  · exact .inr ⟨'t', [], rfl, by decide, nofun, fun _ _ => rfl⟩
  · rw [Bool.or_eq_true, beq_iff_eq, beq_iff_eq, not_or] at hsame
    exact .inl ⟨isPlain_of_isPrintable hprintable hsame.1 hsame.2, rfl⟩
  · exact .inr ⟨'x', _, rfl, by decide, hdigits 2, fun _ => isCode_hexDigits hshort⟩
  · exact .inr ⟨'u', _, rfl, by decide, hdigits 4, fun _ => isCode_hexDigits hmiddle⟩
  · have hlong : c.toNat < 16 ^ 8 := (toNat_lt_of_valid c).trans (by decide)
    exact .inr ⟨'U', _, rfl, by decide, hdigits 8, fun _ => isCode_hexDigits hlong⟩

theorem upTo?_escapeChar (hquote : isQuote quote = true) (c : Char) (rest : List Char) :
    upTo? [quote] (escapeChar quote c ++ rest) =
      (upTo? [quote] rest).map (through (escapeChar quote c)) := by
  have hone : [quote] ≠ [] := List.cons_ne_nil _ _
  rcases escapeChar_cases hquote c with
    ⟨hplain, hsame⟩ | ⟨letter, digits, hsame, hletter, hplain, -⟩
  · rw [hsame]
    exact upTo?_plain hone (List.forall_mem_singleton.2 hplain) rest
  · rw [hsame, List.cons_append, List.cons_append, upTo?, if_neg (by simpa using hletter),
      upTo?_plain hone hplain]
    simp [Function.comp_def]

theorem escapesValid_escapeChar (hquote : isQuote quote = true) (c : Char) (rest : List Char) :
    escapesValid named (escapeChar quote c ++ rest) = escapesValid named rest := by
  rcases escapeChar_cases hquote c with
    ⟨hplain, hsame⟩ | ⟨letter, digits, hsame, -, hplain, hescape⟩
  · rw [hsame, List.singleton_append, escapesValid_cons hplain.2.1]
  · rw [hsame, List.cons_append, List.cons_append, escapesValid, hescape, Bool.true_and]
    exact escapesValid_append (fun hmem => (hplain _ hmem).2.1 rfl) rest

theorem ne_backslash_of_isQuote (hquote : isQuote quote = true) : quote ≠ '\\' := by
  rintro rfl
  cases hquote

theorem upTo?_escapes (hquote : isQuote quote = true) (cs rest : List Char) :
    upTo? [quote] (cs.flatMap (escapeChar quote) ++ quote :: rest) =
      some (cs.flatMap (escapeChar quote), rest) := by
  induction cs with
  | nil =>
    rw [List.flatMap_nil, List.nil_append, upTo?_cons (ne_backslash_of_isQuote hquote)]
    simp [List.isPrefixOf]
  | cons c cs ih =>
    rw [List.flatMap_cons, List.append_assoc, upTo?_escapeChar hquote, ih]
    rfl

theorem escapesValid_spelling (s : String) : escapesValid named (spelling s) = true := by
  have hquote := isQuote_enclosingQuote s.toList
  rw [spelling]
  generalize enclosingQuote s.toList = quote at hquote ⊢
  induction s.toList with
  | nil => rfl
  | cons c cs ih => rwa [List.flatMap_cons, escapesValid_escapeChar hquote]

/-- No two quotes come first between the quotes of a text, unless it is empty and a quote follows
it. -/
theorem isPrefixOf_escapes (hquote : isQuote quote = true) (cs : List Char) {d : Char}
    (hd : isQuote d = false) (rest : List Char) :
    [quote, quote].isPrefixOf (cs.flatMap (escapeChar quote) ++ quote :: d :: rest) = false := by
  have hother : ∀ c, quote ≠ c → ∀ cs, [quote, quote].isPrefixOf (c :: cs) = false := by
    intro c hc cs
    simp [List.isPrefixOf, hc]
  cases cs with
  | nil =>
    have hne : quote ≠ d := by
      rintro rfl
      rw [hquote] at hd
      cases hd
    simp [List.isPrefixOf, hne]
  | cons c cs =>
    rw [List.flatMap_cons]
    rcases escapeChar_cases hquote c with ⟨hplain, hsame⟩ | ⟨letter, digits, hsame, -⟩
    · rw [hsame]
      exact hother c (fun hsame => hplain.2.2 (congrArg some hsame)) _
    · rw [hsame]
      exact hother '\\' (ne_backslash_of_isQuote hquote) _

/-- A quoted text is read up to its last quote. -/
theorem text?_quote (s : String) {c : Char} (hc : isQuote c = false) (rest : List Char) :
    text? ((Text.quote s).toList ++ c :: rest) = some (spelling s, c :: rest) := by
  have hquote := isQuote_enclosingQuote s.toList
  rw [toList_quote, List.cons_append, List.append_assoc, List.singleton_append, text?, spelling,
    isPrefixOf_escapes hquote s.toList hc rest, if_neg Bool.false_ne_true, upTo?_escapes hquote]

/-! ### Code -/

theorem code_quote (hquote : isQuote quote = true) (cs : List Char) :
    code false (quote :: cs) = ([], quote :: cs) := by
  simp [code, hquote]

theorem code_quoted (s : String) (rest : List Char) :
    code false ((Text.quote s).toList ++ rest) = ([], (Text.quote s).toList ++ rest) := by
  rw [toList_quote, List.cons_append]
  exact code_quote (isQuote_enclosingQuote s.toList) _

/-- Characters that open neither a text nor a comment. -/
theorem code_plain (hcs : ∀ c ∈ cs, isQuote c = false ∧ c ≠ '#') (rest : List Char) :
    code false (cs ++ rest) = through cs (code false rest) := by
  induction cs with
  | nil => rfl
  | cons c cs ih =>
    obtain ⟨⟨hquote, hne⟩, hmore⟩ := List.forall_mem_cons.1 hcs
    have hcomment : (c == '#') = false := beq_eq_false_iff_ne.2 hne
    rw [List.cons_append, code, hquote, hcomment, Bool.false_and, Bool.false_and, Bool.false_or,
      if_neg Bool.false_ne_true, ih hmore, through_through]
    rfl

theorem code_inComment (hcs : ∀ c ∈ cs, c ≠ '\n' ∧ c ≠ '\r') (rest : List Char) :
    code true (cs ++ '\n' :: rest) = through (cs ++ ['\n']) (code false rest) := by
  induction cs with
  | nil => rfl
  | cons c cs ih =>
    obtain ⟨⟨hfeed, hreturn⟩, hmore⟩ := List.forall_mem_cons.1 hcs
    have hline : (c == '\n' || c == '\r') = false := by simp [hfeed, hreturn]
    rw [List.cons_append, code, hline, Bool.not_true, Bool.and_false, Bool.not_false, Bool.and_true,
      Bool.or_true, if_neg Bool.false_ne_true, ih hmore, through_through]
    rfl

/-- A comment with the end of its line. -/
theorem code_comment (hcs : ∀ c ∈ cs, c ≠ '\n' ∧ c ≠ '\r') (rest : List Char) :
    code false ('#' :: (cs ++ '\n' :: rest)) =
      through ('#' :: (cs ++ ['\n'])) (code false rest) := by
  have hopens : code false ('#' :: (cs ++ '\n' :: rest)) =
      through ['#'] (code true (cs ++ '\n' :: rest)) := rfl
  rw [hopens, code_inComment hcs, through_through]
  rfl

/-! ### Pieces -/

/-- A source that starts with a piece. -/
theorem pieces?_succ {before texts text after : List Char} (hcode : code false cs = (before, texts))
    (hletter : before.getLast?.any Char.isAlpha = false)
    (htext : text? texts = some (text, after)) (n : Nat) :
    pieces? (n + 1) cs =
      (pieces? n after).map fun found => (⟨before, text⟩ :: found.1, found.2) := by
  rw [pieces?, hcode]
  dsimp only
  rw [hletter, if_neg Bool.false_ne_true, htext]
  rfl

/-- The text of the first piece is the one that starts behind the first code. -/
theorem text?_of_pieces? {n : Nat} {piece : Piece} {pieces : List Piece}
    (hpieces : pieces? (n + 1) cs = some (piece :: pieces, rest)) :
    ∃ after, text? (code false cs).2 = some (piece.text, after) := by
  rw [pieces?] at hpieces
  dsimp only at hpieces
  split_ifs at hpieces
  obtain ⟨⟨text, after⟩, htext, hfound⟩ := Option.bind_eq_some_iff.1 hpieces
  obtain ⟨⟨more, rest⟩, -, hsame⟩ := Option.map_eq_some_iff.1 hfound
  obtain ⟨rfl, -⟩ := List.cons.inj (Prod.mk.inj hsame).1
  exact ⟨after, htext⟩

end DialogGraph.Literal

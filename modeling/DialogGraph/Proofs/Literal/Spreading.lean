import DialogGraph.Proofs.Literal.Enclosing
import DialogGraph.Proofs.Text.Lines

/-!
# Values are read as written

A value is read from its literal on one line and from its literal spread over several lines. Spread
texts are broken into several literals, which only go together inside of brackets.

The literals hold no other line ends than the line feeds between their parts, hence they are the
same after they have been cut into lines and put together again.
-/

namespace DialogGraph.Literal

open DialogGraph.Number DialogGraph.Program DialogGraph.Text

/-- A text that stands for a value, or for none, with line feeds as its only line ends. -/
structure Writes (frames : List Frame) (line : String) (found : Option Value) : Prop where
  spells : Spells frames line.toList found
  feeds : OnlyFeeds line.toList

variable {frames : List Frame} {frame : Frame} {line : String}

/-! ### Line ends -/

theorem onlyFeeds_of_none {cs : List Char} (hcs : ∀ c ∈ cs, isLineEnd c = false) :
    OnlyFeeds cs := by
  intro c hc hend
  rw [hcs c hc] at hend
  cases hend

theorem isLineEnd_of_any {s : String} (hs : s.toList.any isLineEnd = false) :
    ∀ c ∈ s.toList, isLineEnd c = false :=
  fun c hc => Bool.eq_false_iff.2 (List.any_eq_false.1 hs c hc)

theorem isLineEnd_of_isPrintable {c : Char} (hprintable : isPrintable c = true) :
    isLineEnd c = false := by
  have hends : ∀ n ∈ [10, 11, 12, 13, 28, 29, 30, 0x85, 0x2028, 0x2029],
      isPrintable (Char.ofNat n) = false := by decide +kernel
  rw [Bool.eq_false_iff]
  intro hend
  have hmem : c.toNat ∈ [10, 11, 12, 13, 28, 29, 30, 0x85, 0x2028, 0x2029] := by
    simp [isLineEnd] at hend
    simp
    omega
  have hother := hends _ hmem
  rw [Char.ofNat_toNat, hprintable] at hother
  cases hother

theorem isLineEnd_of_mem_hexDigits {width n : Nat} {c : Char} (hc : c ∈ hexDigits width n) :
    isLineEnd c = false := by
  have hdigit : ∀ d < 16, isLineEnd (hexDigit d) = false := by decide
  induction width with
  | zero => cases hc
  | succ width ih =>
    rcases List.mem_cons.1 hc with rfl | hmore
    · exact hdigit _ (Nat.mod_lt _ (by decide))
    · exact ih hmore

theorem isLineEnd_of_isQuote {c : Char} (hquote : isQuote c = true) : isLineEnd c = false := by
  rw [isQuote, Bool.or_eq_true, beq_iff_eq, beq_iff_eq] at hquote
  rcases hquote with rfl | rfl <;> decide

theorem isLineEnd_of_mem_escapeChar {quote c d : Char} (hquote : isQuote quote = true)
    (hd : d ∈ escapeChar quote c) : isLineEnd d = false := by
  unfold escapeChar at hd
  split_ifs at hd with hsame hfeed hreturn htab hprintable hshort hmiddle
  · rw [Bool.or_eq_true, beq_iff_eq, beq_iff_eq] at hsame
    rcases List.mem_pair.1 hd with rfl | rfl
    · decide
    · rcases hsame with rfl | rfl
      · exact isLineEnd_of_isQuote hquote
      · decide
  · rcases List.mem_pair.1 hd with rfl | rfl <;> decide
  · rcases List.mem_pair.1 hd with rfl | rfl <;> decide
  · rcases List.mem_pair.1 hd with rfl | rfl <;> decide
  · rw [List.mem_singleton.1 hd]
    exact isLineEnd_of_isPrintable hprintable
  all_goals
    rcases List.mem_cons.1 hd with rfl | hd
    · decide
    · rcases List.mem_cons.1 hd with rfl | hd
      · decide
      · exact isLineEnd_of_mem_hexDigits hd

/-- Between quotes there is no line end. -/
theorem isLineEnd_of_mem_quote {s : String} {c : Char} (hc : c ∈ (quote s).toList) :
    isLineEnd c = false := by
  have hquote := isQuote_enclosingQuote s.toList
  rw [quote, String.toList_ofList, quoteChars, List.mem_cons, List.mem_append, List.mem_singleton,
    List.mem_flatMap] at hc
  rcases hc with rfl | ⟨d, -, hmem⟩ | rfl
  · exact isLineEnd_of_isQuote hquote
  · exact isLineEnd_of_mem_escapeChar hquote hmem
  · exact isLineEnd_of_isQuote hquote

theorem onlyFeeds_quoteChars (cs : List Char) : OnlyFeeds (quoteChars cs) := by
  refine onlyFeeds_of_none fun c hc => isLineEnd_of_mem_quote (s := String.ofList cs) ?_
  rwa [quote, String.toList_ofList, String.toList_ofList]

theorem isLineEnd_of_numeric {s : String} (hs : Numeric s) :
    ∀ c ∈ s.toList, isLineEnd c = false := by
  intro c hc
  have hnumber := hs c hc
  simp only [isNumberChar, Bool.or_eq_true, beq_iff_eq] at hnumber
  rcases hnumber with (((hdigit | rfl) | rfl) | rfl) | rfl
  · have hbounds := toNat_bounds_of_isDigit hdigit
    simp [isLineEnd]
    omega
  all_goals decide

/-- Brackets around parts, with commas between them. -/
theorem isLineEnd_of_enclosed {opening closing : String} {parts : List String}
    (hopening : opening.toList.any isLineEnd = false)
    (hclosing : closing.toList.any isLineEnd = false)
    (hparts : ∀ part ∈ parts, ∀ c ∈ part.toList, isLineEnd c = false) :
    ∀ c ∈ (opening ++ ", ".intercalate parts ++ closing).toList, isLineEnd c = false := by
  rw [String.toList_append, String.toList_append, String.toList_intercalate]
  refine List.forall_mem_append.2 ⟨List.forall_mem_append.2 ⟨?_, ?_⟩, ?_⟩
  · exact isLineEnd_of_any hopening
  · exact forall_mem_intercalate (isLineEnd_of_any (s := ", ") (by decide))
      (List.forall_mem_map.2 hparts)
  · exact isLineEnd_of_any hclosing

mutual

/-- No line ends within a value that is written on one line. -/
theorem isLineEnd_of_quoted : ∀ {value : Value} {line : String}, value.quoted = .ok line →
    ∀ c ∈ line.toList, isLineEnd c = false
  | .null, line, hline => by
    obtain rfl := Except.ok.inj hline
    exact isLineEnd_of_any (by decide)
  | .bool true, line, hline => by
    obtain rfl := Except.ok.inj hline
    exact isLineEnd_of_any (by decide)
  | .bool false, line, hline => by
    obtain rfl := Except.ok.inj hline
    exact isLineEnd_of_any (by decide)
  | .int n, line, hline => by
    obtain ⟨-, rfl⟩ := integerText_eq_ok hline
    exact isLineEnd_of_numeric (numeric_intText n)
  | .real x, line, hline => by
    obtain rfl := Except.ok.inj hline
    by_cases hfinite : x.value.isFinite = true
    · obtain ⟨d, hdecode⟩ := isFinite_iff.1 hfinite
      exact isLineEnd_of_numeric (numeric_realText hdecode)
    · have hnames : ∀ s ∈ ["nan", "inf", "-inf"], s.toList.any isLineEnd = false := by decide
      exact isLineEnd_of_any (hnames _ (realText_mem_names hfinite))
  | .text s, line, hline => by
    obtain rfl := Except.ok.inj hline
    exact fun _ => isLineEnd_of_mem_quote
  | .list items, line, hline => by
    rw [Value.quoted, bind_eq_ok_iff] at hline
    obtain ⟨parts, hparts, hsame⟩ := hline
    obtain rfl := Except.ok.inj hsame
    exact isLineEnd_of_enclosed (by decide) (by decide) (isLineEnd_of_quotedItems hparts)
  | .record fields, line, hline => by
    rw [Value.quoted, bind_eq_ok_iff] at hline
    obtain ⟨parts, hparts, hsame⟩ := hline
    obtain rfl := Except.ok.inj hsame
    exact isLineEnd_of_enclosed (by decide) (by decide) (isLineEnd_of_quotedFields hparts)

theorem isLineEnd_of_quotedItems : ∀ {items : List Value} {parts : List String},
    Value.quotedItems items = .ok parts → ∀ part ∈ parts, ∀ c ∈ part.toList, isLineEnd c = false
  | [], parts, hparts => by
    obtain rfl := Except.ok.inj hparts
    exact nofun
  | item :: rest, parts, hparts => by
    rw [Value.quotedItems, bind_eq_ok_iff] at hparts
    obtain ⟨first, hfirst, hparts⟩ := hparts
    rw [bind_eq_ok_iff] at hparts
    obtain ⟨others, hothers, hsame⟩ := hparts
    obtain rfl := Except.ok.inj hsame
    exact List.forall_mem_cons.2 ⟨isLineEnd_of_quoted hfirst, isLineEnd_of_quotedItems hothers⟩

theorem isLineEnd_of_quotedFields : ∀ {fields : Fields} {parts : List String},
    Value.quotedFields fields = .ok parts → ∀ part ∈ parts, ∀ c ∈ part.toList, isLineEnd c = false
  | [], parts, hparts => by
    obtain rfl := Except.ok.inj hparts
    exact nofun
  | (key, value) :: rest, parts, hparts => by
    rw [Value.quotedFields, bind_eq_ok_iff] at hparts
    obtain ⟨first, hfirst, hparts⟩ := hparts
    rw [bind_eq_ok_iff] at hparts
    obtain ⟨others, hothers, hsame⟩ := hparts
    obtain rfl := Except.ok.inj hsame
    refine List.forall_mem_cons.2 ⟨?_, isLineEnd_of_quotedFields hothers⟩
    rw [String.toList_append, String.toList_append]
    refine List.forall_mem_append.2 ⟨List.forall_mem_append.2 ⟨?_, ?_⟩, ?_⟩
    · exact fun _ => isLineEnd_of_mem_quote
    · exact isLineEnd_of_any (by decide)
    · exact isLineEnd_of_quoted hfirst

end

/-! ### Values on one line -/

theorem writes_quote (s : String) : Writes frames (quote s) (some (.text s)) where
  spells := spells_quote s
  feeds := onlyFeeds_of_none fun _ => isLineEnd_of_mem_quote

theorem writes_scalar {value : Value} {essence : Essence} (hscalar : value.essence? = some essence)
    (hline : value.quoted = .ok line) : Writes frames line value.literal? := by
  refine ⟨?_, onlyFeeds_of_none (isLineEnd_of_quoted hline)⟩
  cases value with
  | null =>
    obtain rfl := Except.ok.inj hline
    exact spells_word (by decide) (by decide)
  | bool b =>
    cases b
    all_goals
      obtain rfl := Except.ok.inj hline
      exact spells_word (by decide) (by decide)
  | int n => exact spells_int hline
  | real x =>
    obtain rfl := Except.ok.inj hline
    exact spells_real x
  | text s =>
    obtain rfl := Except.ok.inj hline
    exact spells_quote s
  | list items => cases hscalar
  | record fields => cases hscalar

variable {separator : String} {parts : List String} {items : List Value} {fields : Fields}

theorem IsSeparator.onlyFeeds (hseparator : IsSeparator separator) :
    OnlyFeeds separator.toList := by
  obtain ⟨blanks, hcs, hblanks⟩ := hseparator
  rw [hcs]
  intro c hc hend
  rcases List.mem_cons.1 hc with rfl | hc
  · cases hend
  · rcases hblanks c hc with rfl | rfl
    · cases hend
    · rfl

/-- Brackets around parts, with a separator between two of them. -/
theorem onlyFeeds_enclosed {opening closing : String} (hopening : OnlyFeeds opening.toList)
    (hclosing : OnlyFeeds closing.toList) (hseparator : IsSeparator separator)
    (hparts : ∀ part ∈ parts, OnlyFeeds part.toList) :
    OnlyFeeds (opening ++ separator.intercalate parts ++ closing).toList := by
  rw [String.toList_append, String.toList_append, String.toList_intercalate]
  refine (hopening.append (hseparator.onlyFeeds.intercalate ?_)).append hclosing
  exact List.forall_mem_map.2 hparts

theorem forall_mem_of_forall₂ {α β : Type} {r : α → β → Prop} {p : β → Prop} {as : List α}
    {bs : List β} (hboth : List.Forall₂ r as bs) (hright : ∀ a b, r a b → p b) :
    ∀ b ∈ bs, p b := by
  induction hboth with
  | nil => exact nofun
  | cons hfirst _ ih => exact List.forall_mem_cons.2 ⟨hright _ _ hfirst, ih⟩

/-- The literal of an item, inside of a list. -/
def IsItem (item : Value) (part : String) : Prop :=
  ∀ frame frames, Writes (frame :: frames) part item.literal?

/-- The name of a field, a colon, and the literal of its value, inside of a record. -/
def IsField (field : String × Value) (part : String) : Prop :=
  ∃ line, part = quote field.1 ++ ": " ++ line ∧ IsItem field.2 line

theorem IsField.onlyFeeds {field : String × Value} {part : String} (hpart : IsField field part) :
    OnlyFeeds part.toList := by
  obtain ⟨line, rfl, hline⟩ := hpart
  rw [String.toList_append, String.toList_append, quote, String.toList_ofList]
  exact ((onlyFeeds_quoteChars _).append (by decide)).append (hline (.list []) []).feeds

theorem writes_list (hseparator : IsSeparator separator)
    (hparts : List.Forall₂ IsItem items parts) :
    Writes frames ("[" ++ separator.intercalate parts ++ "]") (Value.list items).literal? where
  spells := spells_list hseparator <|
    hparts.imp fun _ _ hpart frame frames => (hpart frame frames).spells
  feeds := onlyFeeds_enclosed (by decide) (by decide) hseparator <|
    forall_mem_of_forall₂ hparts fun _ _ hpart => (hpart (.list []) []).feeds

theorem writes_record (hseparator : IsSeparator separator) (hnodup : (Assoc.keys fields).Nodup)
    (hparts : List.Forall₂ IsField fields parts) :
    Writes frames (openBrace ++ separator.intercalate parts ++ closeBrace)
      (Value.record fields).literal? where
  spells := by
    refine spells_record hseparator hnodup (hparts.imp fun field part hpart => ?_)
    obtain ⟨line, hsame, hline⟩ := hpart
    exact ⟨line, hsame, fun frame frames => (hline frame frames).spells⟩
  feeds := onlyFeeds_enclosed (by decide) (by decide) hseparator <|
    forall_mem_of_forall₂ hparts fun _ _ hpart => hpart.onlyFeeds

theorem forall₂_of_quotedItems (hparts : Value.quotedItems items = .ok parts) :
    List.Forall₂ (fun item part => item.quoted = .ok part) items parts := by
  induction items generalizing parts with
  | nil =>
    obtain rfl := Except.ok.inj hparts
    exact .nil
  | cons item items ih =>
    rw [Value.quotedItems, bind_eq_ok_iff] at hparts
    obtain ⟨first, hfirst, hrest⟩ := hparts
    rw [bind_eq_ok_iff] at hrest
    obtain ⟨others, hothers, hsame⟩ := hrest
    obtain rfl := Except.ok.inj hsame
    exact .cons hfirst (ih hothers)

theorem forall₂_of_quotedFields (hparts : Value.quotedFields fields = .ok parts) :
    List.Forall₂ (fun field part => ∃ line, part = quote field.1 ++ ": " ++ line ∧
      field.2.quoted = .ok line) fields parts := by
  induction fields generalizing parts with
  | nil =>
    obtain rfl := Except.ok.inj hparts
    exact .nil
  | cons field fields ih =>
    rw [Value.quotedFields, bind_eq_ok_iff] at hparts
    obtain ⟨first, hfirst, hrest⟩ := hparts
    rw [bind_eq_ok_iff] at hrest
    obtain ⟨others, hothers, hsame⟩ := hrest
    obtain rfl := Except.ok.inj hsame
    exact .cons ⟨first, rfl, hfirst⟩ (ih hothers)

theorem isSeparator_blank : IsSeparator ", " := ⟨[' '], rfl, by simp⟩

/-- A value is read from its literal on one line. -/
theorem writes_quoted {value : Value} (hkeyed : value.Keyed) (hline : value.quoted = .ok line) :
    Writes frames line value.literal? := by
  induction hkeyed generalizing line frames with
  | scalar hscalar => exact writes_scalar hscalar hline
  | list hitems ih =>
    rw [Value.quoted, bind_eq_ok_iff] at hline
    obtain ⟨parts, hparts, hsame⟩ := hline
    obtain rfl := Except.ok.inj hsame
    have hall := (List.forall₂_and_left _ _).2 ⟨ih, forall₂_of_quotedItems hparts⟩
    exact writes_list isSeparator_blank (hall.imp fun _ _ h _ _ => h.1 h.2)
  | record hnodup hfields ih =>
    rw [Value.quoted, bind_eq_ok_iff] at hline
    obtain ⟨parts, hparts, hsame⟩ := hline
    obtain rfl := Except.ok.inj hsame
    have hall := (List.forall₂_and_left _ _).2 ⟨ih, forall₂_of_quotedFields hparts⟩
    refine writes_record isSeparator_blank hnodup (hall.imp fun field part h => ?_)
    obtain ⟨hread, line, hpart, hline⟩ := h
    exact ⟨line, hpart, fun _ _ => hread hline⟩

/-! ### Values over several lines -/

theorem toList_breakTo (column : Nat) :
    (breakTo column).toList = '\n' :: List.replicate column ' ' := by
  simp [breakTo]

theorem mem_breakTo {column : Nat} : ∀ c ∈ (breakTo column).toList, c = ' ' ∨ c = '\n' := by
  intro c hc
  rw [toList_breakTo] at hc
  rcases List.mem_cons.1 hc with hfeed | hblank
  · exact .inr hfeed
  · exact .inl (List.eq_of_mem_replicate hblank)

theorem isSeparator_break (column : Nat) : IsSeparator ("," ++ breakTo column) :=
  ⟨(breakTo column).toList, by simp, mem_breakTo⟩

theorem flatten_packWords (limit lastLimit : Nat) (done : List (List Char)) (chunk : List Char)
    (pieces : List (List Char)) :
    (packWords limit lastLimit done chunk pieces).flatten =
      done.reverse.flatten ++ chunk ++ pieces.flatten := by
  have hpush : ∀ done : List (List Char), ∀ chunk : List Char,
      (if chunk.isEmpty then done else chunk :: done).reverse.flatten =
        done.reverse.flatten ++ chunk := by
    intro done chunk
    split_ifs with hempty
    · simp [List.isEmpty_iff.1 hempty]
    · simp
  induction pieces generalizing done chunk with
  | nil => rw [packWords, hpush, List.flatten_nil, List.append_nil]
  | cons word rest ih =>
    rw [packWords]
    generalize (if rest.isEmpty then lastLimit else limit) = room
    split
    · rw [ih, List.flatten_cons, ← List.append_assoc, ← List.append_assoc]
    · rw [ih, hpush, List.flatten_cons, List.append_assoc _ word]

/-- The chunks of a text make up the text. -/
theorem flatten_chunksOf (limit lastLimit : Nat) (pieces : List (List Char)) :
    (chunksOf limit lastLimit pieces).flatten = pieces.flatten := by
  induction pieces with
  | nil => rfl
  | cons piece rest ih =>
    rw [chunksOf]
    generalize (if rest.isEmpty then lastLimit else limit) = room
    rw [List.flatten_append, ih, List.flatten_cons]
    split
    · rw [List.flatten_singleton]
    · rw [flatten_packWords, flatten_words]
      rfl

/-- Texts that stand below each other in brackets are read as one. -/
theorem run_chunks (column : Nat) {rest : List Char} (hrest : Delimited rest)
    {chunks : List (List Char)} (hchunks : chunks ≠ []) {stage : Stage} {s : String}
    (hput : ∀ t, (Place.mk (frame :: frames) stage).put (.text t) =
      some ⟨frame :: frames, .after (.text (s ++ t))⟩) :
    run ⟨⟨frame :: frames, stage⟩, .gap⟩
        ((breakTo column).toList.intercalate (chunks.map quoteChars) ++ rest) =
      run ⟨⟨frame :: frames, .after (.text (s ++ String.ofList chunks.flatten))⟩, .gap⟩ rest := by
  induction chunks generalizing stage s with
  | nil => exact absurd rfl hchunks
  | cons chunk chunks ih =>
    cases chunks with
    | nil =>
      rw [List.map_singleton, List.intercalate_singleton, run_quoteChars _ hrest, hput,
        List.flatten_singleton]
      rfl
    | cons other others =>
      have hbreak : Delimited ((breakTo column).toList ++
          ((breakTo column).toList.intercalate ((other :: others).map quoteChars) ++ rest)) := by
        rw [toList_breakTo]
        exact .mark (by decide)
      have hnext : ∀ t, (Place.mk (frame :: frames)
          (.after (.text (s ++ String.ofList chunk)))).put (.text t) =
            some ⟨frame :: frames, .after (.text (s ++ String.ofList chunk ++ t))⟩ := fun _ => rfl
      rw [List.map_cons, List.map_cons, List.intercalate_cons_cons, List.append_assoc,
        List.append_assoc, ← List.map_cons, run_quoteChars _ hbreak, hput, Option.bind_some,
        run_blanks mem_breakTo, ih (List.cons_ne_nil _ _) hnext, String.append_assoc,
        ← String.ofList_append, ← List.flatten_cons]

theorem writes_spreadText (column after : Nat) (s : String) :
    Writes (frame :: frames) (spreadText column after s) (some (.text s)) := by
  have hflatten := flatten_chunksOf (lineWidth - column) (lineWidth - column - after)
    (lines s.toList)
  rw [flatten_lines] at hflatten
  unfold spreadText
  dsimp only
  generalize chunksOf (lineWidth - column) (lineWidth - column - after) (lines s.toList) = chunks
    at hflatten ⊢
  cases chunks with
  | nil => exact writes_quote s
  | cons chunk chunks =>
    dsimp only
    have htext : ((breakTo column).intercalate
        ((chunk :: chunks).map fun chunk => String.ofList (quoteChars chunk))).toList =
          (breakTo column).toList.intercalate ((chunk :: chunks).map quoteChars) := by
      rw [String.toList_intercalate, List.map_map]
      exact congrArg _ (List.map_congr_left fun _ _ => String.toList_ofList)
    constructor
    · intro stage hstage rest hrest
      have hput : ∀ t, (Place.mk (frame :: frames) stage).put (.text t) =
          some ⟨frame :: frames, .after (.text ("" ++ t))⟩ := by
        intro t
        rw [put_open hstage, String.empty_append]
      rw [htext, run_chunks column hrest (List.cons_ne_nil _ _) hput, hflatten,
        String.empty_append, String.ofList_toList, Option.bind_some]
    · rw [htext]
      refine OnlyFeeds.intercalate ?_ (List.forall_mem_map.2 fun _ _ => onlyFeeds_quoteChars _)
      intro c hc hend
      rcases mem_breakTo c hc with rfl | rfl
      · cases hend
      · rfl

/-- A value is written on one line, or it is a text, list or record that is spread over several. -/
theorem spread_cases {column after : Nat} {value : Value}
    (hspread : spread column after value = .ok line) :
    value.quoted = .ok line ∨
      (∃ s, value = .text s ∧ spreadText column after s = line) ∨
      (∃ items parts, value = .list items ∧
        spreadItems (column + 1) (after + 1) items = .ok parts ∧
          "[" ++ ("," ++ breakTo (column + 1)).intercalate parts ++ "]" = line) ∨
      ∃ fields parts, value = .record fields ∧
        spreadFields (column + 1) (after + 1) fields = .ok parts ∧
          openBrace ++ ("," ++ breakTo (column + 1)).intercalate parts ++ closeBrace = line := by
  rw [spread, bind_eq_ok_iff] at hspread
  obtain ⟨short, hshort, hspread⟩ := hspread
  split at hspread
  · exact .inl (hshort.trans hspread)
  · split at hspread
    · exact .inr (.inl ⟨_, rfl, Except.ok.inj hspread⟩)
    · rename_i items
      rw [bind_eq_ok_iff] at hspread
      obtain ⟨parts, hparts, hsame⟩ := hspread
      exact .inr (.inr (.inl ⟨items, parts, rfl, hparts, Except.ok.inj hsame⟩))
    · rename_i fields
      rw [bind_eq_ok_iff] at hspread
      obtain ⟨parts, hparts, hsame⟩ := hspread
      exact .inr (.inr (.inr ⟨fields, parts, rfl, hparts, Except.ok.inj hsame⟩))
    · exact .inl (hshort.trans hspread)

theorem forall₂_of_spreadItems {column after : Nat}
    (hparts : spreadItems column after items = .ok parts) :
    List.Forall₂ (fun item part => ∃ column after, spread column after item = .ok part)
      items parts := by
  induction items generalizing parts with
  | nil =>
    obtain rfl := Except.ok.inj hparts
    exact .nil
  | cons item items ih =>
    rw [spreadItems, bind_eq_ok_iff] at hparts
    obtain ⟨first, hfirst, hrest⟩ := hparts
    rw [bind_eq_ok_iff] at hrest
    obtain ⟨others, hothers, hsame⟩ := hrest
    obtain rfl := Except.ok.inj hsame
    exact .cons ⟨_, _, hfirst⟩ (ih hothers)

theorem forall₂_of_spreadFields {column after : Nat}
    (hparts : spreadFields column after fields = .ok parts) :
    List.Forall₂ (fun field part => ∃ line, part = quote field.1 ++ ": " ++ line ∧
      ∃ column after, spread column after field.2 = .ok line) fields parts := by
  induction fields generalizing parts with
  | nil =>
    obtain rfl := Except.ok.inj hparts
    exact .nil
  | cons field fields ih =>
    rw [spreadFields, bind_eq_ok_iff] at hparts
    obtain ⟨first, hfirst, hrest⟩ := hparts
    rw [bind_eq_ok_iff] at hrest
    obtain ⟨others, hothers, hsame⟩ := hrest
    obtain rfl := Except.ok.inj hsame
    exact .cons ⟨first, rfl, _, _, hfirst⟩ (ih hothers)

/-- The literal of a record begins with its first key. -/
theorem exists_eq_of_spread_record {column after : Nat} {key : String} {value : Value}
    {rest : Fields} (hspread : spread column after (.record ((key, value) :: rest)) = .ok line) :
    ∃ tail, line = openBrace ++ (quote key ++ tail) := by
  have hparts : ∀ separator first others,
      ∃ tail, openBrace ++ String.intercalate separator ((quote key ++ ": " ++ first) :: others) ++
        closeBrace = openBrace ++ (quote key ++ tail) := by
    intro separator first others
    obtain ⟨tail, htail⟩ := exists_intercalate_cons separator (quote key ++ ": " ++ first) others
    exact ⟨": " ++ first ++ tail ++ closeBrace, by rw [htail]; simp only [String.append_assoc]⟩
  rcases spread_cases hspread with
    hline | ⟨s, hnone, -⟩ | ⟨items, parts, hnone, -⟩ | ⟨fields, parts, hsame, hfields, rfl⟩
  · rw [Value.quoted, bind_eq_ok_iff] at hline
    obtain ⟨parts, hquoted, hsame⟩ := hline
    obtain rfl := Except.ok.inj hsame
    rw [Value.quotedFields, bind_eq_ok_iff] at hquoted
    obtain ⟨first, -, hquoted⟩ := hquoted
    rw [bind_eq_ok_iff] at hquoted
    obtain ⟨others, -, hsame⟩ := hquoted
    obtain rfl := Except.ok.inj hsame
    exact hparts _ _ _
  · cases hnone
  · cases hnone
  · obtain rfl := Value.record.inj hsame
    rw [spreadFields, bind_eq_ok_iff] at hfields
    obtain ⟨first, -, hrest⟩ := hfields
    rw [bind_eq_ok_iff] at hrest
    obtain ⟨others, -, hsame⟩ := hrest
    obtain rfl := Except.ok.inj hsame
    exact hparts _ _ _

/-- A value is read from its literal, however that is spread over lines. A text has to stand inside
of brackets for this. -/
theorem writes_spread {value : Value} (hkeyed : value.Keyed) {column after : Nat}
    (hinside : frames ≠ [] ∨ value.isText = false)
    (hspread : spread column after value = .ok line) : Writes frames line value.literal? := by
  induction hkeyed generalizing column after line frames with
  | scalar hscalar =>
    rcases spread_cases hspread with
      hline | ⟨s, rfl, rfl⟩ | ⟨items, parts, rfl, -⟩ | ⟨fields, parts, rfl, -⟩
    · exact writes_scalar hscalar hline
    · obtain ⟨frame, frames, rfl⟩ := List.exists_cons_of_ne_nil (hinside.resolve_right nofun)
      exact writes_spreadText column after s
    · cases hscalar
    · cases hscalar
  | list hitems ih =>
    rcases spread_cases hspread with
      hline | ⟨s, hnone, -⟩ | ⟨items, parts, hsame, hparts, rfl⟩ | ⟨fields, parts, hnone, -⟩
    · exact writes_quoted (.list hitems) hline
    · cases hnone
    · obtain rfl := Value.list.inj hsame
      have hall := (List.forall₂_and_left _ _).2 ⟨ih, forall₂_of_spreadItems hparts⟩
      refine writes_list (isSeparator_break _) (hall.imp fun item part h frame frames => ?_)
      obtain ⟨hread, column, after, hpart⟩ := h
      exact hread (.inl (List.cons_ne_nil _ _)) hpart
    · cases hnone
  | record hnodup hfields ih =>
    rcases spread_cases hspread with
      hline | ⟨s, hnone, -⟩ | ⟨items, parts, hnone, -⟩ | ⟨fields, parts, hsame, hparts, rfl⟩
    · exact writes_quoted (.record hnodup hfields) hline
    · cases hnone
    · cases hnone
    · obtain rfl := Value.record.inj hsame
      have hall := (List.forall₂_and_left _ _).2 ⟨ih, forall₂_of_spreadFields hparts⟩
      refine writes_record (isSeparator_break _) hnodup (hall.imp fun field part h => ?_)
      obtain ⟨hread, line, hpart, column, after, hline⟩ := h
      exact ⟨line, hpart, fun frame frames => hread (.inl (List.cons_ne_nil _ _)) hline⟩

end DialogGraph.Literal

import DialogGraph.Proofs.Literal.Spelling

/-!
# Lists and records are read as written

Between brackets stand parts with a comma and blanks between two of them. Each part is read as one
more item or field, whatever was read before it, hence all of them are read as the whole list or
record. This holds whether the parts stand on one line or each on a line of its own.
-/

namespace DialogGraph

open DialogGraph.Number DialogGraph.Text

namespace Literal

variable {frames : List Frame} {frame : Frame} {stage : Stage} {rest : List Char}

/-! ### Parts -/

/-- Inside of brackets blanks and line ends are passed over. -/
theorem run_blanks {blanks : List Char} (hblanks : ∀ c ∈ blanks, c = ' ' ∨ c = '\n') :
    run ⟨⟨frame :: frames, stage⟩, .gap⟩ (blanks ++ rest) =
      run ⟨⟨frame :: frames, stage⟩, .gap⟩ rest := by
  induction blanks with
  | nil => rfl
  | cons c blanks ih =>
    obtain ⟨hc, hmore⟩ := List.forall_mem_cons.1 hblanks
    rw [List.cons_append, ← ih hmore]
    rcases hc with rfl | rfl <;> rfl

/-- A comma with blanks or line ends behind it. -/
def IsSeparator (s : String) : Prop :=
  ∃ blanks, s.toList = ',' :: blanks ∧ ∀ c ∈ blanks, c = ' ' ∨ c = '\n'

variable {α β : Type} {list : List β → Frame} {behind : List β → β → Place}

/-- A part of a list or record that is read as one more item or field. -/
def Adds (frames : List Frame) (list : List β → Frame) (behind : List β → β → Place)
    (part : List Char) (found : Option β) : Prop :=
  ∀ done rest, Delimited rest → run ⟨⟨list done :: frames, .item⟩, .gap⟩ (part ++ rest) =
    found.bind fun b => run ⟨behind done b, .gap⟩ rest

/-- If each part is read as one more item or field, they are all read one after the other. -/
theorem run_parts {f : α → Option β} {items : List α} {parts : List String}
    (hparts : List.Forall₂ (fun a part => Adds frames list behind part.toList (f a)) items parts)
    (hcomma : ∀ done b, (behind done b).mark? ',' = some ⟨list (b :: done) :: frames, .item⟩)
    {close : Char} (hmark : close ∈ marks) (hclose : ∀ done b,
      (behind done b).mark? close = (Place.mk (list (b :: done) :: frames) .item).mark? close)
    {separator : String} (hseparator : IsSeparator separator)
    (done : List β) :
    run ⟨⟨list done :: frames, .item⟩, .gap⟩
        ((separator.intercalate parts).toList ++ close :: rest) =
      (items.mapM f).bind fun bs =>
        run ⟨⟨list (bs.reverse ++ done) :: frames, .item⟩, .gap⟩ (close :: rest) := by
  obtain ⟨blanks, hcs, hblanks⟩ := hseparator
  rw [String.toList_intercalate, hcs]
  induction hparts generalizing done with
  | nil => rfl
  | @cons a part items parts hpart hmore ih =>
    have hitems : (a :: items).mapM f =
        (f a).bind fun b => (items.mapM f).map (b :: ·) := by
      rw [List.mapM_cons]
      cases f a <;> cases items.mapM f <;> rfl
    rw [hitems, List.map_cons, Option.bind_assoc]
    cases hmore with
    | nil =>
      rw [List.map_nil, List.intercalate_singleton, hpart done _ (.mark hmark)]
      refine Option.bind_congr fun b _ => ?_
      rw [run_mark hmark, hclose, ← run_mark hmark]
      rfl
    | @cons _ other _ others _ _ =>
      rw [List.map_cons, List.intercalate_cons_cons, List.append_assoc, List.append_assoc,
        List.cons_append, hpart done _ (.mark (by decide))]
      refine Option.bind_congr fun b _ => ?_
      rw [run_mark (by decide), hcomma, Option.bind_some, run_blanks hblanks, ← List.map_cons, ih,
        Option.bind_map]
      simp only [Function.comp_def, List.reverse_cons, List.append_assoc, List.singleton_append]

/-! ### Lists and records -/

/-- A value behind its bracket. -/
theorem run_open {c : Char} (hc : c ∈ marks) (hframe : ∀ place : Place, place.mark? c =
    place.enter frame) (hstage : stage = .value ∨ stage = .item) :
    run ⟨⟨frames, stage⟩, .gap⟩ (c :: rest) = run ⟨⟨frame :: frames, .item⟩, .gap⟩ rest := by
  rw [run_mark hc, hframe]
  rcases hstage with rfl | rfl <;> rfl

variable {separator : String} {parts : List String}

theorem spells_list (hseparator : IsSeparator separator) {items : List Value}
    (hparts : List.Forall₂
      (fun item part => ∀ frame frames, Spells (frame :: frames) part.toList item.literal?)
      items parts) :
    Spells frames ("[" ++ separator.intercalate parts ++ "]").toList
      (Value.list items).literal? := by
  intro stage hstage rest hrest
  have hadds : List.Forall₂ (fun item part => Adds frames Frame.list
      (fun done value => ⟨.list done :: frames, .after value⟩) part.toList item.literal?)
      items parts := by
    refine hparts.imp fun item part hpart done rest hrest => ?_
    exact hpart _ _ .item (.inr rfl) rest hrest
  have htext : ("[" ++ separator.intercalate parts ++ "]").toList ++ rest =
      '[' :: ((separator.intercalate parts).toList ++ ']' :: rest) := by
    simp
  rw [htext, run_open (by decide) (fun _ => rfl) hstage,
    run_parts hadds (fun _ _ => rfl) (by decide) (fun _ _ => rfl) hseparator [],
    Value.literal?_list, Option.bind_map]
  refine Option.bind_congr fun values _ => ?_
  have hclose : (Place.mk (Frame.list (values.reverse ++ []) :: frames) .item).mark? ']' =
      some ⟨frames, .after (.list (values.reverse ++ []).reverse)⟩ := rfl
  rw [run_mark (by decide), hclose, List.append_nil, List.reverse_reverse]
  rfl

/-- Inside of brackets a name, a colon and the literal of a value are read as a field. -/
theorem adds_field {name : String} {line : String} {found : Option Value}
    (hline : ∀ frame frames, Spells (frame :: frames) line.toList found) :
    Adds frames Frame.record (fun done field => ⟨.field done field.1 :: frames, .after field.2⟩)
      (quote name ++ ": " ++ line).toList (found.map fun value => (name, value)) := by
  intro done rest hrest
  have htext : (quote name ++ ": " ++ line).toList ++ rest =
      (quote name).toList ++ ':' :: ' ' :: (line.toList ++ rest) := by
    simp
  have hname : run ⟨⟨.record done :: frames, .after (.text name)⟩, .gap⟩
      (':' :: ' ' :: (line.toList ++ rest)) =
        run ⟨⟨.field done name :: frames, .value⟩, .gap⟩ (line.toList ++ rest) := rfl
  rw [htext, spells_quote name _ (.inr rfl) _ (.mark (by decide)), Option.bind_some, hname,
    hline _ _ _ (.inl rfl) _ hrest, Option.bind_map]
  rfl

theorem keys_of_mapM_literalField? {fields saved : Fields}
    (hsaved : fields.mapM Value.literalField? = some saved) :
    Assoc.keys saved = Assoc.keys fields := by
  induction fields generalizing saved with
  | nil =>
    obtain rfl := Option.some.inj hsaved
    rfl
  | cons field fields ih =>
    rw [List.mapM_cons, Option.bind_eq_bind, Option.bind_eq_some_iff] at hsaved
    obtain ⟨first, hfirst, hrest⟩ := hsaved
    rw [Option.bind_eq_bind, Option.bind_eq_some_iff] at hrest
    obtain ⟨others, hothers, hsame⟩ := hrest
    obtain ⟨value, -, rfl⟩ := Option.map_eq_some_iff.1 hfirst
    obtain rfl := Option.some.inj hsame
    rw [Assoc.keys, List.map_cons, ← Assoc.keys, ih hothers]
    rfl

theorem spells_record (hseparator : IsSeparator separator) {fields : Fields}
    (hnodup : (Assoc.keys fields).Nodup)
    (hparts : List.Forall₂ (fun field part => ∃ line, part = quote field.1 ++ ": " ++ line ∧
      ∀ frame frames, Spells (frame :: frames) line.toList field.2.literal?) fields parts) :
    Spells frames (openBrace ++ separator.intercalate parts ++ closeBrace).toList
      (Value.record fields).literal? := by
  intro stage hstage rest hrest
  have hadds : List.Forall₂ (fun field part => Adds frames Frame.record
      (fun done field => ⟨.field done field.1 :: frames, .after field.2⟩) part.toList
      (Value.literalField? field)) fields parts := by
    refine hparts.imp fun field part hpart => ?_
    obtain ⟨line, rfl, hline⟩ := hpart
    exact adds_field hline
  have htext : (openBrace ++ separator.intercalate parts ++ closeBrace).toList ++ rest =
      '\x7b' :: ((separator.intercalate parts).toList ++ '\x7d' :: rest) := by
    simp [openBrace, closeBrace]
  rw [htext, run_open (by decide) (fun _ => rfl) hstage,
    run_parts hadds (fun _ _ => rfl) (by decide) (fun _ _ => rfl) hseparator [],
    Value.literal?_record, Option.bind_map]
  refine Option.bind_congr fun saved hsaved => ?_
  have hclose : (Place.mk (Frame.record (saved.reverse ++ []) :: frames) .item).mark? '\x7d' =
      some ⟨frames, .after (.record (Assoc.ofList (saved.reverse ++ []).reverse))⟩ := rfl
  rw [run_mark (by decide), hclose, List.append_nil, List.reverse_reverse,
    Assoc.ofList_of_nodup (keys_of_mapM_literalField? hsaved ▸ hnodup)]
  rfl

end Literal

end DialogGraph

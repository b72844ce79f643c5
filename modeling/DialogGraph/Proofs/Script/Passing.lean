import DialogGraph.Proofs.Script.Overlong

/-!
# One pass over a template

The slots of a template lie apart. Filling in replaces each slot with a bound name by the text of its
value, keeps every other character, and does not look at what it has put in. So a template may be
filled in piece by piece, as long as no slot is cut through.
-/

namespace DialogGraph.Template

variable {bindings : Fields} {cs front back before after name other : List Char}

/-- A name that can stand in a slot. -/
structure IsName (name : List Char) : Prop where
  ne_nil : name ≠ []
  plain : ∀ c ∈ name, c ≠ '\x7b' ∧ c ≠ '\x7d'

def slotText (name : List Char) : List Char := '\x7b' :: (name ++ ['\x7d'])

/-- A slot begins in front of a cut and ends behind it. -/
def CutsSlot (front back : List Char) : Prop :=
  ∃ before left right after, front = before ++ '\x7b' :: left ∧ back = right ++ '\x7d' :: after ∧
    IsName (left ++ right)

/-! ### Slots lie apart -/

/-- A slot ends at the first closing brace behind its beginning. -/
theorem slotText_append_inj (hname : IsName name) (hother : IsName other)
    (hsame : slotText name ++ back = slotText other ++ after) : name = other ∧ back = after := by
  have htake (n rest : List Char) (hn : IsName n) :
      (n ++ '\x7d' :: rest).takeWhile (· != '\x7d') = n := by
    rw [List.takeWhile_append_of_pos (by simpa using fun c hc => (hn.plain c hc).2)]
    simp
  have hrest : name ++ '\x7d' :: back = other ++ '\x7d' :: after := by
    simpa [slotText] using hsame
  have heq : name = other := by
    rw [← htake name back hname, hrest, htake other after hother]
  subst heq
  exact ⟨rfl, by simpa using hrest⟩

/-- A slot that begins behind the beginning of another one begins behind its end. -/
theorem slotText_prefix (hname : IsName name) {gap : List Char} (hgap : gap ≠ [])
    (hsame : slotText name ++ back = gap ++ (slotText other ++ after)) : slotText name <+: gap := by
  obtain ⟨first, gap, rfl⟩ := List.exists_cons_of_ne_nil hgap
  have hfirst : first = '\x7b' ∧ name ++ '\x7d' :: back = gap ++ (slotText other ++ after) := by
    simpa [slotText, eq_comm] using hsame
  obtain ⟨rfl, hrest⟩ := hfirst
  rcases List.append_eq_append_iff.1 hrest with ⟨rest, rfl, hback⟩ | ⟨rest, rfl, hback⟩
  · cases rest with
    | nil => simp [slotText] at hback
    | cons c rest =>
      obtain ⟨rfl, -⟩ : '\x7d' = c ∧ _ := List.cons_eq_cons.1 hback
      exact ⟨rest, by simp [slotText]⟩
  · cases rest with
    | nil => simp [slotText] at hback
    | cons c rest =>
      obtain ⟨rfl, -⟩ : '\x7b' = c ∧ _ := List.cons_eq_cons.1 hback
      exact absurd rfl (hname.plain '\x7b' (by simp)).1

/-- Two slots of a template are the same, or one ends before the other begins. -/
theorem slots_apart (hname : IsName name) (hother : IsName other)
    (hsame : front ++ (slotText name ++ back) = before ++ (slotText other ++ after)) :
    (front = before ∧ name = other ∧ back = after) ∨ front ++ slotText name <+: before ∨
      before ++ slotText other <+: front := by
  rcases List.append_eq_append_iff.1 hsame with ⟨gap, rfl, hrest⟩ | ⟨gap, rfl, hrest⟩
  · by_cases hgap : gap = []
    · subst hgap
      have hinj := slotText_append_inj hname hother hrest
      exact .inl ⟨(List.append_nil front).symm, hinj⟩
    · have hprefix := slotText_prefix hname hgap hrest
      exact .inr (.inl ((List.prefix_append_right_inj front).2 hprefix))
  · by_cases hgap : gap = []
    · subst hgap
      have hinj := slotText_append_inj hother hname hrest
      exact .inl ⟨List.append_nil before, hinj.1.symm, hinj.2.symm⟩
    · have hprefix := slotText_prefix hother hgap hrest
      exact .inr (.inr ((List.prefix_append_right_inj before).2 hprefix))

/-! ### Cutting into pieces -/

theorem CutsSlot.mono (hcuts : CutsSlot front back) (more : List Char) :
    CutsSlot (more ++ front) back := by
  obtain ⟨before, left, right, after, rfl, hback, hname⟩ := hcuts
  exact ⟨more ++ before, left, right, after, (List.append_assoc ..).symm, hback, hname⟩

/-- A cut behind an opening brace goes through a slot when the brace is closed behind it. -/
theorem cutsSlot_iff_of_plain {left : List Char} (hleft : ∀ c ∈ left, c ≠ '\x7b' ∧ c ≠ '\x7d') :
    CutsSlot ('\x7b' :: left) cs ↔
      ∃ right after, cs = right ++ '\x7d' :: after ∧ IsName (left ++ right) := by
  constructor
  · rintro ⟨before, held, right, after, hfront, hback, hname⟩
    cases before with
    | nil =>
      obtain ⟨-, rfl⟩ : _ ∧ left = held := List.cons_eq_cons.1 hfront
      exact ⟨right, after, hback, hname⟩
    | cons first before =>
      obtain ⟨-, rfl⟩ : _ ∧ left = before ++ '\x7b' :: held := List.cons_eq_cons.1 hfront
      exact absurd rfl (hleft '\x7b' (by simp)).1
  · rintro ⟨right, after, hback, hname⟩
    exact ⟨[], left, right, after, rfl, hback, hname⟩

/-- The pieces that were cut already stay in front. -/
theorem piecesFrom_eq (done : List Piece) (held : Option (List Char)) (cs : List Char) :
    piecesFrom done held cs = done.reverse ++ piecesFrom [] held cs := by
  induction cs generalizing done held with
  | nil => cases held <;> simp [piecesFrom]
  | cons c rest ih =>
    cases held with
    | none =>
      by_cases hc : c = '\x7b'
      · simp only [piecesFrom, hc, beq_self_eq_true, if_true]
        exact ih done (some [])
      · simp only [piecesFrom, beq_eq_false_iff_ne.2 hc, Bool.false_eq_true, if_false]
        rw [ih (.plain c :: done) none, ih [.plain c] none]
        simp
    | some name =>
      simp only [piecesFrom]
      split_ifs
      · rw [ih _ (some []), ih (name.map Piece.plain ++ _) (some [])]
        simp
      · rw [ih _ none, ih [_, _] none]
        simp
      · rw [ih _ none, ih [_] none]
        simp
      · exact ih done (some (c :: name))

theorem pieces_plain_append (hfront : ∀ c ∈ front, c ≠ '\x7b') (cs : List Char) :
    pieces (front ++ cs) = front.map Piece.plain ++ pieces cs := by
  rw [pieces, piecesFrom_plain hfront, List.append_nil, piecesFrom_eq, List.reverse_reverse]
  rfl

theorem pieces_cons_plain {c : Char} (hc : c ≠ '\x7b') (cs : List Char) :
    pieces (c :: cs) = .plain c :: pieces cs := by
  have hfront : ∀ d ∈ [c], d ≠ '\x7b' := List.forall_mem_singleton.2 hc
  exact pieces_plain_append hfront cs

/-- What follows an opening brace stays as it is when the brace is never closed. -/
theorem piecesFrom_held {left : List Char} (hleft : ∀ c ∈ left, c ≠ '\x7b' ∧ c ≠ '\x7d')
    (hopen : ¬CutsSlot ('\x7b' :: left) cs) (done : List Piece) :
    piecesFrom done (some left.reverse) cs =
      done.reverse ++ (('\x7b' :: left).map Piece.plain ++ pieces cs) := by
  induction cs generalizing left done with
  | nil => simp [piecesFrom, pieces]
  | cons c rest ih =>
    by_cases hopening : c = '\x7b'
    · subst hopening
      have hpieces : pieces ('\x7b' :: rest) = piecesFrom [] (some []) rest := rfl
      rw [piecesFrom]
      simp only [beq_self_eq_true, if_true]
      rw [piecesFrom_eq, hpieces]
      simp
    by_cases hclosing : c = '\x7d'
    · subst hclosing
      -- the brace would close a slot if there were a name to close
      have hnil : left = [] := by
        by_contra hne
        have hname : IsName (left ++ []) := by
          rw [List.append_nil]
          exact ⟨hne, hleft⟩
        exact hopen ((cutsSlot_iff_of_plain hleft).2 ⟨[], rest, rfl, hname⟩)
      subst hnil
      rw [pieces_cons_plain hopening, piecesFrom]
      simp only [beq_eq_false_iff_ne.2 hopening, beq_self_eq_true, List.reverse_nil,
        List.isEmpty_nil, Bool.false_eq_true, if_true, if_false]
      rw [piecesFrom_eq]
      simp [pieces]
    · have hlonger : ∀ d ∈ left ++ [c], d ≠ '\x7b' ∧ d ≠ '\x7d' := by
        intro d hd
        rcases List.mem_append.1 hd with hd | hd
        · exact hleft d hd
        · rw [List.mem_singleton.1 hd]
          exact ⟨hopening, hclosing⟩
      have hstill : ¬CutsSlot ('\x7b' :: (left ++ [c])) rest := by
        rw [cutsSlot_iff_of_plain hlonger]
        rintro ⟨right, after, rfl, hname⟩
        rw [List.append_assoc] at hname
        exact hopen ((cutsSlot_iff_of_plain hleft).2 ⟨c :: right, after, rfl, hname⟩)
      have hrest := ih hlonger hstill done
      rw [pieces_cons_plain hopening, piecesFrom]
      simp only [beq_eq_false_iff_ne.2 hopening, beq_eq_false_iff_ne.2 hclosing,
        Bool.false_eq_true, if_false]
      rw [List.reverse_append] at hrest
      simpa using hrest

def heldText : Option (List Char) → List Char
  | none => []
  | some held => '\x7b' :: held.reverse

theorem piecesFrom_append (held : Option (List Char))
    (hheld : ∀ name, held = some name → ∀ c ∈ name, c ≠ '\x7b' ∧ c ≠ '\x7d')
    (hcut : ¬CutsSlot (heldText held ++ front) back) (done : List Piece) :
    piecesFrom done held (front ++ back) = piecesFrom done held front ++ pieces back := by
  induction front generalizing held done with
  | nil =>
    cases held with
    | none =>
      rw [List.nil_append, piecesFrom_eq]
      simp [piecesFrom, pieces]
    | some name =>
      have hleft : ∀ c ∈ name.reverse, c ≠ '\x7b' ∧ c ≠ '\x7d' :=
        fun c hc => hheld name rfl c (List.mem_reverse.1 hc)
      rw [heldText, List.append_nil] at hcut
      have hkept := piecesFrom_held hleft hcut done
      rw [List.reverse_reverse] at hkept
      rw [List.nil_append, hkept]
      simp [piecesFrom]
  | cons c front ih =>
    have hbehind (more rest : List Char) (hsplit : heldText held ++ c :: front = more ++ rest) :
        ¬CutsSlot rest back := by
      intro hcuts
      rw [hsplit] at hcut
      exact hcut (hcuts.mono more)
    have hnone {done : List Piece} (hsplit : ∃ more, heldText held ++ c :: front = more ++ front) :
        piecesFrom done none (front ++ back) = piecesFrom done none front ++ pieces back := by
      obtain ⟨more, hsplit⟩ := hsplit
      exact ih none (by rintro name ⟨⟩) (hbehind more front hsplit) done
    have hopened {done : List Piece}
        (hsplit : ∃ more, heldText held ++ c :: front = more ++ '\x7b' :: front) :
        piecesFrom done (some []) (front ++ back) =
          piecesFrom done (some []) front ++ pieces back := by
      obtain ⟨more, hsplit⟩ := hsplit
      exact ih (some []) (by rintro name ⟨⟩ c ⟨⟩) (hbehind more ('\x7b' :: front) hsplit) done
    cases held with
    | none =>
      rw [List.cons_append, piecesFrom, piecesFrom]
      split_ifs with hopening
      · rw [beq_iff_eq] at hopening
        exact hopened ⟨[], by rw [hopening]; rfl⟩
      · exact hnone ⟨[c], rfl⟩
    | some name =>
      have hsplit : heldText (some name) ++ c :: front =
          ('\x7b' :: (name.reverse ++ [c])) ++ front := by simp [heldText]
      rw [List.cons_append, piecesFrom, piecesFrom]
      split_ifs with hopening hclosing hempty
      · rw [beq_iff_eq] at hopening
        exact hopened ⟨'\x7b' :: name.reverse, by rw [hopening]; rfl⟩
      · exact hnone ⟨_, hsplit⟩
      · exact hnone ⟨_, hsplit⟩
      · rw [beq_iff_eq] at hopening hclosing
        refine ih (some (c :: name)) ?_ (hbehind [] _ (by simp [heldText])) done
        rintro longer ⟨⟩
        exact List.forall_mem_cons.2 ⟨⟨hopening, hclosing⟩, hheld name rfl⟩

/-- A template may be cut into two before it is cut into pieces, unless that cuts through a slot. -/
theorem pieces_append (hcut : ¬CutsSlot front back) :
    pieces (front ++ back) = pieces front ++ pieces back :=
  piecesFrom_append none (by rintro name ⟨⟩) hcut []

theorem piecesFrom_name (hplain : ∀ c ∈ name, c ≠ '\x7b' ∧ c ≠ '\x7d') (done : List Piece)
    (held rest : List Char) :
    piecesFrom done (some held) (name ++ rest) =
      piecesFrom done (some (name.reverse ++ held)) rest := by
  induction name generalizing held with
  | nil => rfl
  | cons c name ih =>
    obtain ⟨hc, hname⟩ := List.forall_mem_cons.1 hplain
    simp [piecesFrom, hc, ih hname]

/-- A name between braces is cut off as a slot. -/
theorem piecesFrom_slot (hname : name ≠ []) (hplain : ∀ c ∈ name, c ≠ '\x7b' ∧ c ≠ '\x7d')
    (done : List Piece) (rest : List Char) :
    piecesFrom done none ('\x7b' :: (name ++ '\x7d' :: rest)) =
      piecesFrom (.slot name :: done) none rest := by
  have hopened : piecesFrom done none ('\x7b' :: (name ++ '\x7d' :: rest)) =
      piecesFrom done (some []) (name ++ '\x7d' :: rest) := rfl
  rw [hopened, piecesFrom_name hplain, List.append_nil, piecesFrom]
  simp [hname]

/-- A slot at the beginning is cut off as a whole. -/
theorem pieces_slotText (hname : IsName name) (cs : List Char) :
    pieces (slotText name ++ cs) = .slot name :: pieces cs := by
  have htext : slotText name ++ cs = '\x7b' :: (name ++ '\x7d' :: cs) := by simp [slotText]
  rw [pieces, htext, piecesFrom_slot hname.ne_nil hname.plain, piecesFrom_eq]
  rfl

/-- Where no slot begins, a character is cut off. -/
theorem pieces_cons {c : Char}
    (hplain : ∀ name after, IsName name → c :: cs ≠ slotText name ++ after) :
    pieces (c :: cs) = .plain c :: pieces cs := by
  have hcut : ¬CutsSlot [c] cs := by
    rintro ⟨before, left, right, after, hfront, hback, hname⟩
    obtain ⟨rfl, hsingle⟩ : before = [] ∧ ['\x7b'] ++ left = [c] := by
      cases before with
      | nil => exact ⟨rfl, hfront.symm⟩
      | cons first before => simp at hfront
    obtain ⟨rfl, rfl⟩ : '\x7b' = c ∧ left = [] := by simpa using hsingle
    exact hplain right after hname (by simp [slotText, hback])
  have hsingle : pieces [c] = [.plain c] := by
    by_cases hc : c = '\x7b' <;> simp [pieces, piecesFrom, hc]
  have happend := pieces_append hcut
  rwa [hsingle] at happend

/-! ### Filling in -/

def fillPieces (bindings : Fields) (pieces : List Piece) : Except TextFault (List Char) := do
  let parts ← pieces.mapM (Piece.fill bindings)
  return parts.flatten

theorem fill_eq (text : String) (bindings : Fields) :
    fill text bindings = (fillPieces bindings (pieces text.toList)).map String.ofList := by
  rw [fill, fillPieces]
  cases (pieces text.toList).mapM (Piece.fill bindings) <;> rfl

theorem fillPieces_append (some others : List Piece) :
    fillPieces bindings (some ++ others) = (do
      let first ← fillPieces bindings some
      let second ← fillPieces bindings others
      return first ++ second) := by
  rw [fillPieces, fillPieces, fillPieces, List.mapM_append]
  cases some.mapM (Piece.fill bindings) with
  | error fault => rfl
  | ok parts =>
    cases others.mapM (Piece.fill bindings) with
    | error fault => rfl
    | ok more => exact congrArg Except.ok List.flatten_append

theorem fillPieces_append_of_ok {some others : List Piece} {first second : List Char}
    (hfirst : fillPieces bindings some = .ok first)
    (hsecond : fillPieces bindings others = .ok second) :
    fillPieces bindings (some ++ others) = .ok (first ++ second) := by
  rw [fillPieces_append, hfirst, hsecond]
  rfl

theorem fillPieces_singleton {piece : Piece} {filled : List Char}
    (hfill : piece.fill bindings = .ok filled) : fillPieces bindings [piece] = .ok filled := by
  have hparts : [piece].mapM (Piece.fill bindings) = .ok [filled] :=
    mapM_eq_ok_iff.2 (.cons hfill .nil)
  rw [fillPieces, hparts]
  exact congrArg Except.ok (List.append_nil filled)

theorem fillPieces_plain (bindings : Fields) (cs : List Char) :
    fillPieces bindings (cs.map Piece.plain) = .ok cs := by
  induction cs with
  | nil => rfl
  | cons c cs ih =>
    have hplain : (Piece.plain c).fill bindings = .ok [c] := rfl
    exact fillPieces_append_of_ok (fillPieces_singleton hplain) ih

/-- A slot whose name is not bound becomes what it was. -/
theorem fill_slot_of_unbound (hvalue : Assoc.get? bindings (String.ofList name) = none) :
    (Piece.slot name).fill bindings = .ok (slotText name) := by
  simp only [Piece.fill, hvalue, Piece.source, slotText]

theorem fill_slot_of_bound {value : Value} {shown : String}
    (hvalue : Assoc.get? bindings (String.ofList name) = some value)
    (hshown : value.display = .ok shown) :
    (Piece.slot name).fill bindings = .ok shown.toList := by
  simp only [Piece.fill, hvalue, hshown, Except.map]

/-- What a row of characters becomes, from its beginning to its end. -/
inductive Replaced (bindings : Fields) : List Char → List Char → Prop
  | nil : Replaced bindings [] []
  /-- A slot with a bound name becomes the text of the value. -/
  | slot {cs filled : List Char} (name : List Char) {value : Value} {shown : String}
      (hname : IsName name) (hvalue : Assoc.get? bindings (String.ofList name) = some value)
      (hshown : value.display = .ok shown) (hrest : Replaced bindings cs filled) :
      Replaced bindings (slotText name ++ cs) (shown.toList ++ filled)
  /-- A character where no such slot begins is kept. -/
  | kept {cs filled : List Char} (c : Char)
      (hunbound : ∀ name after, IsName name → c :: cs = slotText name ++ after →
        Assoc.get? bindings (String.ofList name) = none)
      (hrest : Replaced bindings cs filled) : Replaced bindings (c :: cs) (c :: filled)

/-- What a row of characters becomes is what its pieces become. -/
theorem fillPieces_of_replaced {filled : List Char} (hreplaced : Replaced bindings cs filled) :
    fillPieces bindings (pieces cs) = .ok filled := by
  induction hreplaced with
  | nil => rfl
  | slot name hname hvalue hshown _ ih =>
    have hslot := fillPieces_singleton (fill_slot_of_bound hvalue hshown)
    rw [pieces_slotText hname]
    exact fillPieces_append_of_ok hslot ih
  | @kept cs filled c hunbound _ ih =>
    by_cases hslot : ∃ name after, IsName name ∧ c :: cs = slotText name ++ after
    · obtain ⟨name, after, hname, htext⟩ := hslot
      have hvalue := hunbound name after hname htext
      obtain ⟨rfl, rfl⟩ : c = '\x7b' ∧ cs = name ++ ['\x7d'] ++ after := by
        simpa [slotText] using htext
      -- the pieces hold the slot as a whole, though its characters are kept one by one
      have hnone : ∀ d ∈ name ++ ['\x7d'], d ≠ '\x7b' := by
        intro d hd
        rcases List.mem_append.1 hd with hd | hd
        · exact (hname.plain d hd).1
        · rw [List.mem_singleton.1 hd]
          decide
      rw [pieces_plain_append hnone, fillPieces_append, fillPieces_plain] at ih
      obtain ⟨front, hfront, ih⟩ := bind_eq_ok_iff.1 ih
      cases hfront
      obtain ⟨rest, hrest, ih⟩ := bind_eq_ok_iff.1 ih
      cases ih
      have hslot := fillPieces_singleton (fill_slot_of_unbound hvalue)
      have hpieces := pieces_slotText hname after
      rw [← htext] at hpieces
      rw [hpieces]
      exact fillPieces_append_of_ok hslot hrest
    · have hplain : ∀ name after, IsName name → c :: cs ≠ slotText name ++ after :=
        fun name after hname htext => hslot ⟨name, after, hname, htext⟩
      have hkept : fillPieces bindings [.plain c] = .ok [c] := fillPieces_plain bindings [c]
      rw [pieces_cons hplain]
      exact fillPieces_append_of_ok hkept ih

/-- Where every bound value has a text, a row of characters becomes something. -/
theorem exists_replaced
    (hshown : ∀ name value, Assoc.get? bindings name = some value →
      ∃ shown, value.display = .ok shown) (cs : List Char) :
    ∃ filled, Replaced bindings cs filled := by
  induction hlength : cs.length using Nat.strong_induction_on generalizing cs with
  | _ length ih =>
    subst hlength
    by_cases hslot : ∃ name after value, IsName name ∧ cs = slotText name ++ after ∧
        Assoc.get? bindings (String.ofList name) = some value
    · obtain ⟨name, after, value, hname, rfl, hvalue⟩ := hslot
      obtain ⟨shown, hdisplay⟩ := hshown _ value hvalue
      have hshorter : after.length < (slotText name ++ after).length := by
        simp only [slotText, List.length_append, List.length_cons]
        omega
      obtain ⟨filled, hrest⟩ := ih _ hshorter after rfl
      exact ⟨shown.toList ++ filled, .slot name hname hvalue hdisplay hrest⟩
    · cases cs with
      | nil => exact ⟨[], .nil⟩
      | cons c cs =>
        obtain ⟨filled, hrest⟩ := ih cs.length (Nat.lt_succ_self _) cs rfl
        refine ⟨c :: filled, .kept c (fun name after hname htext => ?_) hrest⟩
        by_contra hbound
        obtain ⟨value, hvalue⟩ := Option.ne_none_iff_exists'.1 hbound
        exact hslot ⟨name, after, value, hname, htext, hvalue⟩

/-- A template is filled in where every value bound has a text. -/
theorem exists_fill
    (hshown : ∀ name value, Assoc.get? bindings name = some value →
      ∃ shown, value.display = .ok shown) (text : String) :
    ∃ filled, fill text bindings = .ok filled := by
  obtain ⟨filled, hreplaced⟩ := exists_replaced hshown text.toList
  refine ⟨String.ofList filled, ?_⟩
  rw [fill_eq, fillPieces_of_replaced hreplaced]
  rfl

/-- A row of characters without a slot for a bound name stays as it is. -/
theorem replaced_self
    (hunbound : ∀ before name after, IsName name → cs = before ++ (slotText name ++ after) →
      Assoc.get? bindings (String.ofList name) = none) : Replaced bindings cs cs := by
  induction cs with
  | nil => exact .nil
  | cons c cs ih =>
    have hrest : Replaced bindings cs cs := by
      apply ih
      intro before name after hname htext
      exact hunbound (c :: before) name after hname (by rw [htext]; rfl)
    exact .kept c (fun name after hname htext => hunbound [] name after hname htext) hrest

/-! ### Texts -/

/-- What filling in a text comes to: its slots lie apart, those with a bound name are replaced and
everything else is kept, and what was put in is not read again. -/
structure SinglePass (bindings : Fields) (text : String) : Prop where
  apart : ∀ front name back before other after, IsName name → IsName other →
    text.toList = front ++ (slotText name ++ back) →
    text.toList = before ++ (slotText other ++ after) →
      (front = before ∧ name = other ∧ back = after) ∨ front ++ slotText name <+: before ∨
        before ++ slotText other <+: front
  replaced : ∃ filled, fillValue (.text text) bindings = .ok filled ∧
    Replaced bindings text.toList filled.toList
  append : ∀ front back, text = front ++ back → ¬CutsSlot front.toList back.toList →
    ∃ first second, fillValue (.text front) bindings = .ok first ∧
      fillValue (.text back) bindings = .ok second ∧
        fillValue (.text text) bindings = .ok (first ++ second)
  unchanged : (∀ before name after, IsName name →
      text.toList = before ++ (slotText name ++ after) →
        Assoc.get? bindings (String.ofList name) = none) →
    fillValue (.text text) bindings = .ok text

theorem fillValue_of_replaced {text filled : String}
    (hreplaced : Replaced bindings text.toList filled.toList) :
    fillValue (.text text) bindings = .ok filled := by
  rw [fillValue_text, fill_eq, fillPieces_of_replaced hreplaced]
  exact congrArg Except.ok (String.ofList_toList)

/-- Filling in is a single pass. -/
theorem singlePass_of_shown
    (hshown : ∀ name value, Assoc.get? bindings name = some value →
      ∃ shown, value.display = .ok shown) (text : String) : SinglePass bindings text := by
  have hexists (text : String) : ∃ filled, fillValue (.text text) bindings = .ok filled ∧
      Replaced bindings text.toList filled.toList := by
    obtain ⟨filled, hreplaced⟩ := exists_replaced hshown text.toList
    rw [← String.toList_ofList (l := filled)] at hreplaced
    exact ⟨String.ofList filled, fillValue_of_replaced hreplaced, hreplaced⟩
  constructor
  · intro front name back before other after hname hother htext hsame
    exact slots_apart hname hother (htext.symm.trans hsame)
  · exact hexists text
  · intro front back htext hcut
    obtain ⟨first, hfirst, hfront⟩ := hexists front
    obtain ⟨second, hsecond, hback⟩ := hexists back
    refine ⟨first, second, hfirst, hsecond, ?_⟩
    have hpieces := fillPieces_append_of_ok (fillPieces_of_replaced hfront)
      (fillPieces_of_replaced hback)
    rw [← pieces_append hcut, ← String.toList_append, ← htext] at hpieces
    rw [fillValue_text, fill_eq, hpieces, Except.map, ← String.toList_append,
      String.ofList_toList]
  · intro hunbound
    exact fillValue_of_replaced (replaced_self hunbound)

/-- Values with braces in them. -/
def bracedBindings : Fields := [("a", .text "\x7bb\x7d"), ("b", .text "1")]

/-- Slots next to braces, and a value that looks like a slot. -/
theorem singlePass_bracedBindings :
    (∀ name value, Assoc.get? bracedBindings name = some value →
      ∃ shown, value.display = .ok shown) ∧
    SinglePass bracedBindings "\x7ba\x7d\x7b\x7bb\x7d\x7d" := by
  have hshown : ∀ name value, Assoc.get? bracedBindings name = some value →
      ∃ shown, value.display = .ok shown := by
    intro name value hvalue
    have hmem := Assoc.mem_of_get? hvalue
    simp only [bracedBindings, List.mem_cons, Prod.mk.injEq, List.not_mem_nil, or_false] at hmem
    rcases hmem with ⟨-, rfl⟩ | ⟨-, rfl⟩
    · exact ⟨_, rfl⟩
    · exact ⟨_, rfl⟩
  exact ⟨hshown, singlePass_of_shown hshown _⟩

example : fillValue (.text "\x7ba\x7d\x7b\x7bb\x7d\x7d") bracedBindings =
    .ok "\x7bb\x7d\x7b1\x7d" := by rfl

end DialogGraph.Template

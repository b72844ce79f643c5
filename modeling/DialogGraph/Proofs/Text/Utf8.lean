import DialogGraph.Proofs.Result
import DialogGraph.Text.Utf8

/-!
# Which octets are a text

The reader of UTF-8 takes octets one at a time. It gives a text exactly for the octets that the text
is encoded by, so it turns down all that is not the encoding of any text.
-/

namespace DialogGraph.Text

/-! ### Inside a character -/

/-- The octets that a character is continued by: the first of them has a range of its own. -/
def Continues (low high : Nat) : List UInt8 → Prop
  | [] => True
  | octet :: rest => (low ≤ octet.toNat ∧ octet.toNat ≤ high) ∧ Continues 0x80 0xBF rest

/-- The bits of a character together with those of the octets that continue it. -/
def codeFrom (code : Nat) (octets : List UInt8) : Nat :=
  octets.foldl (fun code octet => code * 64 + octet.toNat % 64) code

/-- The character after one octet more. -/
def Utf8Partial.step (p : Utf8Partial) (octet : UInt8) : Utf8Partial :=
  { p with
    taken := p.taken + 1, code := p.code * 64 + octet.toNat % 64, owed := p.owed - 1, low := 0x80,
    high := 0xBF }

variable {p : Utf8Partial} {octet : UInt8} {position : Nat} {tail rest : List UInt8}

theorem utf8From_out (hout : ¬(p.low ≤ octet.toNat ∧ octet.toNat ≤ p.high)) :
    ∃ fault items, utf8From position (some p) (octet :: rest) = .error fault :: items := by
  have hrange : (octet.toNat < p.low || p.high < octet.toNat) = true := by
    rw [Bool.or_eq_true, decide_eq_true_iff, decide_eq_true_iff]
    omega
  rw [utf8From]
  dsimp only
  rw [utf8Continue, if_pos hrange]
  exact ⟨_, _, rfl⟩

theorem utf8From_last (hin : p.low ≤ octet.toNat ∧ octet.toNat ≤ p.high) (howed : p.owed = 1) :
    utf8From position (some p) (octet :: rest) =
      .ok (Char.ofNat (p.step octet).code) :: utf8From (position + 1) none rest := by
  have hrange : ¬(octet.toNat < p.low || p.high < octet.toNat) = true := by
    rw [Bool.or_eq_true, decide_eq_true_iff, decide_eq_true_iff]
    omega
  rw [utf8From]
  dsimp only
  rw [utf8Continue, if_neg hrange, if_pos howed]
  rfl

theorem utf8From_more (hin : p.low ≤ octet.toNat ∧ octet.toNat ≤ p.high) (howed : p.owed ≠ 1) :
    utf8From position (some p) (octet :: rest) =
      utf8From (position + 1) (some (p.step octet)) rest := by
  have hrange : ¬(octet.toNat < p.low || p.high < octet.toNat) = true := by
    rw [Bool.or_eq_true, decide_eq_true_iff, decide_eq_true_iff]
    omega
  rw [utf8From]
  dsimp only
  rw [utf8Continue, if_neg hrange, if_neg howed]
  rfl

/-- As many octets as are owed, each in its range, complete a character. -/
theorem utf8From_continues (howed : tail.length = p.owed) (hpos : 0 < p.owed)
    (hfits : Continues p.low p.high tail) :
    utf8From position (some p) (tail ++ rest) =
      .ok (Char.ofNat (codeFrom p.code tail)) :: utf8From (position + tail.length) none rest := by
  induction tail generalizing p position with
  | nil => exact absurd howed (Nat.ne_of_lt hpos)
  | cons octet tail ih =>
    obtain ⟨hin, hrest⟩ := hfits
    rw [List.cons_append]
    by_cases hlast : p.owed = 1
    · obtain rfl : tail = [] := by
        rw [hlast, List.length_cons] at howed
        exact List.length_eq_zero_iff.1 (Nat.succ.inj howed)
      rw [utf8From_last hin hlast]
      rfl
    · have hlength : tail.length = (p.step octet).owed := by
        rw [List.length_cons] at howed
        exact Nat.eq_sub_of_add_eq howed
      have hmore : 0 < (p.step octet).owed := by
        change 0 < p.owed - 1
        omega
      rw [utf8From_more hin hlast, ih hlength hmore hrest, List.length_cons, Nat.add_right_comm,
        Nat.add_assoc]
      rfl

/-- Octets either begin with those that are owed, or there is a fault. -/
theorem utf8From_some (position : Nat) (p : Utf8Partial) (hpos : 0 < p.owed)
    (octets : List UInt8) :
    (∃ fault items, utf8From position (some p) octets = .error fault :: items) ∨
      ∃ tail rest, octets = tail ++ rest ∧ tail.length = p.owed ∧ Continues p.low p.high tail := by
  induction octets generalizing p position with
  | nil => exact .inl ⟨_, _, rfl⟩
  | cons octet octets ih =>
    by_cases hin : p.low ≤ octet.toNat ∧ octet.toNat ≤ p.high
    · by_cases hlast : p.owed = 1
      · exact .inr ⟨[octet], octets, rfl, hlast.symm, hin, trivial⟩
      · have hmore : 0 < (p.step octet).owed := by
          change 0 < p.owed - 1
          omega
        rw [utf8From_more hin hlast]
        refine (ih (position + 1) (p.step octet) hmore).imp_right ?_
        rintro ⟨tail, rest, rfl, hlength, hfits⟩
        refine ⟨octet :: tail, rest, rfl, ?_, hin, hfits⟩
        rw [List.length_cons, hlength]
        change p.owed - 1 + 1 = p.owed
        omega
    · exact .inl (utf8From_out hin)

/-! ### Whole characters -/

section Start

variable {n : Nat}

theorem utf8Start?_one (hn : n < 0x80) : utf8Start? n = some (n, 0, 0x80, 0xBF) := by
  rw [utf8Start?, if_pos hn]

theorem utf8Start?_two (hlow : 0xC2 ≤ n) (hhigh : n < 0xE0) :
    utf8Start? n = some (n % 32, 1, 0x80, 0xBF) := by
  rw [utf8Start?, if_neg (by omega), if_neg (by omega), if_pos hhigh]

theorem utf8Start?_three (hlow : 0xE0 ≤ n) (hhigh : n < 0xF0) :
    utf8Start? n =
      some (n % 16, 2, if n = 0xE0 then 0xA0 else 0x80, if n = 0xED then 0x9F else 0xBF) := by
  rw [utf8Start?, if_neg (by omega), if_neg (by omega), if_neg (by omega), if_pos hhigh]

theorem utf8Start?_four (hlow : 0xF0 ≤ n) (hhigh : n < 0xF5) :
    utf8Start? n =
      some (n % 8, 3, if n = 0xF0 then 0x90 else 0x80, if n = 0xF4 then 0x8F else 0xBF) := by
  rw [utf8Start?, if_neg (by omega), if_neg (by omega), if_neg (by omega), if_neg (by omega),
    if_pos hhigh]

theorem utf8Start?_none (hn : 0x80 ≤ n ∧ n < 0xC2 ∨ 0xF5 ≤ n) : utf8Start? n = none := by
  rw [utf8Start?, if_neg (by omega)]
  by_cases hlow : n < 0xC2
  · rw [if_pos hlow]
  · rw [if_neg hlow, if_neg (by omega), if_neg (by omega), if_neg (by omega)]

end Start

/-- An octet that begins a character, and those that continue it. -/
structure Spells (octet : UInt8) (tail : List UInt8) (code low high : Nat) : Prop where
  start : utf8Start? octet.toNat = some (code, tail.length, low, high)
  continues : Continues low high tail

theorem ofNat_eq (octet : UInt8) {n : Nat} (hn : n = octet.toNat) : UInt8.ofNat n = octet := by
  rw [hn, UInt8.ofNat_toNat]

theorem toNat_ofNat {n : Nat} (hn : n.isValidChar) : (Char.ofNat n).val.toNat = n := by
  rw [Char.ofNat, dif_pos hn]
  rfl

/-- Octets that spell a character are the ones that it is encoded by. -/
theorem encode_of_spells {code low high : Nat} (hspells : Spells octet tail code low high) :
    String.utf8EncodeChar (Char.ofNat (codeFrom code tail)) = octet :: tail := by
  obtain ⟨hstart, hcontinues⟩ := hspells
  rw [String.utf8EncodeChar]
  -- the first octet tells how many there are; in the last case it begins no character
  have hranges : octet.toNat < 0x80 ∨ (0xC2 ≤ octet.toNat ∧ octet.toNat < 0xE0) ∨
      (0xE0 ≤ octet.toNat ∧ octet.toNat < 0xF0) ∨ (0xF0 ≤ octet.toNat ∧ octet.toNat < 0xF5) ∨
      (0x80 ≤ octet.toNat ∧ octet.toNat < 0xC2 ∨ 0xF5 ≤ octet.toNat) := by omega
  rcases hranges with hone | ⟨hlow, hhigh⟩ | ⟨hlow, hhigh⟩ | ⟨hlow, hhigh⟩ | hnone
  · rw [utf8Start?_one hone] at hstart
    simp only [Option.some.injEq, Prod.mk.injEq] at hstart
    obtain ⟨rfl, hlength, rfl, rfl⟩ := hstart
    obtain rfl : tail = [] := List.length_eq_zero_iff.1 hlength.symm
    rw [show codeFrom octet.toNat [] = octet.toNat from rfl, toNat_ofNat (.inl (by omega)),
      if_pos (by omega), ofNat_eq octet rfl]
  · rw [utf8Start?_two hlow hhigh] at hstart
    simp only [Option.some.injEq, Prod.mk.injEq] at hstart
    obtain ⟨rfl, hlength, rfl, rfl⟩ := hstart
    obtain ⟨second, rfl⟩ := List.length_eq_one_iff.1 hlength.symm
    obtain ⟨⟨hlow₂, hhigh₂⟩, -⟩ := hcontinues
    rw [show codeFrom (octet.toNat % 32) [second] =
        octet.toNat % 32 * 64 + second.toNat % 64 from rfl, toNat_ofNat (.inl (by omega)),
      if_neg (by omega), if_pos (by omega), ofNat_eq octet (by omega), ofNat_eq second (by omega)]
  · rw [utf8Start?_three hlow hhigh] at hstart
    simp only [Option.some.injEq, Prod.mk.injEq] at hstart
    obtain ⟨rfl, hlength, rfl, rfl⟩ := hstart
    obtain ⟨second, third, rfl⟩ := List.length_eq_two.1 hlength.symm
    obtain ⟨⟨hlow₂, hhigh₂⟩, ⟨hlow₃, hhigh₃⟩, -⟩ := hcontinues
    have hvalid : (octet.toNat % 16 * 64 + second.toNat % 64) * 64 + third.toNat % 64 < 0xD800 ∨
        0xDFFF < (octet.toNat % 16 * 64 + second.toNat % 64) * 64 + third.toNat % 64 := by
      split_ifs at hlow₂ hhigh₂ <;> omega
    have hlarge : 0x800 ≤ (octet.toNat % 16 * 64 + second.toNat % 64) * 64 + third.toNat % 64 := by
      split_ifs at hlow₂ hhigh₂ <;> omega
    have hrange : 0x80 ≤ second.toNat ∧ second.toNat ≤ 0xBF := by
      split_ifs at hlow₂ hhigh₂ <;> omega
    rw [show codeFrom (octet.toNat % 16) [second, third] =
        (octet.toNat % 16 * 64 + second.toNat % 64) * 64 + third.toNat % 64 from rfl,
      toNat_ofNat (hvalid.imp_right fun h => ⟨h, by omega⟩), if_neg (by omega), if_neg (by omega),
      if_pos (by omega), ofNat_eq octet (by omega), ofNat_eq second (by omega),
      ofNat_eq third (by omega)]
  · rw [utf8Start?_four hlow hhigh] at hstart
    simp only [Option.some.injEq, Prod.mk.injEq] at hstart
    obtain ⟨rfl, hlength, rfl, rfl⟩ := hstart
    obtain ⟨second, third, fourth, rfl⟩ := List.length_eq_three.1 hlength.symm
    obtain ⟨⟨hlow₂, hhigh₂⟩, ⟨hlow₃, hhigh₃⟩, ⟨hlow₄, hhigh₄⟩, -⟩ := hcontinues
    have hrange : 0x80 ≤ second.toNat ∧ second.toNat ≤ 0xBF := by
      split_ifs at hlow₂ hhigh₂ <;> omega
    have hlarge : 0x10000 ≤ ((octet.toNat % 8 * 64 + second.toNat % 64) * 64 +
        third.toNat % 64) * 64 + fourth.toNat % 64 := by
      split_ifs at hlow₂ hhigh₂ <;> omega
    have hsmall : ((octet.toNat % 8 * 64 + second.toNat % 64) * 64 +
        third.toNat % 64) * 64 + fourth.toNat % 64 < 0x110000 := by
      split_ifs at hlow₂ hhigh₂ <;> omega
    rw [show codeFrom (octet.toNat % 8) [second, third, fourth] =
        ((octet.toNat % 8 * 64 + second.toNat % 64) * 64 + third.toNat % 64) * 64 +
          fourth.toNat % 64 from rfl,
      toNat_ofNat (.inr ⟨by omega, hsmall⟩), if_neg (by omega), if_neg (by omega),
      if_neg (by omega), ofNat_eq octet (by omega), ofNat_eq second (by omega),
      ofNat_eq third (by omega), ofNat_eq fourth (by omega)]
  · rw [utf8Start?_none hnone] at hstart
    cases hstart

/-- The octets that a character is encoded by spell it. -/
theorem exists_spells (c : Char) : ∃ octet tail code low high,
    String.utf8EncodeChar c = octet :: tail ∧ Spells octet tail code low high ∧
      codeFrom code tail = c.toNat := by
  have hvalid : c.val.toNat < 0xD800 ∨ 0xDFFF < c.val.toNat ∧ c.val.toNat < 0x110000 := c.valid
  have hcode : c.toNat = c.val.toNat := rfl
  rw [String.utf8EncodeChar, hcode]
  generalize c.val.toNat = v at hvalid ⊢
  -- an octet is the number it was made from
  have hoctet {n : Nat} (hn : n < 256) : (UInt8.ofNat n).toNat = n := by
    rw [UInt8.toNat_ofNat', Nat.mod_eq_of_lt hn]
  by_cases hone : v ≤ 127
  · rw [if_pos hone]
    refine ⟨_, [], v, 0x80, 0xBF, rfl, ⟨?_, trivial⟩, rfl⟩
    rw [hoctet (by omega)]
    exact utf8Start?_one (by omega)
  rw [if_neg hone]
  have hlast := hoctet (show v % 64 + 128 < 256 by omega)
  by_cases htwo : v ≤ 2047
  · rw [if_pos htwo]
    refine ⟨_, [_], (v / 64 % 32 + 192) % 32, 0x80, 0xBF, rfl, ⟨?_, ?_, trivial⟩, ?_⟩
    · rw [hoctet (by omega)]
      exact utf8Start?_two (by omega) (by omega)
    · rw [hlast]
      omega
    · simp only [codeFrom, List.foldl_cons, List.foldl_nil, hlast]
      omega
  rw [if_neg htwo]
  have hmiddle := hoctet (show v / 64 % 64 + 128 < 256 by omega)
  by_cases hthree : v ≤ 65535
  · rw [if_pos hthree]
    refine ⟨_, [_, _], (v / 4096 % 16 + 224) % 16,
      if v / 4096 % 16 + 224 = 0xE0 then 0xA0 else 0x80,
      if v / 4096 % 16 + 224 = 0xED then 0x9F else 0xBF, rfl, ⟨?_, ?_, ?_, trivial⟩, ?_⟩
    · rw [hoctet (by omega)]
      exact utf8Start?_three (by omega) (by omega)
    · rw [hmiddle]
      constructor <;> split_ifs <;> omega
    · rw [hlast]
      omega
    · simp only [codeFrom, List.foldl_cons, List.foldl_nil, hmiddle, hlast]
      omega
  rw [if_neg hthree]
  have hsecond := hoctet (show v / 4096 % 64 + 128 < 256 by omega)
  refine ⟨_, [_, _, _], (v / 262144 % 8 + 240) % 8,
    if v / 262144 % 8 + 240 = 0xF0 then 0x90 else 0x80,
    if v / 262144 % 8 + 240 = 0xF4 then 0x8F else 0xBF, rfl, ⟨?_, ?_, ?_, ?_, trivial⟩, ?_⟩
  · rw [hoctet (by omega)]
    exact utf8Start?_four (by omega) (by omega)
  · rw [hsecond]
    constructor <;> split_ifs <;> omega
  · rw [hmiddle]
    omega
  · rw [hlast]
    omega
  · simp only [codeFrom, List.foldl_cons, List.foldl_nil, hsecond, hmiddle, hlast]
    omega

/-! ### A whole text -/

/-- Octets that spell a character are read as it. -/
theorem utf8From_spells {code low high : Nat} (hspells : Spells octet tail code low high)
    (rest : List UInt8) : utf8From position none (octet :: (tail ++ rest)) =
      .ok (Char.ofNat (codeFrom code tail)) ::
        utf8From (position + 1 + tail.length) none rest := by
  rw [utf8From]
  dsimp only
  rw [utf8Begin, hspells.start]
  dsimp only
  by_cases hnone : tail.length = 0
  · obtain rfl := List.length_eq_zero_iff.1 hnone
    rw [if_pos hnone]
    rfl
  · rw [if_neg hnone]
    exact utf8From_continues (p := ⟨position, octet, 1, code, tail.length, low, high⟩) rfl
      (Nat.pos_of_ne_zero hnone) hspells.continues

/-- Octets either begin with some that spell a character, or there is a fault. -/
theorem utf8From_none (position : Nat) (octet : UInt8) (octets : List UInt8) :
    (∃ fault items, utf8From position none (octet :: octets) = .error fault :: items) ∨
      ∃ tail rest code low high, octets = tail ++ rest ∧ Spells octet tail code low high := by
  cases hstart : utf8Start? octet.toNat with
  | none =>
    rw [utf8From]
    dsimp only
    rw [utf8Begin, hstart]
    exact .inl ⟨_, _, rfl⟩
  | some start =>
    obtain ⟨code, owed, low, high⟩ := start
    by_cases hnone : owed = 0
    · exact .inr ⟨[], octets, code, low, high, rfl, by rw [hstart, hnone]; rfl, trivial⟩
    · have hread : utf8From position none (octet :: octets) =
          utf8From (position + 1) (some ⟨position, octet, 1, code, owed, low, high⟩) octets := by
        rw [utf8From]
        dsimp only
        rw [utf8Begin, hstart]
        dsimp only
        rw [if_neg hnone]
        rfl
      rw [hread]
      refine (utf8From_some (position + 1) _ (Nat.pos_of_ne_zero hnone) octets).imp_right ?_
      rintro ⟨tail, rest, rfl, hlength, hfits⟩
      exact ⟨tail, rest, code, low, high, rfl, by rw [hstart, hlength], hfits⟩

/-- What characters are encoded by is read as these characters. -/
theorem utf8From_encode (position : Nat) (cs : List Char) :
    utf8From position none (cs.flatMap String.utf8EncodeChar) = cs.map .ok := by
  induction cs generalizing position with
  | nil => rfl
  | cons c cs ih =>
    obtain ⟨octet, tail, code, low, high, hencode, hspells, hcode⟩ := exists_spells c
    rw [List.flatMap_cons, hencode, List.cons_append, utf8From_spells hspells, hcode, ih,
      Char.ofNat_toNat, List.map_cons]

/-- Octets that are read as characters are what these are encoded by. -/
theorem encode_of_utf8From {octets : List UInt8} {cs : List Char}
    (hread : utf8From position none octets = cs.map .ok) :
    cs.flatMap String.utf8EncodeChar = octets := by
  induction cs generalizing position octets with
  | nil =>
    cases octets with
    | nil => rfl
    | cons octet octets =>
      rcases utf8From_none position octet octets with ⟨fault, items, hfault⟩ | hspelled
      · rw [hfault] at hread
        cases hread
      · obtain ⟨tail, rest, code, low, high, rfl, hspells⟩ := hspelled
        rw [utf8From_spells hspells] at hread
        cases hread
  | cons c cs ih =>
    cases octets with
    | nil => cases hread
    | cons octet octets =>
      rcases utf8From_none position octet octets with ⟨fault, items, hfault⟩ | hspelled
      · rw [hfault] at hread
        cases hread
      · obtain ⟨tail, rest, code, low, high, rfl, hspells⟩ := hspelled
        rw [utf8From_spells hspells, List.map_cons, List.cons.injEq, Except.ok.injEq] at hread
        obtain ⟨rfl, hrest⟩ := hread
        rw [List.flatMap_cons, encode_of_spells hspells, ih hrest, List.cons_append]

/-- Octets are read as a text exactly when it is encoded by them. -/
theorem decodeUtf8_eq_ok_iff {octets : List UInt8} {s : String} :
    decodeUtf8 octets = .ok s ↔ s.toUTF8 = octets.toByteArray := by
  have hitems {cs : List Char} :
      (utf8From 0 none octets).mapM id = .ok cs ↔ utf8From 0 none octets = cs.map .ok :=
    calc (utf8From 0 none octets).mapM id = .ok cs
      _ ↔ List.Forall₂ Eq (utf8From 0 none octets) (cs.map .ok) :=
        mapM_eq_ok_iff.trans List.forall₂_map_right_iff.symm
      _ ↔ utf8From 0 none octets = cs.map .ok := by rw [List.forall₂_eq_eq_eq]
  have hencode : (String.ofList s.toList).toUTF8 =
      (s.toList.flatMap String.utf8EncodeChar).toByteArray := by
    rw [String.toUTF8_eq_toByteArray, String.toByteArray_ofList, List.utf8Encode]
  rw [decodeUtf8, bind_eq_ok_iff, ← String.ofList_toList (s := s), hencode, List.toByteArray_inj]
  constructor
  · rintro ⟨cs, hcs, hs⟩
    obtain rfl : cs = s.toList := by
      rw [String.ofList_toList] at hs
      cases hs
      rw [String.toList_ofList]
    exact encode_of_utf8From (hitems.1 hcs)
  · rintro rfl
    exact ⟨s.toList, hitems.2 (utf8From_encode 0 s.toList), rfl⟩

/-- Octets are turned down exactly when no text is encoded by them. -/
theorem exists_decodeUtf8_error_iff {octets : List UInt8} :
    (∃ fault, decodeUtf8 octets = .error fault) ↔
      ∀ s : String, s.toUTF8 ≠ octets.toByteArray := by
  cases hdecode : decodeUtf8 octets with
  | error fault =>
    refine iff_of_true ⟨fault, rfl⟩ fun s hs => ?_
    rw [decodeUtf8_eq_ok_iff.2 hs] at hdecode
    cases hdecode
  | ok s => exact iff_of_false nofun fun hnone => hnone s (decodeUtf8_eq_ok_iff.1 hdecode)

end DialogGraph.Text

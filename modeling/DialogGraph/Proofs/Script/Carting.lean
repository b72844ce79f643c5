import DialogGraph.Proofs.Literal.Spelling
import DialogGraph.Proofs.Number.Whole
import DialogGraph.Proofs.Text.Lines
import DialogGraph.Script.Cart
import Mathlib.Algebra.BigOperators.Group.List.Basic
import Mathlib.Data.List.DropRight

/-!
# What a cart adds up to

A cart that starts empty holds the sum of its history: under each key the amounts added to it since
it was last removed and the cart was last cleared, the keys in the order of the first of these
additions.
-/

namespace DialogGraph.Cart

open DialogGraph.Number

/-- One call: an action, if it is a known one, the product that it names and an amount. -/
structure Call where
  action : Option CartAction
  product : Value
  amount : Value

namespace Call

variable {call : Call} {key other : String}

def key? (call : Call) : Option String :=
  if isProduct call.product then call.product.display.toOption else none

/-- The call adds to a key. -/
def Adds (call : Call) (key : String) : Prop := call.action = some .add ∧ call.key? = some key

/-- The call removes a key, or clears the cart. -/
def Drops (call : Call) (key : String) : Prop :=
  call.action = some .clear ∨ call.action = some .remove ∧ call.key? = some key

/-- The call shows or counts the cart, or asks for nothing that is known. -/
def Looks (call : Call) : Prop :=
  call.action ≠ some .add ∧ call.action ≠ some .remove ∧ call.action ≠ some .clear

instance : Decidable (call.Adds key) := inferInstanceAs (Decidable (_ ∧ _))

instance : Decidable (call.Drops key) := inferInstanceAs (Decidable (_ ∨ _))

theorem Adds.not_drops (hadds : call.Adds key) : ¬call.Drops other := by
  simp [Drops, hadds.1]

theorem Adds.eq (hadds : call.Adds key) (hother : call.Adds other) : key = other :=
  Option.some.inj (hadds.2.symm.trans hother.2)

end Call

/-- The cart after a history, from an empty one. -/
def after (calls : List Call) : Except TextFault Cart :=
  calls.foldlM (fun cart call => cart.update call.action call.product call.amount) []

/-- The calls that add to a key after the last one that drops it, each with its place in the
history. -/
def standing (calls : List Call) (key : String) : List (Call × Nat) :=
  (calls.zipIdx.rtakeWhile fun entry => ¬entry.1.Drops key).filter fun entry => entry.1.Adds key

def total (calls : List Call) (key : String) : Int :=
  ((standing calls key).map fun entry => quantity entry.1.amount).sum

/-- The place of the first of these calls. -/
def first? (calls : List Call) (key : String) : Option Nat :=
  (standing calls key).head?.map Prod.snd

/-- The additions to one key start before those to another. -/
def StartsBefore (calls : List Call) (key later : String) : Prop :=
  ∃ i ∈ first? calls key, ∃ j ∈ first? calls later, i < j

/-- A cart holds what a history adds up to. -/
structure Tallies (calls : List Call) (cart : Cart) : Prop where
  /-- Each key is held once. -/
  once : (Assoc.keys cart).Nodup
  /-- A key is held where an addition to it stands. -/
  held : ∀ key, key ∈ Assoc.keys cart ↔ standing calls key ≠ []
  /-- A key that is held has the sum of the additions that stand. -/
  sum : ∀ key ∈ Assoc.keys cart, Assoc.get? cart key = some (total calls key)
  /-- The keys are held in the order of the first additions that stand. -/
  ordered : (Assoc.keys cart).Pairwise (StartsBefore calls)

variable {calls : List Call} {call : Call} {cart next : Cart} {key : String}

/-! ### A history that is one call longer -/

theorem after_concat (calls : List Call) (call : Call) :
    after (calls ++ [call]) = (after calls >>= fun cart =>
      cart.update call.action call.product call.amount) := by
  simp [after, List.foldlM_append]

theorem standing_concat (calls : List Call) (call : Call) (key : String) :
    standing (calls ++ [call]) key =
      if call.Drops key then []
      else standing calls key ++ if call.Adds key then [(call, calls.length)] else [] := by
  rw [standing, List.zipIdx_append, Nat.zero_add, List.zipIdx_singleton, List.rtakeWhile_concat]
  by_cases hdrops : call.Drops key
  · simp [hdrops]
  · by_cases hadds : call.Adds key <;> simp [hdrops, hadds, standing]

theorem standing_of_adds (hadds : call.Adds key) :
    standing (calls ++ [call]) key = standing calls key ++ [(call, calls.length)] := by
  rw [standing_concat, if_neg hadds.not_drops, if_pos hadds]

theorem standing_of_passes (hdrops : ¬call.Drops key) (hadds : ¬call.Adds key) :
    standing (calls ++ [call]) key = standing calls key := by
  rw [standing_concat, if_neg hdrops, if_neg hadds, List.append_nil]

theorem total_of_adds (hadds : call.Adds key) :
    total (calls ++ [call]) key = total calls key + quantity call.amount := by
  rw [total, standing_of_adds hadds, List.map_append, List.sum_append, List.map_singleton,
    List.sum_singleton, total]

theorem total_of_passes (hdrops : ¬call.Drops key) (hadds : ¬call.Adds key) :
    total (calls ++ [call]) key = total calls key := by
  rw [total, standing_of_passes hdrops hadds, total]

theorem total_of_standing_nil (hnone : standing calls key = []) : total calls key = 0 := by
  rw [total, hnone, List.map_nil, List.sum_nil]

/-- Where additions to a key stand already, a further call that does not drop the key leaves the
first of them as it is. -/
theorem first?_concat (hsome : standing calls key ≠ []) (hdrops : ¬call.Drops key) :
    first? (calls ++ [call]) key = first? calls key := by
  rw [first?, standing_concat, if_neg hdrops, List.head?_append_of_ne_nil _ hsome, first?]

theorem first?_of_adds (hnone : standing calls key = []) (hadds : call.Adds key) :
    first? (calls ++ [call]) key = some calls.length := by
  rw [first?, standing_of_adds hadds, hnone]
  rfl

theorem lt_length_of_first? {i : Nat} (hfirst : first? calls key = some i) : i < calls.length := by
  obtain ⟨entry, hhead, rfl⟩ := Option.map_eq_some_iff.1 hfirst
  have hstands : entry ∈ standing calls key := List.mem_of_mem_head? hhead
  have hentry : entry ∈ calls.zipIdx :=
    (List.rtakeWhile_suffix _ _).subset (List.mem_of_mem_filter hstands)
  simpa using List.snd_lt_add_of_mem_zipIdx hentry

theorem exists_first? (hsome : standing calls key ≠ []) : ∃ i, first? calls key = some i := by
  obtain ⟨entry, rest, hstanding⟩ := List.exists_cons_of_ne_nil hsome
  exact ⟨entry.2, by rw [first?, hstanding]; rfl⟩

theorem StartsBefore.concat {later : String} (hkey : ¬call.Drops key)
    (hlater : ¬call.Drops later) (hbefore : StartsBefore calls key later) :
    StartsBefore (calls ++ [call]) key later := by
  obtain ⟨i, hi, j, hj, hlt⟩ := hbefore
  have hstands {name : String} {place : Nat} (hplace : first? calls name = some place) :
      standing calls name ≠ [] := by
    intro hnone
    simp [first?, hnone] at hplace
  exact ⟨i, (first?_concat (hstands hi) hkey).trans hi,
    j, (first?_concat (hstands hj) hlater).trans hj, hlt⟩

/-! ### Amounts -/

theorem one_le_quantity (amount : Value) : 1 ≤ quantity amount := le_max_left 1 _

/-- Where an addition stands, the sum is at least one. -/
theorem one_le_total (hsome : standing calls key ≠ []) : 1 ≤ total calls key := by
  obtain ⟨entry, rest, hstanding⟩ := List.exists_cons_of_ne_nil hsome
  have hrest : 0 ≤ (rest.map fun entry => quantity entry.1.amount).sum := by
    apply List.sum_nonneg
    intro amount hamount
    obtain ⟨other, -, rfl⟩ := List.mem_map.1 hamount
    exact (Int.zero_le_ofNat 1).trans (one_le_quantity _)
  have hfirst := one_le_quantity entry.1.amount
  rw [total, hstanding, List.map_cons, List.sum_cons]
  omega

/-- An amount is read as a double first. -/
theorem quantity_lt (amount : Value) : quantity amount < 2 ^ 1024 := by
  have hone : (1 : Int) < 2 ^ 1024 := one_lt_pow₀ one_lt_two (by decide)
  have hwhole : amount.wholeOr 1 < 2 ^ 1024 := by
    rw [Value.wholeOr]
    split
    next x _ =>
      rw [truncate?]
      split
      next d hdecode => exact (canonical_of_decode hdecode).truncate_lt
      next => exact hone
    next => exact hone
  exact max_lt hone hwhole

theorem total_le (calls : List Call) (key : String) :
    total calls key ≤ calls.length * 2 ^ 1024 := by
  have hbound : ∀ amount ∈ (standing calls key).map fun entry => quantity entry.1.amount,
      amount ≤ 2 ^ 1024 := by
    intro amount hamount
    obtain ⟨entry, -, rfl⟩ := List.mem_map.1 hamount
    exact (quantity_lt _).le
  have hcount : (standing calls key).length ≤ calls.length :=
    calc (standing calls key).length
      _ ≤ (calls.zipIdx.rtakeWhile fun entry => ¬entry.1.Drops key).length :=
        List.length_filter_le _ _
      _ ≤ calls.zipIdx.length := (List.rtakeWhile_suffix _ _).length_le
      _ = calls.length := List.length_zipIdx
  calc total calls key
    _ ≤ (standing calls key).length • 2 ^ 1024 := by
      simpa only [total, List.length_map] using List.sum_le_card_nsmul _ _ hbound
    _ = ((standing calls key).length : Int) * 2 ^ 1024 := nsmul_eq_mul _ _
    _ ≤ calls.length * 2 ^ 1024 := by gcongr

/-- No sum reaches the digit limit unless the number of calls has thousands of digits itself. -/
theorem integerText_total (hlength : calls.length < 10 ^ 3900) (hsome : standing calls key ≠ []) :
    integerText (total calls key) = .ok (intText (total calls key)) := by
  apply Literal.integerText_of_short
  have hpos := one_le_total hsome
  have hpow : 2 ^ 1024 ≤ 10 ^ 400 :=
    calc 2 ^ 1024
      _ ≤ 2 ^ (3 * 400) := pow_le_pow_right₀ one_le_two (by decide)
      _ = (2 ^ 3) ^ 400 := pow_mul 2 3 400
      _ ≤ 10 ^ 400 := by gcongr; decide
  have hproduct : calls.length * 2 ^ 1024 < 10 ^ digitLimit :=
    calc calls.length * 2 ^ 1024
      _ < 10 ^ 3900 * 2 ^ 1024 := Nat.mul_lt_mul_of_pos_right hlength (by positivity)
      _ ≤ 10 ^ 3900 * 10 ^ 400 := Nat.mul_le_mul_left _ hpow
      _ = 10 ^ digitLimit := by rw [← pow_add, digitLimit]
  generalize 10 ^ digitLimit = limit at *
  have htotal : ((total calls key).natAbs : Int) < limit :=
    calc ((total calls key).natAbs : Int)
      _ = total calls key := Int.natAbs_of_nonneg (by omega)
      _ ≤ calls.length * 2 ^ 1024 := total_le calls key
      _ < limit := by exact_mod_cast hproduct
  exact_mod_cast htotal

/-! ### One call -/

theorem Call.key?_eq_some_iff :
    call.key? = some key ↔ isProduct call.product = true ∧ call.product.display = .ok key := by
  rw [Call.key?]
  cases call.product.display <;> simp [Except.toOption]

/-- A call that adds to a key. -/
theorem update_of_adds (hadds : call.Adds key) (cart : Cart) :
    cart.update call.action call.product call.amount =
      .ok (Assoc.insert cart key ((Assoc.get? cart key).getD 0 + quantity call.amount)) := by
  obtain ⟨haction, hkey⟩ := hadds
  obtain ⟨hproduct, hdisplay⟩ := Call.key?_eq_some_iff.1 hkey
  rw [haction, update, if_pos hproduct, hdisplay]
  rfl

/-- A call that shows or counts, or asks for nothing that is known, changes nothing. -/
theorem update_of_looks (hlooks : call.Looks) (cart : Cart) :
    cart.update call.action call.product call.amount = .ok cart := by
  obtain ⟨hadd, hremove, hclear⟩ := hlooks
  unfold update
  split <;> first | contradiction | rfl

/-- Without a product, only clearing changes the cart. -/
theorem update_of_not_isProduct (hproduct : ¬isProduct call.product = true)
    (hclear : call.action ≠ some .clear) (cart : Cart) :
    cart.update call.action call.product call.amount = .ok cart := by
  unfold update
  split <;> simp_all

/-- A call that adds to no key: what it drops goes, and all else stays. -/
theorem update_of_not_adds (hadds : ∀ key, ¬call.Adds key) {text : String}
    (htext : call.product.display = .ok text) (cart : Cart) :
    cart.update call.action call.product call.amount =
      .ok (cart.filter fun entry => ¬call.Drops entry.1) := by
  have hstays (hdrops : ∀ key, ¬call.Drops key) :
      (cart.filter fun entry => ¬call.Drops entry.1) = cart :=
    List.filter_eq_self.2 fun entry _ => decide_eq_true (hdrops entry.1)
  by_cases hclear : call.action = some .clear
  · rw [List.filter_eq_nil_iff.2 (by simp [Call.Drops, hclear]), hclear, update]
  by_cases hkey : call.key? = some text
  · have hproduct := (Call.key?_eq_some_iff.1 hkey).1
    by_cases hremove : call.action = some .remove
    · have hdrops (key : String) : call.Drops key ↔ key = text := by
        simp [Call.Drops, hremove, hkey, eq_comm]
      rw [hremove, update, if_pos hproduct, htext]
      simp only [hdrops, bind, Except.bind, pure, Except.pure, Assoc.erase, decide_not, bne,
        Bool.beq_eq_decide_eq]
    · have hadd : call.action ≠ some .add := fun h => hadds text ⟨h, hkey⟩
      rw [hstays (by simp [Call.Drops, hclear, hremove]),
        update_of_looks ⟨hadd, hremove, hclear⟩]
  · have hproduct : ¬isProduct call.product = true := fun h =>
      hkey (Call.key?_eq_some_iff.2 ⟨h, htext⟩)
    have hnone (key : String) : call.key? ≠ some key := fun h =>
      hproduct (Call.key?_eq_some_iff.1 h).1
    rw [hstays (by simp [Call.Drops, hclear, hnone]), update_of_not_isProduct hproduct hclear]

namespace Tallies

/-- An empty cart holds what an empty history adds up to. -/
theorem nil : Tallies [] [] where
  once := List.nodup_nil
  held key := by simp [Assoc.keys, standing]
  sum key hkey := by cases hkey
  ordered := .nil

/-- What is found under a key, held or not. -/
theorem getD_get? (htallies : Tallies calls cart) (key : String) :
    (Assoc.get? cart key).getD 0 = total calls key := by
  by_cases hkey : key ∈ Assoc.keys cart
  · rw [htallies.sum key hkey, Option.getD_some]
  · have hnone : standing calls key = [] := by
      simpa using mt (htallies.held key).2 hkey
    rw [Assoc.get?_eq_none_iff.2 hkey, total_of_standing_nil hnone, Option.getD_none]

/-- A call that adds to a key. -/
theorem add (htallies : Tallies calls cart) (hadds : call.Adds key) :
    Tallies (calls ++ [call])
      (Assoc.insert cart key ((Assoc.get? cart key).getD 0 + quantity call.amount)) where
  once := Assoc.nodup_keys_insert htallies.once _ _
  held other := by
    rw [← Assoc.contains_iff_mem_keys, Assoc.contains, Assoc.get?_insert]
    by_cases hother : key = other
    · subst hother
      simp [standing_of_adds hadds]
    · have hpasses : ¬call.Adds other := fun h => hother (hadds.eq h)
      rw [if_neg hother, standing_of_passes hadds.not_drops hpasses, ← htallies.held,
        ← Assoc.contains_iff_mem_keys, Assoc.contains]
  sum other hmem := by
    rw [Assoc.get?_insert]
    by_cases hother : key = other
    · subst hother
      rw [if_pos rfl, htallies.getD_get?, total_of_adds hadds]
    · have hpasses : ¬call.Adds other := fun h => hother (hadds.eq h)
      have hheld : other ∈ Assoc.keys cart := by
        rw [← Assoc.contains_iff_mem_keys, Assoc.contains, Assoc.get?_insert, if_neg hother] at hmem
        exact Assoc.contains_iff_mem_keys.1 hmem
      rw [if_neg hother, htallies.sum other hheld, total_of_passes hadds.not_drops hpasses]
  ordered := by
    have hkept : (Assoc.keys cart).Pairwise (StartsBefore (calls ++ [call])) :=
      htallies.ordered.imp (StartsBefore.concat hadds.not_drops hadds.not_drops)
    by_cases hheld : key ∈ Assoc.keys cart
    · rwa [Assoc.keys_insert_of_mem hheld]
    · have hnone : standing calls key = [] := by simpa using mt (htallies.held key).2 hheld
      rw [Assoc.insert_of_notMem hheld, Assoc.keys, List.map_append, List.pairwise_append]
      refine ⟨hkept, by simp, fun other hother later hlater => ?_⟩
      obtain rfl : later = key := List.mem_singleton.1 hlater
      have hstands := (htallies.held other).1 hother
      obtain ⟨i, hi⟩ := exists_first? hstands
      exact ⟨i, (first?_concat hstands hadds.not_drops).trans hi,
        calls.length, first?_of_adds hnone hadds, lt_length_of_first? hi⟩

/-- A call that adds to no key: what it drops goes, and all else stays. -/
theorem keep (htallies : Tallies calls cart) (hadds : ∀ key, ¬call.Adds key) :
    Tallies (calls ++ [call]) (cart.filter fun entry => ¬call.Drops entry.1) := by
  have hkeys : Assoc.keys (cart.filter fun entry => ¬call.Drops entry.1) =
      (Assoc.keys cart).filter fun key => ¬call.Drops key := by
    rw [Assoc.keys, Assoc.keys, List.filter_map]
    rfl
  have hmem (key : String) : key ∈ (Assoc.keys cart).filter (fun key => ¬call.Drops key) ↔
      key ∈ Assoc.keys cart ∧ ¬call.Drops key := by simp
  constructor
  case once =>
    rw [hkeys]
    exact htallies.once.filter _
  case held =>
    intro key
    rw [hkeys, hmem, htallies.held, standing_concat, if_neg (hadds key), List.append_nil]
    by_cases hdrops : call.Drops key <;> simp [hdrops]
  case sum =>
    intro key hkey
    obtain ⟨hheld, hdrops⟩ := (hmem key).1 (hkeys ▸ hkey)
    have hget := Assoc.get?_filter cart (fun key => ¬call.Drops key) key
    rw [hget, if_pos (decide_eq_true hdrops), htallies.sum key hheld,
      total_of_passes hdrops (hadds key)]
  case ordered =>
    rw [hkeys]
    apply (htallies.ordered.filter _).imp_of_mem
    intro key later hkey hlater hbefore
    exact hbefore.concat ((hmem key).1 hkey).2 ((hmem later).1 hlater).2

/-- A further call on a cart that holds what its history adds up to. -/
theorem concat (htallies : Tallies calls cart) {text : String}
    (htext : call.product.display = .ok text) :
    ∃ next, cart.update call.action call.product call.amount = .ok next ∧
      Tallies (calls ++ [call]) next := by
  by_cases hadds : ∃ key, call.Adds key
  · obtain ⟨key, hkey⟩ := hadds
    exact ⟨_, update_of_adds hkey cart, htallies.add hkey⟩
  · have hnone := not_exists.1 hadds
    exact ⟨_, update_of_not_adds hnone htext cart, htallies.keep hnone⟩

/-- What stands beside a key is the sum of the additions to it. -/
theorem eq_total (htallies : Tallies calls cart) {entry : String × Int} (hentry : entry ∈ cart) :
    entry.2 = total calls entry.1 := by
  have hkey : entry.1 ∈ Assoc.keys cart := List.mem_map_of_mem hentry
  have hfound := Assoc.get?_of_mem htallies.once hentry
  exact Option.some.inj (hfound.symm.trans (htallies.sum _ hkey))

theorem one_le (htallies : Tallies calls cart) {entry : String × Int} (hentry : entry ∈ cart) :
    1 ≤ entry.2 := by
  rw [htallies.eq_total hentry]
  exact one_le_total ((htallies.held _).1 (List.mem_map_of_mem hentry))

/-- A cart that is not empty in words: a heading, then each key with its sum. -/
theorem summary_eq (htallies : Tallies calls cart) (hsome : Assoc.keys cart ≠ []) :
    summary cart = "\n".intercalate ("🛒 Your cart:" :: (Assoc.keys cart).map fun key =>
      "• " ++ key ++ " × " ++ intText (total calls key)) := by
  have hcart : ¬cart.isEmpty = true := by simpa [Assoc.keys] using hsome
  have hlines : cart.map line = (Assoc.keys cart).map fun key =>
      "• " ++ key ++ " × " ++ intText (total calls key) := by
    rw [Assoc.keys, List.map_map]
    apply List.map_congr_left
    intro entry hentry
    rw [line, htallies.eq_total hentry]
    rfl
  rw [summary, if_neg hcart, hlines]

end Tallies

/-- Only an empty cart is said to be empty: the text for it does not start as a list of products
does. -/
theorem summary_eq_emptyText_iff : summary cart = emptyText ↔ Assoc.keys cart = [] := by
  cases cart with
  | nil => simp [summary, Assoc.keys]
  | cons entry rest =>
    obtain ⟨tail, htail⟩ :=
      Text.exists_intercalate_cons "\n" "🛒 Your cart:" ((entry :: rest).map line)
    have hsummary : summary (entry :: rest) = "🛒 Your cart:" ++ tail := htail
    have hne : summary (entry :: rest) ≠ emptyText := by
      intro hsame
      have hstart := congrArg (fun text => text.toList[11]?) (hsummary.symm.trans hsame)
      simp [emptyText] at hstart
    simpa [Assoc.keys] using hne

/-- Every history leads to the cart that it adds up to. -/
theorem exists_tallies (htexts : ∀ call ∈ calls, ∃ text, call.product.display = .ok text) :
    ∃ cart, after calls = .ok cart ∧ Tallies calls cart := by
  induction calls using List.reverseRecOn with
  | nil => exact ⟨[], rfl, .nil⟩
  | append_singleton calls call ih =>
    obtain ⟨cart, hafter, htallies⟩ :=
      ih fun earlier hearlier => htexts earlier (List.mem_append_left _ hearlier)
    obtain ⟨text, htext⟩ := htexts call (by simp)
    obtain ⟨next, hupdate, hnext⟩ := htallies.concat htext
    exact ⟨next, by rw [after_concat, hafter]; exact hupdate, hnext⟩

/-- A cart that starts empty is the sum of its history, whatever the calls, as long as every product
has a text. Each key holds at least one, looking at the cart changes nothing, and the summary lists
each key once, in order, or says that there is none. A sum in it is written out whatever its size;
that this is its text is a matter of the digit limit, which no history that can be kept reaches. -/
theorem sum_of_history (htexts : ∀ call ∈ calls, ∃ text, call.product.display = .ok text) :
    ∃ cart, after calls = .ok cart ∧ Tallies calls cart ∧ (∀ entry ∈ cart, 1 ≤ entry.2) ∧
      (∀ call : Call, call.Looks →
        cart.update call.action call.product call.amount = .ok cart) ∧
      (Assoc.keys cart ≠ [] →
        summary cart = "\n".intercalate ("🛒 Your cart:" :: (Assoc.keys cart).map fun key =>
          "• " ++ key ++ " × " ++ intText (total calls key))) ∧
      (calls.length < 10 ^ 3900 → ∀ key ∈ Assoc.keys cart,
        integerText (total calls key) = .ok (intText (total calls key))) ∧
      (summary cart = emptyText ↔ Assoc.keys cart = []) := by
  obtain ⟨cart, hafter, htallies⟩ := exists_tallies htexts
  have hshort (hlength : calls.length < 10 ^ 3900) (key : String) (hkey : key ∈ Assoc.keys cart) :
      integerText (total calls key) = .ok (intText (total calls key)) :=
    integerText_total hlength ((htallies.held key).1 hkey)
  exact ⟨cart, hafter, htallies, fun _ => htallies.one_le,
    fun _ hlooks => update_of_looks hlooks cart, htallies.summary_eq, hshort,
    summary_eq_emptyText_iff⟩

/-- Two products with one text, the other one removed and added again, and calls that change
nothing. -/
def shopping : List Call :=
  [⟨some .add, .bool true, .null⟩, ⟨some .add, .text "tea", .list []⟩, ⟨some .show, .null, .null⟩,
    ⟨some .remove, .bool true, .null⟩, ⟨some .add, .text "True", .null⟩, ⟨none, .null, .null⟩,
    ⟨some .add, .text "", .null⟩, ⟨some .add, .bool true, .text "many"⟩]

theorem sum_of_shopping :
    (∀ call ∈ shopping, ∃ text, call.product.display = .ok text) ∧
      after shopping = .ok [("tea", 1), ("True", 2)] ∧
      Tallies shopping [("tea", 1), ("True", 2)] := by
  have htexts : ∀ call ∈ shopping, ∃ text, call.product.display = .ok text := by
    simp [shopping, Value.display, Value.quoted]
  obtain ⟨cart, hafter, htallies, -⟩ := sum_of_history htexts
  have hshopping : after shopping = .ok [("tea", 1), ("True", 2)] := by rfl
  obtain rfl : cart = [("tea", 1), ("True", 2)] := Except.ok.inj (hafter.symm.trans hshopping)
  exact ⟨htexts, hshopping, htallies⟩

end DialogGraph.Cart

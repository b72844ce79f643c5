import DialogGraph.Proofs.Json.Legible

/-!
# Deeply nested JSON

Containers are nested no deeper than there are brackets that open one. So a text with few of them
may be malformed, but it is never refused for its depth.
-/

namespace DialogGraph.Json

def isOpening (c : Char) : Bool := c == '[' || c == '\x7b'

def Token.opens : Token → Bool
  | .opening _ => true
  | _ => false

/-! ### Tokens -/

theorem scanNumber_opens (cs : List Char) : (scanNumber cs).1.opens = false := by
  unfold scanNumber
  split
  next =>
    extract_lets
    split_ifs <;> rfl

theorem isOpening_of_scanToken {position : Nat} {c : Char} {rest : List Char}
    (hopens : (scanToken position c rest).1.opens = true) : isOpening c = true := by
  unfold scanToken at hopens
  split at hopens
  next hc => simp [isOpening, hc]
  split at hopens
  next => cases hopens
  split at hopens
  next hc => simp [isOpening, hc]
  iterate 3 (split at hopens; next => cases hopens)
  split at hopens
  · split at hopens <;> cases hopens
  · split at hopens
    next => cases hopens
    next =>
      rw [scanNumber_opens] at hopens
      cases hopens

/-- A text has no more tokens that open a container than characters that do. -/
theorem countP_tokensFrom_le (position : Nat) (done : List Located) (cs : List Char) :
    (tokensFrom position done cs).countP (·.token.opens) ≤
      done.countP (·.token.opens) + cs.countP isOpening := by
  have hrest (c : Char) (rest : List Char) :
      rest.countP isOpening ≤ (c :: rest).countP isOpening :=
    (List.sublist_cons_self c rest).countP_le
  -- the text ends with a token that opens nothing
  have hstop (position : Nat) {token : Token} (htoken : token.opens = false)
      (done : List Located) (n : Nat) :
      (⟨position, token⟩ :: done).reverse.countP (·.token.opens) ≤
        done.countP (·.token.opens) + n := by
    simp [htoken]
  fun_induction tokensFrom position done cs with
  | case1 position done => simp
  | case2 position done c rest hspace ih =>
    exact Nat.le_trans ih (Nat.add_le_add_left (hrest c rest) _)
  | case3 position done c rest hspace taken problem place => exact hstop position rfl done _
  | case4 position done c rest hspace taken digits => exact hstop position rfl done _
  | case5 position => exact hstop position rfl _ _
  | case6 position done c rest hspace taken token _ _ _ hscan ih =>
    have hdropped : (rest.drop (taken - 1)).countP isOpening ≤ rest.countP isOpening :=
      (List.drop_sublist _ rest).countP_le
    have htoken : (if token.opens then 1 else 0) ≤ if isOpening c then 1 else 0 := by
      by_cases hopens : token.opens = true
      · have hscanned : (scanToken position c rest).1.opens = true → isOpening c = true :=
          isOpening_of_scanToken
        rw [hscan] at hscanned
        rw [if_pos hopens, if_pos (hscanned hopens)]
      · rw [if_neg hopens]
        exact Nat.zero_le _
    rw [List.countP_cons] at ih ⊢
    dsimp only at ih
    omega

/-! ### Containers -/

variable {depth : Nat} {stack after : List Frame} {expected next : Expected} {here : Located}
  {container : Container}

theorem length_deliver (value : Value) (stack : List Frame) :
    (deliver value stack).1.length = stack.length := by
  unfold deliver
  split <;> rfl

/-- What comes of one token for the containers that are open: there is one more at most if the token
opens one, and too many only if it does. -/
inductive Outcome (depth : Nat) (stack : List Frame) (here : Located) :
    Except Trouble (List Frame × Expected) → Prop
  | ok {after : List Frame} {next : Expected}
      (hlength : after.length ≤ stack.length + if here.token.opens then 1 else 0) :
      Outcome depth stack here (.ok (after, next))
  | problem (problem : Problem) (position : Nat) :
      Outcome depth stack here (.error (.problem problem position))
  | oversized (digits : Nat) : Outcome depth stack here (.error (.oversized digits))
  | tooDeep {container : Container} (hopens : here.token.opens = true)
      (hdeep : depth ≤ stack.length) : Outcome depth stack here (.error (.tooDeep container))

theorem deliver_outcome (value : Value) {outer : List Frame}
    (hlength : outer.length ≤ stack.length) :
    Outcome depth stack here (.ok (deliver value outer)) := by
  have hsame := length_deliver value outer
  generalize deliver value outer = delivered at hsame
  exact .ok (by omega)

theorem beginValue_outcome (problem : Problem) :
    Outcome depth stack here (beginValue depth stack here problem) := by
  unfold beginValue
  split
  next value _ => exact deliver_outcome value (Nat.le_refl _)
  next htoken =>
    split_ifs with hdeep
    · exact .tooDeep (by rw [htoken]; rfl) hdeep
    · exact .ok (by simp [htoken, Token.opens])
  next htoken =>
    split_ifs with hdeep
    · exact .tooDeep (by rw [htoken]; rfl) hdeep
    · exact .ok (by simp [htoken, Token.opens])
  next => exact .problem _ _
  next => exact .oversized _
  next => exact .problem _ _

theorem beginName_outcome : Outcome depth stack here (beginName stack here) := by
  unfold beginName
  split
  next => exact .ok (Nat.le_add_right _ _)
  next => exact .problem _ _
  next => exact .problem _ _

theorem endContainer_outcome (problem : Problem) :
    Outcome depth stack here (endContainer stack here container problem) := by
  rw [endContainer]
  split
  next value outer hclose =>
    apply deliver_outcome
    unfold close? at hclose
    split at hclose
    next =>
      cases hclose
      exact Nat.le_succ _
    next =>
      cases hclose
      exact Nat.le_succ _
    next => cases hclose
  next => exact .problem _ _

theorem step_outcome : Outcome depth stack here (step depth stack expected here) := by
  unfold step
  split
  · exact endContainer_outcome _
  · exact beginValue_outcome _
  · exact beginValue_outcome _
  · exact endContainer_outcome _
  · exact beginName_outcome
  · exact beginName_outcome
  · exact .ok (Nat.le_add_right _ _)
  · exact .ok (Nat.le_add_right _ _)
  · exact endContainer_outcome _
  · exact .problem _ _

/-- A text is too deep only if it has more tokens that open a container than may be open at once. -/
theorem run_tooDeep {finish : Nat} {tokens : List Located}
    (hrun : run depth finish stack expected tokens = .error (.tooDeep container)) :
    depth < stack.length + tokens.countP (·.token.opens) := by
  induction tokens generalizing stack expected with
  | nil =>
    unfold run at hrun
    split at hrun <;> cases hrun
  | cons here rest ih =>
    rw [List.countP_cons]
    have houtcome : Outcome depth stack here (step depth stack expected here) := step_outcome
    rw [run] at hrun
    generalize step depth stack expected here = result at houtcome hrun
    cases houtcome with
    | ok hlength =>
      have hmore := ih hrun
      omega
    | problem => cases hrun
    | oversized => cases hrun
    | tooDeep hopens hdeep =>
      rw [if_pos hopens]
      omega

/-- A text is too deep only if more containers are opened in it than may be open at once. -/
theorem parse_tooDeep {s : String} (hparse : parse s depth = .error (.tooDeep container)) :
    depth < s.toList.countP isOpening := by
  rw [parse] at hparse
  split at hparse
  · cases hparse
  · split at hparse
    next => cases hparse
    next => cases hparse
    next => cases hparse
    next hrun =>
      have hdeep := run_tooDeep hrun
      have hcount := countP_tokensFrom_le 0 [] s.toList
      rw [List.countP_nil, Nat.zero_add] at hcount
      rw [List.length_nil, Nat.zero_add] at hdeep
      omega

/-- A text without a byte order mark is read token by token. -/
theorem parse_ofList {cs : List Char} {value : Value}
    (hmark : cs.head? ≠ some (Char.ofNat 0xFEFF))
    (hrun : run depth cs.length [] .value (tokensFrom 0 [] cs) = .ok value) :
    parse (String.ofList cs) depth = .ok value := by
  simp only [parse, String.toList_ofList, if_neg hmark, hrun]

end DialogGraph.Json

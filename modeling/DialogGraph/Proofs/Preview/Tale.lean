import DialogGraph.Proofs.Preview.Telling
import DialogGraph.Proofs.Preview.Termination

/-!
# The tale of an event

What one event of a preview tells makes sense of itself: blocks are come to along the edges that were
followed, and the last thing told says how the event ended. A tale is made up one thing after
another, and what may be told next depends on nothing but what was told last.
-/

namespace DialogGraph.Preview

/-- What is told at the end of an event. -/
def Trace.Closes : Trace → Prop
  | .suspended _ _ | .failed _ _ | .idle => True
  | _ => False

/-- What may be told next in an event, when the last thing told in it was `last`, if any. -/
inductive Next (flow : Flow) : Option Trace → Trace → Prop
  | starts {start : Block} {rest : List Block} (hstarts : flow.starts = start :: rest) :
      Next flow none (.started start.id)
  | leaves {source port target : String} (hjoins : flow.Joins source port target) :
      Next flow none (.followed source port target)
  | goesOn {id source port target : String} (hjoins : flow.Joins source port target) :
      Next flow (some (.running id)) (.followed source port target)
  | sets {start : Block} {rest : List Block} {target : String}
      (hstarts : flow.starts = start :: rest) (htarget : start.targetOf defaultPort = some target) :
      Next flow (some (.started start.id)) (.running target)
  | arrives {source port target : String} :
      Next flow (some (.followed source port target)) (.running target)
  | parks {id : String} {waiting : Waiting} :
      Next flow (some (.running id)) (.suspended id waiting)
  | fails {id error : String} : Next flow (some (.running id)) (.failed id error)
  | failsFirst {id error : String} : Next flow none (.failed id error)
  | rests : Next flow none .idle
  | restsAtOnce {id : String} : Next flow (some (.started id)) .idle
  | restsAt {id : String} : Next flow (some (.running id)) .idle

def previous? (told : List Trace) : Nat → Option Trace
  | 0 => none
  | n + 1 => told[n]?

/-- What an event may tell: each thing may come after the one before it. -/
def Tale (flow : Flow) (told : List Trace) : Prop :=
  ∀ n event, told[n]? = some event → Next flow (previous? told n) event

variable {flow : Flow} {told : List Trace} {world : Journal → World} {occasion : Occasion}
  {before session : Session} {block : Block}

theorem Tale.nil : Tale flow [] := by
  intro n event hevent
  cases hevent

theorem previous?_append {n : Nat} (hn : n ≤ told.length) (event : Trace) :
    previous? (told ++ [event]) n = previous? told n := by
  cases n with
  | zero => rfl
  | succ n => exact List.getElem?_append_left hn

theorem previous?_length : previous? told told.length = told.getLast? := by
  cases told with
  | nil => rfl
  | cons first rest => simp [previous?, List.getLast?_eq_getElem?]

/-- A tale is continued by what may be told next. -/
theorem Tale.snoc (htale : Tale flow told) {event : Trace} (hnext : Next flow told.getLast? event) :
    Tale flow (told ++ [event]) := by
  intro n found hfound
  rcases Nat.lt_trichotomy n told.length with hless | rfl | hmore
  · rw [List.getElem?_append_left hless] at hfound
    rw [previous?_append (Nat.le_of_lt hless)]
    exact htale n found hfound
  · rw [List.getElem?_append_right (Nat.le_refl _), Nat.sub_self] at hfound
    rw [previous?_append (Nat.le_refl _), previous?_length, ← Option.some.inj hfound]
    exact hnext
  · rw [List.getElem?_eq_none (by simpa using Nat.succ_le_of_lt hmore)] at hfound
    cases hfound

/-! ### How far a tale has come -/

/-- The event fails at a block, after what was told of it: on a visit to the block, or because the
block cannot answer the user. -/
inductive Fails (world : Journal → World) (flow : Flow) (before : Session) (occasion : Occasion)
    (told : List Trace) : String → Failure → Prop
  | visiting {block : Block} {visit : Visit} {session : Session} {failure : Failure}
      (hblock : flow.block? block.id = some block)
      (hvisit : visit? (world session.journal) block.id block.config = some visit)
      (htold : session.told = before.told ++ told) (hcurrent : session.current = some block.id)
      (hfails : (visit session).1 = .error failure) :
      Fails world flow before occasion told block.id failure
  | answering {block : Block} {answer : Visit} {failure : Failure} (htold : told = [])
      (hblock : currentBlock? flow before = some block)
      (hanswer : occasion.answer? block = some answer)
      (hfails : (answer (occasion.heard before)).1 = .error failure) :
      Fails world flow before occasion told block.id failure

/-- What is told last, and how the conversation stands then. -/
inductive Closing (world : Journal → World) (flow : Flow) (before : Session) (occasion : Occasion)
    (after : Session) (front : List Trace) : Trace → Prop
  | idle (hwaiting : after.waiting = none) : Closing world flow before occasion after front .idle
  | suspended {id : String} {waiting : Waiting} (hcurrent : after.current = some id)
      (hwaiting : after.waiting = some waiting) :
      Closing world flow before occasion after front (.suspended id waiting)
  | failed {id : String} {failure : Failure} (hwaiting : after.waiting = none)
      (hfails : Fails world flow before occasion front id failure) :
      Closing world flow before occasion after front (.failed id failure.message)

/-- A conversation may go on from its loops, or come to rest if there are none. -/
structure Unbound (flow : Flow) (session : Session) (last : Option Trace) : Prop where
  rests : Next flow last .idle
  leaves : session.frames ≠ [] → ∀ {source port target : String}, flow.Joins source port target →
    Next flow last (.followed source port target)

/-- How a tale may go on or how it has ended, by how far the event has come. -/
def Stands (world : Journal → World) (flow : Flow) (before : Session) (occasion : Occasion)
    (told : List Trace) (session : Session) : Progress → Prop
  | .going (some id) => session.waiting = none ∧ Next flow told.getLast? (.running id) ∧
      ∃ block, flow.block? id = some block ∧ block.kind ≠ .start
  | .going none => session.waiting = none ∧ Unbound flow session told.getLast?
  | .held (.inFlow id) => session.waiting = none ∧ session.current = some id ∧
      told.getLast? = some (.running id) ∧ ∃ block, flow.block? id = some block ∧ block.kind ≠ .start
  | .held (.removed _) => False
  | .ended => told = [] ∨ ∃ front last, told = front ++ [last] ∧
      Closing world flow before occasion session front last
  | .broken _ => True

/-- What the event has told so far is a tale, and it stands as far as the event has come. -/
def Tells (world : Journal → World) (flow : Flow) (before : Session) (occasion : Occasion)
    (outcome : Session × Progress) : Prop :=
  ∃ told, outcome.1.told = before.told ++ told ∧ Tale flow told ∧
    Stands world flow before occasion told outcome.1 outcome.2

/-- The block at the end of an edge. -/
theorem block?_of_joins (hflow : flow.Consistent) {source port target : String}
    (hjoins : flow.Joins source port target) :
    ∃ block, flow.block? target = some block ∧ block.kind ≠ .start := by
  obtain ⟨edge, hedge, -, -, rfl⟩ := hjoins
  obtain ⟨-, -, block, hblock, -, hid, -, hkind⟩ := hflow.ends edge hedge
  exact ⟨block, (Flow.block?_eq_some_iff hflow.nodup_blocks).2 ⟨hblock, hid⟩, hkind⟩

theorem joins_of_targetOf (hflow : flow.Consistent) (hblock : flow.block? block.id = some block)
    {port target : String} (htarget : block.targetOf port = some target) :
    flow.Joins block.id port target :=
  (hflow.targetOf_iff block (Flow.mem_of_block? hblock) port target).1 htarget

/-- A block is left where the next edge may be followed, or else the conversation goes on from its
loops. -/
theorem Tale.cross (hflow : flow.Consistent) (htale : Tale flow told)
    (hblock : flow.block? block.id = some block) {port : String} {after : Session}
    (htold : session.told = before.told ++ told)
    (hafter : after.told = session.told ++ crossing block port) (hwaiting : after.waiting = none)
    (hunbound : Unbound flow after told.getLast?)
    (hleaves : ∀ {source port target : String}, flow.Joins source port target →
      Next flow told.getLast? (.followed source port target)) :
    Tells world flow before occasion (after, .going (block.targetOf port)) := by
  rw [crossing] at hafter
  cases htarget : block.targetOf port with
  | none =>
    rw [htarget, Option.toList_none, List.map_nil, List.append_nil, htold] at hafter
    exact ⟨told, hafter, htale, hwaiting, hunbound⟩
  | some target =>
    have hjoins := joins_of_targetOf hflow hblock htarget
    rw [htarget, Option.toList_some, List.map_singleton, htold, List.append_assoc] at hafter
    refine ⟨told ++ [.followed block.id port target], hafter, htale.snoc (hleaves hjoins), hwaiting,
      ?_, block?_of_joins hflow hjoins⟩
    rw [List.getLast?_concat]
    exact .arrives

/-! ### Each part of an event continues the tale -/

theorem tells_opens (hflow : flow.Consistent) {outcome : Session × Progress}
    (hopens : Opens flow before occasion outcome) : Tells world flow before occasion outcome := by
  cases hopens with
  | quiet htold => exact ⟨[], htold.trans (List.append_nil _).symm, .nil, .inl rfl⟩
  | @anew after start rest hstarts hseat htold =>
    obtain ⟨-, hwaiting, hframes⟩ := Session.seat_eq_iff.1 hseat
    obtain ⟨hmem, -⟩ := List.mem_filter.1 (hstarts ▸ List.mem_cons_self : start ∈ flow.starts)
    refine ⟨[.started start.id], htold, Tale.nil.snoc (.starts hstarts), ?_⟩
    cases htarget : start.targetOf defaultPort with
    | none => exact ⟨hwaiting, .restsAtOnce, fun hsome => absurd hframes hsome⟩
    | some target =>
      have hjoins := (hflow.targetOf_iff start hmem defaultPort target).1 htarget
      exact ⟨hwaiting, .sets hstarts htarget, block?_of_joins hflow hjoins⟩
  | @left after block port hblock hwaiting htold =>
    have hthere := (currentBlock?_eq_some_iff.1 hblock).1
    exact Tale.nil.cross hflow hthere (List.append_nil _).symm htold hwaiting
      ⟨.rests, fun _ => .leaves⟩ .leaves
  | failed hblock hanswer hfails hwaiting htold =>
    exact ⟨_, htold, Tale.nil.snoc .failsFirst,
      .inr ⟨[], _, rfl, .failed hwaiting (.answering rfl hblock hanswer hfails)⟩⟩

theorem tells_resumes (hflow : flow.Consistent) (htale : Tale flow told)
    (htold : session.told = before.told ++ told) (hwaiting : session.waiting = none)
    (hunbound : Unbound flow session told.getLast?) {outcome : Session × Progress}
    (hresumes : Resumes flow session outcome) : Tells world flow before occasion outcome := by
  cases hresumes with
  | idle hframes hafter hidle =>
    refine ⟨told ++ [.idle], ?_, htale.snoc hunbound.rests,
      .inr ⟨told, .idle, rfl, .idle (hafter.trans hwaiting)⟩⟩
    rw [hidle, htold, List.append_assoc]
  | lost hframes hafter hsame =>
    exact ⟨told, hsame.trans htold, htale, hafter.trans hwaiting, hunbound.rests,
      fun _ => hunbound.leaves hframes⟩
  | broken hsame => exact ⟨told, hsame.trans htold, htale, trivial⟩
  | went hframes hblock hafter hcrossing =>
    exact htale.cross hflow hblock htold hcrossing (hafter.trans hwaiting)
      ⟨hunbound.rests, fun _ => hunbound.leaves hframes⟩ (hunbound.leaves hframes)

theorem tells_visit (hflow : flow.Consistent) (htale : Tale flow told)
    (htold : session.told = before.told ++ told) (hwaiting : session.waiting = none)
    (hcurrent : session.current = some block.id) (hlast : told.getLast? = some (.running block.id))
    (hblock : flow.block? block.id = some block) (hkind : block.kind ≠ .start) :
    Tells world flow before occasion (visitBlock (world session.journal) session block) := by
  have hfollows {source port target : String} (hjoins : flow.Joins source port target) :
      Next flow told.getLast? (.followed source port target) := hlast ▸ .goesOn hjoins
  have hreports := reports_visitBlock (world session.journal) session hkind
  generalize visitBlock (world session.journal) session block = outcome at hreports ⊢
  cases hreports with
  | failed hvisit hfails hafter hfailed =>
    refine ⟨told ++ [.failed block.id _], ?_, htale.snoc (hlast ▸ .fails),
      .inr ⟨told, _, rfl, .failed hafter (.visiting hblock hvisit htold hcurrent hfails)⟩⟩
    rw [hfailed, htold, List.append_assoc]
  | parked hstays hparked hsuspended =>
    refine ⟨told ++ [.suspended block.id _], ?_, htale.snoc (hlast ▸ .parks),
      .inr ⟨told, _, rfl, .suspended (hstays.trans hcurrent) hparked⟩⟩
    rw [hsuspended, htold, List.append_assoc]
  | passed hafter hcrossing =>
    exact htale.cross hflow hblock htold hcrossing (hafter.trans hwaiting)
      ⟨hlast ▸ .restsAt, fun _ => hfollows⟩ hfollows

/-- Whatever an event has told by any time is a tale. -/
theorem tells_of_proceeds (hflow : flow.Consistent) {outcome : Session × Progress}
    (hproceeds : Proceeds world flow (occasion.begin flow before) outcome) :
    Tells world flow before occasion outcome := by
  induction hproceeds with
  | refl => exact tells_opens hflow (opens_occasion flow before occasion)
  | @step session next gated _ ih =>
    obtain ⟨told, htold, htale, hstands⟩ := ih
    cases next with
    | none =>
      obtain ⟨hwaiting, hunbound⟩ := hstands
      exact tells_resumes hflow htale htold hwaiting hunbound (resumes_continueLoop flow session)
    | some id =>
      obtain ⟨hwaiting, hnext, block, hblock, hkind⟩ := hstands
      obtain rfl : block.id = id := Flow.id_of_block? hblock
      have hcome : (session.comeTo block.id).told = before.told ++ (told ++ [.running block.id]) := by
        rw [← List.append_assoc, ← htold]
        exact Session.told_tell _ _
      have hlast : (told ++ [Trace.running block.id]).getLast? = some (.running block.id) :=
        List.getLast?_concat
      cases gated with
      | true =>
        simp only [step, hblock, if_true]
        exact ⟨_, hcome, htale.snoc hnext, hwaiting, rfl, hlast, block, hblock, hkind⟩
      | false =>
        simp only [step, hblock, Bool.false_eq_true, if_false]
        exact tells_visit hflow (htale.snoc hnext) hcome hwaiting rfl hlast hblock hkind
  | @release session held block _ hheld ih =>
    obtain ⟨told, htold, htale, hstands⟩ := ih
    cases held with
    | removed lost => exact hstands.elim
    | inFlow id =>
      obtain ⟨hwaiting, hcurrent, hlast, found, hfound, hkind⟩ := hstands
      obtain rfl : found = block := Option.some.inj (hfound.symm.trans hheld)
      obtain rfl : found.id = id := Flow.id_of_block? hfound
      exact tells_visit hflow htale htold hwaiting hcurrent hlast hfound hkind

theorem Progress.eq_ended {progress : Progress} (hended : progress.Ended) : progress = .ended := by
  cases progress with
  | ended => rfl
  | _ => exact hended.elim

/-! ### What a tale says -/

def lastRunning? (told : List Trace) : Option String :=
  (told.filterMap fun
    | .running id => some id
    | _ => none).getLast?

/-- The tale of an event describes the event. -/
structure Describes (world : Journal → World) (flow : Flow) (before : Session)
    (occasion : Occasion) (after : Session) (told : List Trace) : Prop where
  /-- The last thing told, and no other, tells how the event ended. -/
  closed : told = [] ∨ ∃ front last, told = front ++ [last] ∧ last.Closes ∧
    ∀ event ∈ front, ¬event.Closes
  /-- An edge is followed to its end. -/
  followed : ∀ n source port target, told[n]? = some (.followed source port target) →
    flow.Joins source port target ∧ told[n + 1]? = some (.running target)
  /-- A block is come to along an edge, or else right after the beginning. -/
  running : ∀ n id, told[n]? = some (.running id) →
    (∃ m source port, n = m + 1 ∧ told[m]? = some (.followed source port id)) ∨
      (n = 1 ∧ ∃ start rest, flow.starts = start :: rest ∧ told[0]? = some (.started start.id) ∧
        start.targetOf defaultPort = some id)
  /-- The conversation waits at the block that it came to last. -/
  suspended : ∀ id waiting, .suspended id waiting ∈ told ↔
    lastRunning? told = some id ∧ after.current = some id ∧ after.waiting = some waiting
  failed : ∀ id error, .failed id error ∈ told → ∃ failure, error = Failure.message failure ∧
    Fails world flow before occasion told.dropLast id failure

/-- Nothing is told after the end. -/
theorem Next.not_closes {last event : Trace} (hnext : Next flow (some last) event) :
    ¬last.Closes := by
  cases hnext <;> exact id

theorem Tale.next (htale : Tale flow told) {n : Nat} {event : Trace}
    (hevent : told[n + 1]? = some event) :
    ∃ last, told[n]? = some last ∧ Next flow (some last) event := by
  have hless := (List.getElem?_eq_some_iff.1 hevent).1
  refine ⟨told[n], List.getElem?_eq_getElem (Nat.lt_of_succ_lt hless), ?_⟩
  have hnext := htale (n + 1) event hevent
  rwa [previous?, List.getElem?_eq_getElem (Nat.lt_of_succ_lt hless)] at hnext

/-- Only the last thing told tells an end. -/
theorem Tale.front_not_closes {front : List Trace} {last : Trace}
    (htale : Tale flow (front ++ [last])) : ∀ event ∈ front, ¬event.Closes := by
  intro event hevent
  obtain ⟨n, hn, rfl⟩ := List.getElem_of_mem hevent
  have hless : n + 1 < (front ++ [last]).length := by simpa using hn
  obtain ⟨found, hfound, hnext⟩ := htale.next (List.getElem?_eq_getElem hless)
  rw [List.getElem?_append_left hn, List.getElem?_eq_getElem hn] at hfound
  exact Option.some.inj hfound ▸ hnext.not_closes

/-- What does not tell an end is followed by something. -/
theorem exists_next {front : List Trace} {last event : Trace} (hlast : last.Closes) {n : Nat}
    (hevent : (front ++ [last])[n]? = some event) (hopen : ¬event.Closes) :
    ∃ next, (front ++ [last])[n + 1]? = some next := by
  obtain ⟨hless, hfound⟩ := List.getElem?_eq_some_iff.1 hevent
  rw [List.length_append, List.length_singleton] at hless
  by_cases hn : n < front.length
  · exact ⟨_, List.getElem?_eq_getElem (by simpa using hn)⟩
  · obtain rfl : n = front.length := by omega
    rw [List.getElem_concat_length rfl] at hfound
    exact absurd (hfound ▸ hlast) hopen

theorem Closing.closes {front : List Trace} {last : Trace}
    (hclosing : Closing world flow before occasion session front last) : last.Closes := by
  cases hclosing <;> trivial

theorem Tale.followed (htale : Tale flow told) {n : Nat} {source port target : String}
    (hfollowed : told[n]? = some (.followed source port target)) :
    flow.Joins source port target ∧
      ∀ next, told[n + 1]? = some next → next = .running target := by
  constructor
  · have hnext := htale n _ hfollowed
    generalize previous? told n = last at hnext
    cases hnext with
    | leaves hjoins => exact hjoins
    | goesOn hjoins => exact hjoins
  · intro next hnext
    obtain ⟨last, hlast, hnext⟩ := htale.next hnext
    obtain rfl := Option.some.inj (hfollowed.symm.trans hlast)
    cases hnext
    rfl

theorem Tale.started (htale : Tale flow told) {n : Nat} {id : String}
    (hstarted : told[n]? = some (.started id)) : n = 0 := by
  cases n with
  | zero => rfl
  | succ n =>
    obtain ⟨last, -, hnext⟩ := htale.next hstarted
    cases hnext

theorem Tale.running (htale : Tale flow told) {n : Nat} {id : String}
    (hrunning : told[n]? = some (.running id)) :
    (∃ m source port, n = m + 1 ∧ told[m]? = some (.followed source port id)) ∨
      (n = 1 ∧ ∃ start rest, flow.starts = start :: rest ∧ told[0]? = some (.started start.id) ∧
        start.targetOf defaultPort = some id) := by
  cases n with
  | zero =>
    have hnext := htale 0 _ hrunning
    cases hnext
  | succ n =>
    obtain ⟨last, hlast, hnext⟩ := htale.next hrunning
    cases hnext with
    | arrives => exact .inl ⟨n, _, _, rfl, hlast⟩
    | sets hstarts htarget =>
      obtain rfl := htale.started hlast
      exact .inr ⟨rfl, _, _, hstarts, hlast, htarget⟩

/-- The block that the conversation waits at is the one that it came to last. -/
theorem Tale.suspended {front : List Trace} {id : String} {waiting : Waiting}
    (htale : Tale flow (front ++ [.suspended id waiting])) :
    lastRunning? (front ++ [.suspended id waiting]) = some id := by
  have hlength : (front ++ [Trace.suspended id waiting])[front.length]? =
      some (.suspended id waiting) := List.getElem?_concat_length
  have hnext := htale _ _ hlength
  rw [previous?_append (Nat.le_refl _), previous?_length] at hnext
  generalize hlast : front.getLast? = last at hnext
  cases hnext
  obtain ⟨rest, rfl⟩ := List.getLast?_eq_some_iff.1 hlast
  simp [lastRunning?]

/-- The trace of a preview describes its run: what an event tells is a tale of what the event did. -/
theorem told_of_event (hflow : flow.WellFormed) {after : Session}
    (hproceeds : Proceeds world flow (occasion.begin flow before) (after, .ended)) :
    ∃ told, after.told = before.told ++ told ∧
      Describes world flow before occasion after told := by
  obtain ⟨told, htold, htale, hstands⟩ := tells_of_proceeds hflow.toConsistent hproceeds
  refine ⟨told, htold, ?_⟩
  rcases hstands with rfl | ⟨front, last, rfl, hclosing⟩
  · exact ⟨.inl rfl, nofun, nofun, by simp [lastRunning?], nofun⟩
  have hcloses := hclosing.closes
  have hfront := htale.front_not_closes
  have hmem {event : Trace} (hevent : event ∈ front ++ [last]) (hend : event.Closes) :
      event = last := by
    rcases List.mem_append.1 hevent with hevent | hevent
    · exact absurd hend (hfront event hevent)
    · exact List.mem_singleton.1 hevent
  refine ⟨.inr ⟨front, last, rfl, hcloses, hfront⟩, ?_, fun n id => htale.running, ?_, ?_⟩
  · intro n source port target hfollowed
    obtain ⟨hjoins, hnext⟩ := htale.followed hfollowed
    obtain ⟨next, hfound⟩ := exists_next hcloses hfollowed id
    exact ⟨hjoins, hnext next hfound ▸ hfound⟩
  · intro id waiting
    constructor
    · intro hsuspended
      obtain rfl := hmem hsuspended trivial
      cases hclosing with
      | suspended hcurrent hwaiting => exact ⟨htale.suspended, hcurrent, hwaiting⟩
    · rintro ⟨-, hcurrent, hwaiting⟩
      cases hclosing with
      | idle hnone | failed hnone => exact absurd (hnone.symm.trans hwaiting) nofun
      | suspended hthere hparked =>
        obtain rfl := Option.some.inj (hthere.symm.trans hcurrent)
        obtain rfl := Option.some.inj (hparked.symm.trans hwaiting)
        simp
  · intro id error hfailed
    obtain rfl := hmem hfailed trivial
    rw [List.dropLast_concat]
    cases hclosing with
    | failed hwaiting hfails => exact ⟨_, rfl, hfails⟩

theorem told_loopEdits :
    let setting := quietSetting loopEdits
    let begun := Occasion.start.begin setting.flow {}
    let after := (run setting 9 begun.1 begun.2).1
    Proceeds setting.world setting.flow begun (after, .ended) ∧
      after.told = [.started "block_1", .running "block_2",
        .followed "block_2" "loop_body" "block_3", .running "block_3",
        .followed "block_2" "loop_body" "block_3", .running "block_3",
        .followed "block_2" "default" "block_4", .running "block_4", .suspended "block_4" .input] ∧
      ∃ told, after.told = Session.told {} ++ told ∧
        Describes setting.world setting.flow {} .start after told := by
  intro setting begun after
  have hended : (run setting 9 begun.1 begun.2).2 = .ended :=
    Progress.eq_ended (by decide +kernel)
  have hproceeds : Proceeds setting.world setting.flow begun (after, .ended) :=
    hended ▸ proceeds_run 9 .refl
  exact ⟨hproceeds, by decide +kernel, told_of_event (wellFormed_quietSetting loopEdits) hproceeds⟩

end DialogGraph.Preview

import DialogGraph.Proofs.Flow.Mending
import DialogGraph.Proofs.Workspace.Refusing
import Mathlib.Data.List.Count

/-!
# Mirrors of the edges

Listeners of the edges are told of each edge that comes in and of each that goes. A mirror is a
listener that begins with the edges that are there, adds what comes in at the end and takes off what
goes; whatever else listens, and even if that fails every time, the mirror has the edges of the flow
after every edit that is announced. Edges come in by connecting alone, but go in five ways; all of
these tell of an edge exactly when they take it off the list.
-/

namespace DialogGraph

/-- What listeners of the edges are told. -/
inductive Change where
  | added (edge : Edge)
  | removed (edge : Edge)
  deriving DecidableEq

def Event.change? : Event → Option Change
  | connected edge => some (.added edge)
  | disconnected edge => some (.removed edge)
  | created _ | configured .. => none

/-- The changes of the edges among events, in order. -/
def changes (events : List Event) : List Change := events.filterMap Event.change?

/-- A list of edges after a change. An edge that is not on the list cannot be taken off. -/
def Change.reflect (edges : List Edge) : Change → Option (List Edge)
  | added edge => some (edges ++ [edge])
  | removed edge => if edge ∈ edges then some (edges.erase edge) else none

/-! ### Listeners -/

/-- A listener of the edges: what it holds, and what it makes of a change, be it with an error. -/
structure Listener where
  State : Type
  state : State
  hear : State → Change → State × Except String Unit

namespace Listener

/-- A listener after it was told of a change. -/
def after (listener : Listener) (change : Change) : Listener :=
  { listener with state := (listener.hear listener.state change).1 }

/-- A listener that holds a copy of the edges. -/
def mirror (edges : List Edge) : Listener where
  State := List Edge
  state := edges
  hear edges change :=
    match change.reflect edges with
    | some after => (after, .ok ())
    | none => (edges, .error "list.remove(x): x not in list")

/-- Tells listeners of a change, one after the other. Errors are noted and go no further. -/
def notify (change : Change) : List Listener → List Listener × List String
  | [] => ([], [])
  | listener :: rest =>
    let (others, noted) := notify change rest
    match (listener.hear listener.state change).2 with
    | .ok () => (listener.after change :: others, noted)
    | .error reason => (listener.after change :: others, reason :: noted)

/-- Tells listeners of changes, one after the other. -/
def broadcast (changes : List Change) (listeners : List Listener) : List Listener :=
  changes.foldl (fun listeners change => (notify change listeners).1) listeners

/-- Every listener is told, whether or not those before it fail. -/
theorem notify_fst (change : Change) (listeners : List Listener) :
    (notify change listeners).1 = listeners.map fun listener => listener.after change := by
  induction listeners with
  | nil => rfl
  | cons listener rest ih =>
    rw [notify, List.map_cons, ← ih]
    dsimp only
    split <;> rfl

theorem broadcast_eq (changes : List Change) (listeners : List Listener) :
    broadcast changes listeners = listeners.map fun listener => changes.foldl after listener := by
  induction changes generalizing listeners with
  | nil => exact (List.map_id listeners).symm
  | cons change rest ih =>
    rw [broadcast, List.foldl_cons, notify_fst, ← broadcast, ih, List.map_map]
    rfl

theorem after_mirror {edges next : List Edge} {change : Change}
    (hreflect : change.reflect edges = some next) : (mirror edges).after change = mirror next := by
  simp only [after, mirror, hreflect]

theorem foldl_after_mirror {edges next : List Edge} {changes : List Change}
    (hreflect : changes.foldlM Change.reflect edges = some next) :
    changes.foldl after (mirror edges) = mirror next := by
  induction changes generalizing edges with
  | nil =>
    obtain rfl := Option.some.inj hreflect
    rfl
  | cons change rest ih =>
    rw [List.foldlM_cons] at hreflect
    obtain ⟨middle, hmiddle, hrest⟩ := Option.bind_eq_some_iff.1 hreflect
    rw [List.foldl_cons, after_mirror hmiddle]
    exact ih hrest

/-- A mirror among other listeners reflects what can be reflected. -/
theorem getElem?_broadcast_mirror {edges next : List Edge} {changes : List Change}
    (hreflect : changes.foldlM Change.reflect edges = some next) (front back : List Listener) :
    (broadcast changes (front ++ mirror edges :: back))[front.length]? = some (mirror next) := by
  simp [broadcast_eq, foldl_after_mirror hreflect]

end Listener

/-! ### What events tell of the edges -/

/-- Whether events tell exactly how the edges have changed: they can be reflected one after the
other, and every edge is told of as often as it has come in, and as often as it has gone. -/
structure Reports (before : List Edge) (events : List Event) (after : List Edge) : Prop where
  reflected : (changes events).foldlM Change.reflect before = some after
  added : ∀ edge, (changes events).count (.added edge) = after.count edge - before.count edge
  removed : ∀ edge, (changes events).count (.removed edge) = before.count edge - after.count edge

/-- Whether events tell of edges that have gone, and of nothing else. -/
def Drops (before : List Edge) (events : List Event) (after : List Edge) : Prop :=
  ∃ lost, changes events = lost.map .removed ∧ (∀ edge, lost.count edge ≤ before.count edge) ∧
    after = before.diff lost

variable {before middle after : List Edge} {events later : List Event}

theorem changes_append (events later : List Event) :
    changes (events ++ later) = changes events ++ changes later :=
  List.filterMap_append

theorem reflected_append (hfirst : (changes events).foldlM Change.reflect before = some middle)
    (hsecond : (changes later).foldlM Change.reflect middle = some after) :
    (changes (events ++ later)).foldlM Change.reflect before = some after := by
  rw [changes_append, List.foldlM_append, hfirst]
  exact hsecond

/-- Edges can be taken off one after the other if each is there often enough. -/
theorem reflected_removed {lost : List Edge}
    (hlost : ∀ edge, lost.count edge ≤ before.count edge) :
    (lost.map Change.removed).foldlM Change.reflect before = some (before.diff lost) := by
  induction lost generalizing before with
  | nil => rfl
  | cons edge rest ih =>
    have hedge : edge ∈ before := by
      have hcount := hlost edge
      rw [List.count_cons_self] at hcount
      exact List.count_pos_iff.1 (by omega)
    have hrest : ∀ other, rest.count other ≤ (before.erase edge).count other := by
      intro other
      have hcount := hlost other
      rw [List.count_cons] at hcount
      rw [List.count_erase]
      omega
    rw [List.map_cons, List.foldlM_cons, Change.reflect, if_pos hedge, List.diff_cons]
    exact ih hrest

namespace Drops

theorem silent (hsilent : changes events = []) : Drops before events before :=
  ⟨[], hsilent, fun _ => Nat.zero_le _, rfl⟩

theorem single {edge : Edge} (hedge : edge ∈ before) :
    Drops before [.disconnected edge] (before.erase edge) := by
  refine ⟨[edge], rfl, ?_, by rw [List.diff_cons, List.diff_nil]⟩
  intro other
  rw [List.count_singleton]
  split_ifs with hsame
  · exact List.count_pos_iff.2 (eq_of_beq hsame ▸ hedge)
  · exact Nat.zero_le _

theorem trans (hfirst : Drops before events middle) (hsecond : Drops middle later after) :
    Drops before (events ++ later) after := by
  obtain ⟨lost, hchanges, hcount, rfl⟩ := hfirst
  obtain ⟨others, hlater, hothers, rfl⟩ := hsecond
  refine ⟨lost ++ others, ?_, ?_, (List.diff_append before lost others).symm⟩
  · rw [changes_append, hchanges, hlater, List.map_append]
  · intro edge
    have hleft := hothers edge
    have hlost := hcount edge
    rw [List.count_diff] at hleft
    rw [List.count_append]
    omega

theorem reports (hdrops : Drops before events after) : Reports before events after := by
  obtain ⟨lost, hchanges, hcount, rfl⟩ := hdrops
  refine ⟨hchanges ▸ reflected_removed hcount, ?_, ?_⟩
  · intro edge
    have hnone : Change.added edge ∉ lost.map Change.removed := by simp
    rw [hchanges, List.count_eq_zero_of_not_mem hnone, List.count_diff]
    omega
  · intro edge
    have hinjective : Function.Injective Change.removed := fun _ _ => Change.removed.inj
    have hlost := hcount edge
    rw [hchanges, List.count_map_of_injective _ _ hinjective, List.count_diff]
    omega

end Drops

theorem Reports.silent (hsilent : changes events = []) : Reports before events before :=
  (Drops.silent hsilent).reports

theorem Reports.connected (before : List Edge) (edge : Edge) :
    Reports before [.connected edge] (before ++ [edge]) := by
  refine ⟨rfl, ?_, ?_⟩
  · intro other
    simp [changes, Event.change?, List.count_singleton]
  · intro other
    simp [changes, Event.change?]

/-! ### Ways in which edges go -/

namespace Flow

variable {flow after : Flow} {id : String} {events : List Event}

theorem disconnect_drops (hafter : flow.disconnect id = .ok (after, events)) :
    Drops flow.edges events after.edges := by
  rw [disconnect] at hafter
  split at hafter
  next => cases hafter
  next edge hedge =>
    obtain ⟨rfl, rfl⟩ := Prod.mk.inj (Except.ok.inj hafter)
    exact .single (mem_of_edge? hedge)

theorem disconnectAll_drops (flow : Flow) (edges : List Edge) :
    Drops flow.edges (flow.disconnectAll edges).2 (flow.disconnectAll edges).1.edges := by
  refine List.foldlRecOn (motive := fun state : Flow × List Event =>
    Drops flow.edges state.2 state.1.edges) edges _ (.silent rfl) ?_
  intro state hstate edge hedge
  cases hdisconnect : state.1.disconnect edge.id with
  | ok pair => exact hstate.trans (disconnect_drops hdisconnect)
  | error reason => exact hstate

theorem delete_drops (hafter : flow.delete id = .ok (after, events)) :
    Drops flow.edges events after.edges := by
  rw [delete] at hafter
  split_ifs at hafter
  obtain ⟨rfl, rfl⟩ := Prod.mk.inj (Except.ok.inj hafter)
  exact disconnectAll_drops flow (flow.edgesTouching id)

theorem repairBlock_drops (flow : Flow) (id : String) :
    Drops flow.edges (flow.repairBlock id).events (flow.repairBlock id).flow.edges := by
  rw [repairBlock]
  split
  next => exact .silent rfl
  next block hblock => exact disconnectAll_drops flow _

theorem update_drops {field : String} {value : Value}
    (hafter : flow.update id field value = .ok (after, events)) :
    Drops flow.edges events after.edges := by
  rw [update] at hafter
  split at hafter
  next => cases hafter
  next block hblock =>
    split at hafter
    next => cases hafter
    next => cases hafter
    next config hset =>
      obtain ⟨rfl, rfl⟩ := Prod.mk.inj (Except.ok.inj hafter)
      exact (repairBlock_drops (flow.modify id fun block => { block with config := config }) id).trans
        (.silent rfl)

theorem repair_drops (flow : Flow) :
    Drops flow.edges flow.repair.events flow.repair.flow.edges := by
  rw [repair_eq_rewired]
  refine ⟨(flow.misfits [] [] flow.edges).map Prod.fst, ?_, ?_, rfl⟩
  · simp [changes, Event.change?, Function.comp_def]
  · intro edge
    have hcount := (misfits_append_keepers_perm flow [] [] flow.edges).count_eq edge
    rw [List.count_append] at hcount
    omega

end Flow

/-- Whether listeners are told of what an edit does to the edges. A flow that is cleared or replaced
is not told of edge by edge. -/
def Edit.Announced : Edit → Prop
  | create .. | move .. | update .. | connect .. | disconnect _ | delete _ | repairBlock _
  | repair => True
  | clear | load .. | record | undo | redo | forget => False

namespace Workspace

variable {workspace : Workspace}

def news (workspace : Workspace) : List Edit → List Event
  | [] => []
  | edit :: rest => workspace.told edit ++ (workspace.perform edit).1.news rest

theorem edited_drops {result : Except Rejection (Flow × List Event)}
    (hresult : ∀ flow events, result = .ok (flow, events) →
      Drops workspace.flow.edges events flow.edges) :
    Drops workspace.flow.edges (heard result)
      (workspace.edited (result.map Prod.fst)).1.flow.edges := by
  cases result with
  | ok pair => exact hresult pair.1 pair.2 rfl
  | error reason => exact .silent rfl

theorem create_reports (flow : Flow) (config : Config) (id : Option String) (x y : Value) :
    Reports flow.edges (create flow config id x y).events (create flow config id x y).flow.edges := by
  cases id with
  | none =>
    rw [create, Flow.createNew]
    split <;> exact .silent rfl
  | some id =>
    rw [create, Flow.createAs]
    split_ifs <;> exact .silent rfl

theorem connect_reports (flow : Flow) (source port target : String) (wanted : Option String) :
    Reports flow.edges (flow.connect source port target wanted).events
      (flow.connect source port target wanted).flow.edges := by
  obtain ⟨counter, -, hcounted⟩ := flow.edgeIdFor_flow wanted
  rcases flow.connect_cases source port target wanted with
    ⟨reason, -, heq⟩ | ⟨-, ⟨fault, -, heq⟩ | ⟨id, -, heq⟩⟩
  · rw [heq]
    exact .silent rfl
  · rw [heq, hcounted]
    exact .silent rfl
  · rw [heq, hcounted, Flow.attach_eq]
    exact .connected flow.edges ⟨id, source, port, target⟩

/-- An edit that is announced is told of exactly. -/
theorem perform_reports {edit : Edit} (hedit : edit.Announced) :
    Reports workspace.flow.edges (workspace.told edit) (workspace.perform edit).1.flow.edges := by
  cases edit with
  | create design id x y =>
    rw [told, perform, created]
    cases design.config with
    | error fault => exact .silent rfl
    | ok config => exact create_reports workspace.flow config id x y
  | move id x y =>
    rw [told, perform, Flow.move]
    split_ifs <;> exact .silent rfl
  | update id field value => exact (edited_drops fun _ _ => Flow.update_drops).reports
  | connect source port target wanted =>
    exact connect_reports workspace.flow source port target wanted
  | disconnect id => exact (edited_drops fun _ _ => Flow.disconnect_drops).reports
  | delete id => exact (edited_drops fun _ _ => Flow.delete_drops).reports
  | repairBlock id => exact (Flow.repairBlock_drops workspace.flow id).reports
  | repair => exact (Flow.repair_drops workspace.flow).reports
  | clear | load | record | undo | redo | forget => exact hedit.elim

theorem run_reflected {edits : List Edit} (hedits : ∀ edit ∈ edits, edit.Announced) :
    (changes (workspace.news edits)).foldlM Change.reflect workspace.flow.edges =
      some (workspace.run edits).flow.edges := by
  induction edits generalizing workspace with
  | nil => rfl
  | cons edit rest ih =>
    obtain ⟨hedit, hrest⟩ := List.forall_mem_cons.1 hedits
    exact reflected_append (perform_reports hedit).reflected (ih hrest)

/-- Whatever announced edits are carried out, and whatever else listens: a mirror that began with the
edges of the flow has its edges afterwards, in their order; and the next edit is told of exactly,
each edge once that comes in and each edge once that goes. -/
theorem mirror_of_run (workspace : Workspace) {edits : List Edit}
    (hedits : ∀ edit ∈ edits, edit.Announced) :
    (∀ front back,
      (Listener.broadcast (changes (workspace.news edits))
        (front ++ .mirror workspace.flow.edges :: back))[front.length]? =
          some (.mirror (workspace.run edits).flow.edges)) ∧
    ∀ edit, edit.Announced →
      Reports (workspace.run edits).flow.edges ((workspace.run edits).told edit)
        ((workspace.run edits).perform edit).1.flow.edges :=
  ⟨Listener.getElem?_broadcast_mirror (run_reflected hedits), fun _ => perform_reports⟩

def trioEdits : List Edit :=
  [.create (.named (.text "start")) none (.int 0) (.int 0),
    .create (.named (.text "message")) none (.int 1) (.int 0),
    .create (.named (.text "message")) none (.int 2) (.int 0),
    .connect "block_1" "default" "block_2" none, .connect "block_2" "default" "block_3" none]

/-- `mirror_of_run` at `trioEdits`, between listeners that fail every time: the mirror has both
edges, and when the block in the middle is deleted, both are told of. -/
theorem mirror_of_trioEdits :
    let failing : Listener := ⟨Unit, (), fun _ _ => ((), .error "unreachable")⟩
    let first : Edge := ⟨"conn_1", "block_1", "default", "block_2"⟩
    let second : Edge := ⟨"conn_2", "block_2", "default", "block_3"⟩
    let deleted := (fresh.run trioEdits).told (.delete "block_2")
    (Listener.broadcast (changes (fresh.news trioEdits)) [failing, .mirror [], failing])[1]? =
        some (.mirror [first, second]) ∧
      changes deleted = [.removed first, .removed second] ∧ Reports [first, second] deleted [] := by
  intro failing first second deleted
  have hannounced : ∀ edit ∈ trioEdits, edit.Announced := by simp [trioEdits, Edit.Announced]
  have hedges : (fresh.run trioEdits).flow.edges = [first, second] := by decide +kernel
  have hleft : ((fresh.run trioEdits).perform (.delete "block_2")).1.flow.edges = [] := by
    decide +kernel
  obtain ⟨hmirror, hreports⟩ := mirror_of_run fresh hannounced
  refine ⟨?_, by decide +kernel, ?_⟩
  · rw [← hedges]
    exact hmirror [failing] [failing]
  · rw [← hedges, ← hleft]
    exact hreports (.delete "block_2") trivial

end Workspace

end DialogGraph

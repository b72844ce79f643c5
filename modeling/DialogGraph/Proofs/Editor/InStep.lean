import DialogGraph.Proofs.Editor.Turns
import DialogGraph.Proofs.Snapshot.Keyed

/-!
# The history keeps step with the flow

As long as no request ends in a fault, the present snapshot of the history is that of the flow: a
change is recorded, and a request that is turned down reaches neither of the two. Hence a step back
brings back what was there before the last change, and a step on what the change made of it.
-/

namespace DialogGraph

open DialogGraph.Snapshot

namespace History

variable {history : History} {snapshot : Value}

/-- What was recorded is the present, or equals it. -/
theorem present_recordSnapshot (hsnapshot : snapshot.Keyed) :
    ∃ entry, (history.recordSnapshot snapshot).present = some entry ∧
      entry.equal snapshot = true := by
  have hpush : ∃ entry, (history.push snapshot).present = some entry ∧
      entry.equal snapshot = true := ⟨snapshot, rfl, hsnapshot.equal_self⟩
  rw [recordSnapshot]
  cases hpresent : history.present with
  | none => exact hpush
  | some entry =>
    dsimp only
    split_ifs with hequal
    · exact ⟨entry, hpresent, hequal⟩
    · exact hpush

/-- The present becomes past when something else is recorded, if there is room for two. -/
theorem past_recordSnapshot {entry : Value} (hroom : 2 ≤ history.limit)
    (hpresent : history.present = some entry) (hchanged : entry.equal snapshot = false) :
    ∃ rest, (history.recordSnapshot snapshot).past = entry :: rest := by
  obtain ⟨room, hlimit⟩ : ∃ room, history.limit - 1 = room + 1 := ⟨history.limit - 2, by omega⟩
  refine ⟨history.past.take room, ?_⟩
  simp [recordSnapshot, push, hpresent, hchanged, hlimit]

theorem past_redo {flow : Flow} {entry : Value} (hpresent : history.present = some entry)
    (hresult : (history.redo flow).2.result = .ok true) :
    ∃ rest, (history.redo flow).1.past = entry :: rest := by
  refine ⟨history.past, ?_⟩
  rw [redo, forth?] at hresult ⊢
  cases hfuture : history.future with
  | nil =>
    rw [hfuture] at hresult
    cases hresult
  | cons next rest => simp [restore, hpresent]

end History

namespace Workspace

/-- A workspace in which nothing was left half way and whose flow is as it was recorded. -/
structure Steady (limit : Nat) (workspace : Workspace) : Prop extends Kept limit workspace where
  present : ∃ entry, workspace.history.present = some entry ∧
    entry.equal (save workspace.flow) = true

variable {limit : Nat} {workspace : Workspace} {entry : Value}

theorem Kept.keyed_present (hkept : workspace.Kept limit)
    (hpresent : workspace.history.present = some entry) : entry.Keyed := by
  rw [← hkept.fits.present?_log] at hpresent
  obtain ⟨flow, hflow, rfl⟩ := hkept.loadable entry (Log.mem_of_present? hpresent)
  exact keyed_save hflow

theorem Kept.steady_record (hkept : workspace.Kept limit) :
    (workspace.perform .record).1.Steady limit := by
  have hrecord : Edit.record.Undoable := (Edit.undoable_iff_of_not_load (by simp)).2 trivial
  have hafter := hkept.perform hrecord
  exact ⟨hafter, History.present_recordSnapshot (keyed_save hafter.storable)⟩

/-- A flow that matches the present snapshot is saved as the flow of the workspace is. -/
theorem Steady.equal_save (hsteady : workspace.Steady limit)
    (hpresent : workspace.history.present = some entry) {flow : Flow}
    (hflow : entry.equal (save flow) = true) :
    (save workspace.flow).equal (save flow) = true := by
  obtain ⟨present, hfound, hmatches⟩ := hsteady.present
  rw [hpresent] at hfound
  obtain rfl := Option.some.inj hfound
  exact (hsteady.toKept.keyed_present hpresent).equal_of_equal hmatches hflow

/-- Where a step through the history leads to, the flow is as it was recorded. -/
theorem Steady.restore (hsteady : workspace.Steady limit) {step : Option (History × Value)}
    {moved : Option Log} (hfollows : History.Follows limit step moved)
    (hentries : ∀ next, moved = some next → next.entries = workspace.history.log.entries)
    (hafter : Kept limit ⟨(workspace.history.restore step workspace.flow).2.flow,
      (workspace.history.restore step workspace.flow).1⟩) :
    Steady limit ⟨(workspace.history.restore step workspace.flow).2.flow,
      (workspace.history.restore step workspace.flow).1⟩ := by
  refine ⟨hafter, ?_⟩
  cases hfollows with
  | stays => exact hsteady.present
  | @moves next snapshot hfits hpresent =>
    have hrestored := (hsteady.toKept.restore (.moves hfits hpresent) (hentries _ rfl)).2
    rw [hfits.present?_log] at hrestored
    exact ⟨_, hrestored, (keyed_save hafter.storable).equal_self⟩

theorem Steady.undo (hsteady : workspace.Steady limit) :
    (workspace.perform .undo).1.Steady limit := by
  have hundo : Edit.undo.Undoable := (Edit.undoable_iff_of_not_load (by simp)).2 trivial
  exact hsteady.restore (History.follows_back? hsteady.fits) (fun _ => Log.entries_of_undo?)
    (hsteady.toKept.perform hundo)

theorem Steady.redo (hsteady : workspace.Steady limit) :
    (workspace.perform .redo).1.Steady limit := by
  have hredo : Edit.redo.Undoable := (Edit.undoable_iff_of_not_load (by simp)).2 trivial
  exact hsteady.restore (History.follows_forth? hsteady.fits) (fun _ => Log.entries_of_redo?)
    (hsteady.toKept.perform hredo)

/-- A step to a snapshot is taken. -/
theorem Kept.restore_some (hkept : workspace.Kept limit) {after : History} {snapshot : Value}
    {moved : Option Log} (hfollows : History.Follows limit (some (after, snapshot)) moved)
    (hentries : ∀ next, moved = some next → next.entries = workspace.history.log.entries) :
    (workspace.history.restore (some (after, snapshot)) workspace.flow).2.result = .ok true := by
  cases hfollows with
  | moves hfits hpresent => exact (hkept.restore (.moves hfits hpresent) (hentries _ rfl)).1

/-- A step back into the past makes the present future. -/
theorem Kept.undo_past (hkept : workspace.Kept limit)
    (hpresent : workspace.history.present = some entry) {earlier : Value} {rest : List Value}
    (hpast : workspace.history.past = earlier :: rest) :
    (workspace.history.undo workspace.flow).2.result = .ok true ∧
      (workspace.history.undo workspace.flow).1.present = some earlier ∧
      (workspace.history.undo workspace.flow).1.future = entry :: workspace.history.future := by
  have hback := History.follows_back? hkept.fits
  have hresult : (workspace.history.restore workspace.history.back? workspace.flow).2.result =
      .ok true := by
    rw [History.back?, hpast] at hback ⊢
    exact hkept.restore_some hback fun _ => Log.entries_of_undo?
  refine ⟨hresult, ?_⟩
  simp [History.undo, History.restore, History.back?, hpast, hpresent]

/-- A step on into the future makes that the present. -/
theorem Kept.redo_future (hkept : workspace.Kept limit) {later : Value} {rest : List Value}
    (hfuture : workspace.history.future = later :: rest) :
    (workspace.history.redo workspace.flow).2.result = .ok true ∧
      (workspace.history.redo workspace.flow).1.present = some later := by
  have hforth := History.follows_forth? hkept.fits
  have hresult : (workspace.history.restore workspace.history.forth? workspace.flow).2.result =
      .ok true := by
    rw [History.forth?, hfuture] at hforth ⊢
    exact hkept.restore_some hforth fun _ => Log.entries_of_redo?
  refine ⟨hresult, ?_⟩
  simp [History.redo, History.restore, History.forth?, hfuture]

end Workspace

namespace Editor

/-! ### Turns -/

namespace Turn

variable {limit : Nat} {before after : Workspace} {reply : Option Reply}

theorem steady (hturn : Turn before after reply) (hsteady : before.Steady limit)
    (hreply : ∀ breakage, reply ≠ some (.broken breakage)) : after.Steady limit := by
  cases hturn with
  | idle => exact hsteady
  | edited hplain hundoable => exact (hsteady.toKept.perform hundoable).steady_record
  | redone => exact hsteady.redo
  | broken after breakage => exact absurd rfl (hreply breakage)

/-- What is turned down changes nothing. -/
theorem eq_of_refused (hturn : Turn before after reply) {refusal : Reply} {status : Nat}
    (hreply : reply = some refusal) (hstatus : refusal.status? = some status)
    (hrefused : 400 ≤ status) : after = before := by
  have hfine : ¬refusal.Fine := fun hfine => absurd (hfine status hstatus) (by omega)
  cases hturn with
  | idle => rfl
  | edited hplain hundoable hreplied =>
    obtain rfl := Option.some.inj hreply
    exact absurd hreplied hfine
  | redone hresult hreplied =>
    obtain rfl := Option.some.inj hreply
    exact absurd hreplied hfine
  | broken after breakage =>
    obtain rfl := Option.some.inj hreply
    cases hstatus

/-- When the flow has changed, what was the present before is the nearest past. -/
theorem past_of_changed (hturn : Turn before after reply) (hsteady : before.Steady limit)
    (hroom : 2 ≤ limit) (hreply : ∀ breakage, reply ≠ some (.broken breakage))
    (hchanged : (save before.flow).equal (save after.flow) = false) {entry : Value}
    (hpresent : before.history.present = some entry)
    (hentry : entry.equal (save before.flow) = true) :
    ∃ rest, after.history.past = entry :: rest := by
  have hnew : entry.equal (save after.flow) = false := by
    rw [Bool.eq_false_iff] at hchanged ⊢
    exact fun hequal => hchanged (hsteady.equal_save hpresent hequal)
  cases hturn with
  | idle => exact absurd hentry (by rw [hnew]; decide)
  | @edited edit _ hplain =>
    have hhistory : (before.perform edit).1.history = before.history :=
      Workspace.perform_history hplain
    apply History.past_recordSnapshot _ _ hnew
    · rw [hhistory, hsteady.fits.limit_eq]
      exact hroom
    · rw [hhistory]
      exact hpresent
  | redone hresult => exact History.past_redo hpresent hresult
  | broken after breakage => exact absurd rfl (hreply breakage)

end Turn

/-! ### Editors -/

/-- An editor that came of a setup by requests of which none ended in a fault. -/
inductive Reached (setup : Setup) : Editor → Prop
  | opened {editor : Editor} (hopened : ofSetup? setup = some editor) : Reached setup editor
  | served {editor : Editor} {outside : Outside} {request : Request} {outcome : Outcome}
      (hbefore : Reached setup editor) (hserve : editor.serve outside request = outcome)
      (hserved : ∀ breakage, outcome.reply ≠ some (.broken breakage)) :
      Reached setup outcome.editor

variable {setup : Setup} {editor : Editor} {outside : Outside} {request : Request}
variable {outcome : Outcome}

theorem exists_ofSetup? (hsize : 1 ≤ setup.historySize) :
    ∃ editor, ofSetup? setup = some editor := by
  have hlimit : 0 < setup.historySize.toNat := by omega
  rw [ofSetup?, History.ofLimit?, dif_pos hlimit]
  exact ⟨_, rfl⟩

theorem steady_of_ofSetup? (hopened : ofSetup? setup = some editor) :
    editor.workspace.Steady setup.historySize.toNat := by
  rw [ofSetup?, History.ofLimit?] at hopened
  split_ifs at hopened with hlimit
  · have hempty : Workspace.Kept setup.historySize.toNat
        ⟨Flow.empty, History.empty setup.historySize.toNat hlimit⟩ :=
      ⟨.empty hlimit, .empty, fun _ hentry => by cases hentry⟩
    have hstart :
        (Edit.create (.given (Config.initial .start)) none (.int 100) (.int 100)).Undoable :=
      undoable_of_saveable (by simp) ⟨rfl, rfl, rfl⟩
    obtain rfl := Option.some.inj hopened
    exact (hempty.perform hstart).steady_record
  · cases hopened

theorem steady_serve (hserve : editor.serve outside request = outcome)
    (hsteady : editor.workspace.Steady setup.historySize.toNat)
    (hserved : ∀ breakage, outcome.reply ≠ some (.broken breakage)) :
    outcome.editor.workspace.Steady setup.historySize.toNat := by
  by_cases hundo : Action.ofRequest request = .ok .undo
  · rcases serve_undo hserve hundo with ⟨breakage, hbroken⟩ | ⟨hworkspace, -⟩
    · exact absurd hbroken (hserved breakage)
    · rw [hworkspace]
      exact hsteady.undo
  · exact (turn_serve hserve hundo).steady hsteady hserved

theorem Reached.steady (hreached : Reached setup editor) :
    editor.workspace.Steady setup.historySize.toNat := by
  induction hreached with
  | opened hopened => exact steady_of_ofSetup? hopened
  | served hbefore hserve hserved ih => exact steady_serve hserve ih hserved

/-- Whether a step back from here leads to a flow, and a step on from there here again. The steps
are answered as done. -/
def Reverts (editor : Editor) (flow : Flow) : Prop :=
  ∀ outside request undone, Action.ofRequest request = .ok .undo →
    editor.serve outside request = undone →
      undone.Answers 200 ∧ (save undone.editor.flow).equal (save flow) = true ∧
        ∀ outside request redone, Action.ofRequest request = .ok .redo →
          undone.editor.serve outside request = redone →
            redone.Answers 200 ∧ (save redone.editor.flow).equal (save editor.flow) = true

/-- How the history of an editor keeps step with its flow. -/
structure InStep (setup : Setup) (editor : Editor) : Prop where
  /-- The present snapshot is that of the flow. -/
  present : ∃ entry, editor.history.present = some entry ∧ entry.equal (save editor.flow) = true
  /-- A request that is turned down changes nothing. -/
  refused : ∀ outside request outcome status, editor.serve outside request = outcome →
    outcome.Answers status → 400 ≤ status →
      outcome.editor.flow = editor.flow ∧ outcome.editor.history = editor.history
  /-- What a request made of the flow can be taken back, if there is room for two snapshots. -/
  reverts : 2 ≤ setup.historySize → ∀ outside request outcome,
    editor.serve outside request = outcome → Action.ofRequest request ≠ .ok .undo →
      (∀ breakage, outcome.reply ≠ some (.broken breakage)) →
        (save editor.flow).equal (save outcome.editor.flow) = false →
          outcome.editor.Reverts editor.flow

theorem workspace_of_refused (hserve : editor.serve outside request = outcome) {status : Nat}
    (hanswers : outcome.Answers status) (hrefused : 400 ≤ status) :
    outcome.editor.workspace = editor.workspace := by
  obtain ⟨reply, hreply, hstatus⟩ := hanswers
  by_cases hundo : Action.ofRequest request = .ok .undo
  · rcases serve_undo hserve hundo with ⟨breakage, hbroken⟩ | ⟨-, done, hdone, hok⟩
    · rw [hreply] at hbroken
      obtain rfl := Option.some.inj hbroken
      cases hstatus
    · rw [hreply] at hdone
      obtain rfl := Option.some.inj hdone
      rw [hstatus] at hok
      obtain rfl := Option.some.inj hok
      omega
  · exact (turn_serve hserve hundo).eq_of_refused hreply hstatus hrefused

/-- What is in the past can be gone back to. -/
theorem reverts_of_past (hsteady : editor.workspace.Steady setup.historySize.toNat)
    {earlier : Value} {rest : List Value} (hpast : editor.history.past = earlier :: rest)
    {flow : Flow} (hflow : earlier.equal (save flow) = true) : editor.Reverts flow := by
  intro outside request undone hundo hserve
  obtain ⟨later, hlater, hmatches⟩ := hsteady.present
  obtain ⟨hback, hpresent, hfuture⟩ := hsteady.toKept.undo_past hlater hpast
  obtain ⟨hundone, hanswered⟩ := serve_undo_of_ok hserve hundo hback
  have hthere : undone.editor.workspace.Steady setup.historySize.toNat := hundone ▸ hsteady.undo
  have hhistory : undone.editor.workspace.history =
      (editor.workspace.history.undo editor.workspace.flow).1 := congrArg Workspace.history hundone
  rw [← hhistory] at hpresent hfuture
  refine ⟨hanswered, hthere.equal_save hpresent hflow, ?_⟩
  intro outside request redone hredo hserve
  obtain ⟨hforth, hpresent⟩ := hthere.toKept.redo_future hfuture
  obtain ⟨hredone, hanswered⟩ := serve_redo_of_ok hserve hredo hforth
  have hhere : redone.editor.workspace.Steady setup.historySize.toNat := hredone ▸ hthere.redo
  have hhistory : redone.editor.workspace.history =
      (undone.editor.workspace.history.redo undone.editor.workspace.flow).1 :=
    congrArg Workspace.history hredone
  rw [← hhistory] at hpresent
  exact ⟨hanswered, hhere.equal_save hpresent hmatches⟩

/-- Whatever is asked of an editor, as long as no request ends in a fault: its history keeps step
with its flow. -/
theorem inStep_of_reached (hsize : 1 ≤ setup.historySize) :
    (∃ editor, ofSetup? setup = some editor) ∧
      ∀ editor, Reached setup editor → InStep setup editor := by
  refine ⟨exists_ofSetup? hsize, ?_⟩
  intro editor hreached
  have hsteady := hreached.steady
  refine ⟨hsteady.present, ?_, ?_⟩
  · intro outside request outcome status hserve hanswers hrefused
    have hsame := workspace_of_refused hserve hanswers hrefused
    exact ⟨congrArg Workspace.flow hsame, congrArg Workspace.history hsame⟩
  · intro hroom outside request outcome hserve hrequest hserved hchanged
    obtain ⟨entry, hpresent, hentry⟩ := hsteady.present
    obtain ⟨rest, hpast⟩ := (turn_serve hserve hrequest).past_of_changed hsteady (by omega) hserved
      hchanged hpresent hentry
    exact reverts_of_past (steady_serve hserve hsteady hserved) hpast hentry

/-- A request to delete the block that a new editor begins with. -/
def deletion : Request := ⟨"DELETE", "/api/nodes/block_1", ""⟩

theorem ofRequest_deletion : Action.ofRequest deletion = .ok (.delete "block_1") := by
  have hpath : (Address.ofText deletion.address).path = "/api/nodes/block_1" := by decide +kernel
  have hresource : Resource.ofPath? "/api/nodes/block_1" = some (.block "block_1") := by
    decide +kernel
  simp only [Action.ofRequest, hpath, hresource]
  rfl

/-- In a new editor the first block can be deleted, and that can be taken back. -/
theorem inStep_of_reached_deletion :
    ∃ editor, ofSetup? {} = some editor ∧ ∀ outside,
      (editor.serve outside deletion).editor.flow.blocks = [] ∧
        InStep {} (editor.serve outside deletion).editor ∧
        (editor.serve outside deletion).editor.Reverts editor.flow := by
  obtain ⟨⟨editor, hopened⟩, hinStep⟩ :=
    inStep_of_reached (show 1 ≤ Setup.historySize {} by decide)
  have hdeleted : (ofSetup? {}).map (fun editor =>
      let result := editor.withBlock "block_1" fun _ => editor.delete "block_1"
      (result.2.status?, result.1.flow.blocks.isEmpty,
        (save editor.flow).equal (save result.1.flow))) = some (some 204, true, false) := by
    decide +kernel
  rw [hopened, Option.map_some, Option.some.injEq, Prod.mk.injEq, Prod.mk.injEq] at hdeleted
  obtain ⟨hstatus, hblocks, hchanged⟩ := hdeleted
  refine ⟨editor, hopened, fun outside => ?_⟩
  generalize hserve : editor.serve outside deletion = outcome
  have hdone := hserve
  rw [serve, ofRequest_deletion] at hdone
  subst hdone
  have hserved : ∀ breakage, (some (Reply.written
      (editor.withBlock "block_1" fun _ => editor.delete "block_1").2)) ≠
        some (.broken breakage) := by
    intro breakage hbroken
    rw [← Reply.status?_written, Option.some.inj hbroken] at hstatus
    cases hstatus
  have hundo : Action.ofRequest deletion ≠ .ok .undo := by
    rw [ofRequest_deletion]
    rintro ⟨⟩
  refine ⟨List.isEmpty_iff.1 hblocks, hinStep _ (.served (.opened hopened) hserve hserved), ?_⟩
  exact (hinStep editor (.opened hopened)).reverts (by decide) outside deletion _ hserve hundo
    hserved hchanged

end Editor

end DialogGraph

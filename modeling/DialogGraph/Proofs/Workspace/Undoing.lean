import DialogGraph.Proofs.History.Log
import DialogGraph.Proofs.Workspace.Saving

/-!
# Undoing and redoing

Whatever is done in a workspace, its history is a bounded log. A step through the history also brings
the flow to what the log has at its cursor then, provided that no load stopped half way before: what
such a load leaves behind is not what comes out when it is saved and loaded again.
-/

namespace DialogGraph

open DialogGraph.Snapshot

/-- The log after an edit. A flow that is recorded is saved as the given snapshot. -/
def Log.after (limit : Nat) (log : Log) (snapshot : Value) : Edit → Log
  | .record => log.record limit snapshot
  | .undo => log.undo?.getD log
  | .redo => log.redo?.getD log
  | .forget => .empty
  | _ => log

/-- A log whose entries can all be loaded without loss. -/
def Log.Loadable (log : Log) : Prop :=
  ∀ entry ∈ log.entries, ∃ flow : Flow, flow.Storable ∧ save flow = entry

namespace Edit

/-- Whether an edit leaves the history alone. -/
def Plain : Edit → Prop
  | record | undo | redo | forget => False
  | _ => True

/-- A saveable edit that does not stop half way: if it is a load, the numbers in the snapshot can be
used, or the snapshot does not pass the check in the first place. -/
structure Undoable (edit : Edit) : Prop where
  saveable : edit.Saveable
  replayable : ∀ strict data parts, edit = load strict data → check strict data = .ok parts →
    Replayable parts

theorem undoable_iff_of_not_load {edit : Edit} (hload : ∀ strict data, edit ≠ load strict data) :
    edit.Undoable ↔ edit.Saveable :=
  ⟨Undoable.saveable, fun hsaveable =>
    ⟨hsaveable, fun strict data _ hedit => absurd hedit (hload strict data)⟩⟩

end Edit

namespace Log

variable {limit : Nat} {log : Log}

theorem after_plain {snapshot : Value} {edit : Edit} (hplain : edit.Plain) :
    log.after limit snapshot edit = log := by
  cases edit with
  | record | undo | redo | forget => exact hplain.elim
  | _ => rfl

/-- An edit brings no entry into the log but what it records. -/
theorem mem_after {snapshot entry : Value} {edit : Edit}
    (hentry : entry ∈ (log.after limit snapshot edit).entries) :
    entry ∈ log.entries ∨ entry = snapshot := by
  have hmoved : ∀ moved : Option Log, (∀ next, moved = some next → next.entries = log.entries) →
      (moved.getD log).entries = log.entries := by
    intro moved hentries
    cases moved with
    | none => rfl
    | some next => exact hentries next rfl
  cases edit with
  | record => exact mem_record hentry
  | undo =>
    rw [after, hmoved _ fun _ => entries_of_undo?] at hentry
    exact .inl hentry
  | redo =>
    rw [after, hmoved _ fun _ => entries_of_redo?] at hentry
    exact .inl hentry
  | forget => cases hentry
  | _ => exact .inl hentry

/-- The log only ever gets snapshots of storable flows. -/
theorem Loadable.after (hlog : log.Loadable) {flow : Flow} (hflow : flow.Storable) (edit : Edit) :
    (log.after limit (save flow) edit).Loadable := by
  intro entry hentry
  rcases mem_after hentry with hold | hnew
  · exact hlog entry hold
  · exact ⟨flow, hflow, hnew.symm⟩

end Log

namespace History

variable {limit : Nat} {history : History} {flow : Flow} {step : Option (History × Value)}

theorem Fits.marks (hfits : history.Fits limit) (n : Nat) :
    { history with marks := n }.Fits limit :=
  ⟨hfits.limit_eq, hfits.length_le, hfits.absent⟩

theorem restore_log {moved : Option Log} (hfollows : Follows limit step moved) :
    (restore step history flow).1.log = moved.getD history.log := by
  cases hfollows <;> rfl

theorem restore_fits {moved : Option Log} (hfits : history.Fits limit)
    (hfollows : Follows limit step moved) : (restore step history flow).1.Fits limit := by
  cases hfollows with
  | stays => exact hfits
  | moves hafter _ => exact hafter

/-- Where the log does not move, nothing happens. -/
theorem restore_stays (hfollows : Follows limit step none) :
    restore step history flow = (history, ⟨flow, [], .ok false⟩) := by
  cases hfollows
  rfl

/-- Where the log moves, what it has at its cursor then is loaded. -/
theorem restore_loads {next : Log} (hfollows : Follows limit step (some next)) :
    ∃ snapshot, next.present? = some snapshot ∧
      (restore step history flow).2.flow = (load flow false snapshot).outcome.flow ∧
      (restore step history flow).2.result =
        (load flow false snapshot).outcome.result.map fun _ => true := by
  cases hfollows with
  | @moves after snapshot hafter hpresent =>
    exact ⟨snapshot, hafter.present?_log.trans hpresent, rfl, rfl⟩

/-- Where the log moves, the flow becomes what the log has at its cursor then. -/
theorem restore_moves {next : Log} (hfollows : Follows limit step (some next))
    (hloadable : next.Loadable) :
    (restore step history flow).2.result = .ok true ∧
      next.present? = some (save (restore step history flow).2.flow) := by
  obtain ⟨snapshot, hat, hflow, hresult⟩ := restore_loads hfollows
  obtain ⟨saved, hsaved, rfl⟩ := hloadable snapshot (Log.mem_of_present? hat)
  obtain ⟨hok, counter, hloaded⟩ := load_save hsaved flow false
  rw [hresult, hok, hflow, hloaded]
  exact ⟨rfl, hat⟩

end History

namespace Workspace

/-- What is true of the history of a workspace at any time: it is a bounded log, every edit does to
it what it does to the log, and a step that the log does not allow is turned down. -/
structure Logged (limit : Nat) (workspace : Workspace) : Prop where
  bounded : workspace.history.log.Bounded limit
  perform_log : ∀ edit, (workspace.perform edit).1.history.log =
    workspace.history.log.after limit (save (workspace.perform edit).1.flow) edit
  /-- A record tells doubles apart that are no numbers, and changes nothing else. -/
  recorded : ∃ n, (workspace.perform .record).1.flow = workspace.flow.mark n
  undo_refused : workspace.history.log.undo? = none →
    workspace.history.undo workspace.flow = (workspace.history, ⟨workspace.flow, [], .ok false⟩)
  redo_refused : workspace.history.log.redo? = none →
    workspace.history.redo workspace.flow = (workspace.history, ⟨workspace.flow, [], .ok false⟩)

/-- The same step again and again, each time after some edits. -/
def legs (step : Edit) (between : List (List Edit)) : List Edit :=
  between.flatMap fun edits => edits ++ [step]

/-- Steps back, then steps on. -/
def trip (there back : List (List Edit)) : List Edit := legs .undo there ++ legs .redo back

/-- What steps through the history do to the flow of a workspace: one that the log allows brings the
flow to what the log has at its cursor then, and so do as many steps back as on again, whatever plain
edits come between. -/
structure Restores (workspace : Workspace) : Prop where
  undo : ∀ next, workspace.history.log.undo? = some next →
    (workspace.history.undo workspace.flow).2.result = .ok true ∧
      next.present? = some (save (workspace.history.undo workspace.flow).2.flow)
  redo : ∀ next, workspace.history.log.redo? = some next →
    (workspace.history.redo workspace.flow).2.result = .ok true ∧
      next.present? = some (save (workspace.history.redo workspace.flow).2.flow)
  trip : ∀ there back : List (List Edit),
    (∀ edits ∈ there ++ back, ∀ edit ∈ edits, edit.Plain ∧ edit.Undoable) →
      there.length = back.length → back ≠ [] →
        there.length ≤ workspace.history.log.cursor →
          (workspace.run (trip there back)).history.log = workspace.history.log ∧
            workspace.history.log.present? =
              some (save (workspace.run (trip there back)).flow)

variable {limit : Nat} {workspace : Workspace}

/-! ### The history -/

theorem edited_history (result : Except Rejection Flow) :
    (workspace.edited result).1.history = workspace.history := by
  cases result <;> rfl

theorem created_history (design : Design) (id : Option String) (x y : Value) :
    (workspace.created design id x y).1.history = workspace.history := by
  rw [created]
  split <;> rfl

/-- Only records, steps and forgetting reach the history. -/
theorem perform_history {edit : Edit} (hplain : edit.Plain) :
    (workspace.perform edit).1.history = workspace.history := by
  cases edit with
  | create design id x y => exact created_history design id x y
  | move id x y => exact edited_history _
  | update id field value => exact edited_history _
  | disconnect id => exact edited_history _
  | delete id => exact edited_history _
  | record | undo | redo | forget => exact hplain.elim
  | connect | clear | repairBlock | repair | load => rfl

theorem perform_log (hfits : workspace.history.Fits limit) (edit : Edit) :
    (workspace.perform edit).1.history.Fits limit ∧
      (workspace.perform edit).1.history.log =
        workspace.history.log.after limit (save (workspace.perform edit).1.flow) edit := by
  have hplain : edit.Plain → (workspace.perform edit).1.history.Fits limit ∧
      (workspace.perform edit).1.history.log =
        workspace.history.log.after limit (save (workspace.perform edit).1.flow) edit := by
    intro hplain
    rw [perform_history hplain, Log.after_plain hplain]
    exact ⟨hfits, rfl⟩
  cases edit with
  | record =>
    have hmarked := hfits.marks (workspace.history.marks + 1)
    exact ⟨hmarked.recordSnapshot _, History.log_recordSnapshot hmarked _⟩
  | undo =>
    have hfollows := History.follows_back? hfits
    exact ⟨History.restore_fits hfits hfollows, History.restore_log hfollows⟩
  | redo =>
    have hfollows := History.follows_forth? hfits
    exact ⟨History.restore_fits hfits hfollows, History.restore_log hfollows⟩
  | forget => exact ⟨hfits.clear, workspace.history.log_clear⟩
  | _ => exact hplain trivial

theorem run_fits (hfits : workspace.history.Fits limit) (edits : List Edit) :
    (workspace.run edits).history.Fits limit := by
  induction edits generalizing workspace with
  | nil => exact hfits
  | cons edit rest ih => exact ih (perform_log hfits edit).1

theorem logged (hfits : workspace.history.Fits limit) : workspace.Logged limit where
  bounded := hfits.bounded
  perform_log edit := (perform_log hfits edit).2
  recorded := ⟨workspace.history.marks, rfl⟩
  undo_refused hnone := History.restore_stays (hnone ▸ History.follows_back? hfits)
  redo_refused hnone := History.restore_stays (hnone ▸ History.follows_forth? hfits)

/-! ### The flow -/

/-- A workspace in which nothing was left half way: its flow and all entries of its log can be saved
and loaded. -/
structure Kept (limit : Nat) (workspace : Workspace) : Prop where
  fits : workspace.history.Fits limit
  storable : workspace.flow.Storable
  loadable : workspace.history.log.Loadable

theorem Kept.restore (hkept : workspace.Kept limit) {step : Option (History × Value)} {next : Log}
    (hfollows : History.Follows limit step (some next))
    (hentries : next.entries = workspace.history.log.entries) :
    (workspace.history.restore step workspace.flow).2.result = .ok true ∧
      next.present? = some (save (workspace.history.restore step workspace.flow).2.flow) := by
  apply History.restore_moves hfollows
  rw [Log.Loadable, hentries]
  exact hkept.loadable

/-- A step through the history never meets a fault. -/
theorem Kept.restore_result (hkept : workspace.Kept limit) {step : Option (History × Value)}
    {moved : Option Log} (hfollows : History.Follows limit step moved)
    (hentries : ∀ next, moved = some next → next.entries = workspace.history.log.entries) :
    ∃ stepped, (workspace.history.restore step workspace.flow).2.result = .ok stepped := by
  cases moved with
  | none =>
    rw [History.restore_stays hfollows]
    exact ⟨false, rfl⟩
  | some next => exact ⟨true, (hkept.restore hfollows (hentries next rfl)).1⟩

theorem edited_answer (result : Except Rejection Flow) :
    ∃ reason, (workspace.edited result).2 = .ok reason := by
  cases result with
  | ok flow => exact ⟨none, rfl⟩
  | error reason => exact ⟨some reason, rfl⟩

/-- A load that cannot stop half way leaves a storable flow, whatever comes of it. -/
theorem load_replayable_storable {flow : Flow} (hstorable : flow.Storable) {strict : Bool}
    {data : Value} (hreplayable : ∀ parts, check strict data = .ok parts → Replayable parts) :
    (load flow strict data).outcome.flow.Storable := by
  cases hcheck : check strict data with
  | error fault =>
    rw [load, hcheck]
    exact hstorable
  | ok parts =>
    apply load_storable
    rw [load, hcheck]
    exact (loadParts_eq_ok_iff parts).2 (hreplayable parts hcheck)

theorem Kept.perform_storable (hkept : workspace.Kept limit) {edit : Edit}
    (hedit : edit.Undoable) : (workspace.perform edit).1.flow.Storable := by
  have hanswered : (∃ reason, (workspace.perform edit).2 = .ok reason) →
      (workspace.perform edit).1.flow.Storable := by
    rintro ⟨reason, hanswer⟩
    exact Workspace.perform_storable hkept.storable hedit.saveable hanswer
  -- New ids and edges may be refused for want of a text; the flow is storable even then.
  cases edit with
  | create design id x y =>
    obtain ⟨rfl, hx, hy⟩ := hedit.saveable
    exact created_storable hkept.storable design hx hy
  | connect source port target wanted => exact hkept.storable.connect source port target wanted
  | load strict data =>
    exact load_replayable_storable hkept.storable fun parts => hedit.replayable strict data parts rfl
  | move | update | disconnect | delete => exact hanswered (edited_answer _)
  | clear | repairBlock | repair | record | forget => exact hanswered ⟨_, rfl⟩
  | undo =>
    obtain ⟨_, hresult⟩ := hkept.restore_result (History.follows_back? hkept.fits) fun _ =>
      Log.entries_of_undo?
    exact restore_storable hkept.storable hresult
  | redo =>
    obtain ⟨_, hresult⟩ := hkept.restore_result (History.follows_forth? hkept.fits) fun _ =>
      Log.entries_of_redo?
    exact restore_storable hkept.storable hresult

/-- An edit that does not stop half way leaves nothing half way. -/
theorem Kept.perform (hkept : workspace.Kept limit) {edit : Edit} (hedit : edit.Undoable) :
    (workspace.perform edit).1.Kept limit := by
  have hstorable := hkept.perform_storable hedit
  obtain ⟨hfits, hlog⟩ := perform_log hkept.fits edit
  refine ⟨hfits, hstorable, ?_⟩
  rw [hlog]
  exact hkept.loadable.after hstorable edit

theorem Kept.run (hkept : workspace.Kept limit) {edits : List Edit}
    (hedits : ∀ edit ∈ edits, edit.Undoable) : (workspace.run edits).Kept limit := by
  induction edits generalizing workspace with
  | nil => exact hkept
  | cons edit rest ih =>
    obtain ⟨hedit, hrest⟩ := List.forall_mem_cons.1 hedits
    exact ih (hkept.perform hedit) hrest

/-! ### There and back -/

theorem run_append (workspace : Workspace) (edits rest : List Edit) :
    workspace.run (edits ++ rest) = (workspace.run edits).run rest :=
  List.foldl_append

theorem run_legs_cons (workspace : Workspace) (step : Edit) (edits : List Edit)
    (rest : List (List Edit)) :
    workspace.run (legs step (edits :: rest)) =
      ((workspace.run edits).perform step).1.run (legs step rest) := by
  rw [legs, List.flatMap_cons, run_append, run_append]
  rfl

theorem run_plain_history {edits : List Edit} (hplain : ∀ edit ∈ edits, edit.Plain) :
    (workspace.run edits).history = workspace.history := by
  induction edits generalizing workspace with
  | nil => rfl
  | cons edit rest ih =>
    obtain ⟨hedit, hrest⟩ := List.forall_mem_cons.1 hplain
    exact (ih hrest).trans (perform_history hedit)

theorem Kept.leg_undo (hkept : workspace.Kept limit) {edits : List Edit}
    (hedits : ∀ edit ∈ edits, edit.Plain ∧ edit.Undoable) (hcursor : 0 < workspace.history.log.cursor) :
    ((workspace.run edits).perform .undo).1.Kept limit ∧
      ((workspace.run edits).perform .undo).1.history.log =
        { workspace.history.log with cursor := workspace.history.log.cursor - 1 } := by
  have hready := hkept.run fun edit hedit => (hedits edit hedit).2
  have hhistory : (workspace.run edits).history = workspace.history :=
    run_plain_history fun edit hedit => (hedits edit hedit).1
  have hundo := Log.undo?_eq_some_iff.2 ⟨hcursor, rfl⟩
  refine ⟨hready.perform ((Edit.undoable_iff_of_not_load (by simp)).2 trivial), ?_⟩
  rw [(perform_log hready.fits .undo).2, hhistory, Log.after, hundo]
  rfl

theorem Kept.leg_redo (hkept : workspace.Kept limit) {edits : List Edit}
    (hedits : ∀ edit ∈ edits, edit.Plain ∧ edit.Undoable)
    (hcursor : workspace.history.log.cursor + 1 < workspace.history.log.entries.length) :
    let after := ((workspace.run edits).perform .redo).1
    after.Kept limit ∧
      after.history.log =
        { workspace.history.log with cursor := workspace.history.log.cursor + 1 } ∧
      after.history.log.present? = some (save after.flow) := by
  have hready := hkept.run fun edit hedit => (hedits edit hedit).2
  have hhistory : (workspace.run edits).history = workspace.history :=
    run_plain_history fun edit hedit => (hedits edit hedit).1
  have hredo := Log.redo?_eq_some_iff.2 ⟨hcursor, rfl⟩
  have hlog : ((workspace.run edits).perform .redo).1.history.log =
      { workspace.history.log with cursor := workspace.history.log.cursor + 1 } := by
    rw [(perform_log hready.fits .redo).2, hhistory, Log.after, hredo]
    rfl
  refine ⟨hready.perform ((Edit.undoable_iff_of_not_load (by simp)).2 trivial), hlog, ?_⟩
  rw [← hhistory] at hredo
  rw [hlog, ← hhistory]
  exact (hready.restore (hredo ▸ History.follows_forth? hready.fits)
    (Log.entries_of_redo? hredo)).2

theorem Kept.run_there (hkept : workspace.Kept limit) {there : List (List Edit)}
    (hedits : ∀ edits ∈ there, ∀ edit ∈ edits, edit.Plain ∧ edit.Undoable)
    (hlength : there.length ≤ workspace.history.log.cursor) :
    (workspace.run (legs .undo there)).Kept limit ∧
      (workspace.run (legs .undo there)).history.log =
        { workspace.history.log with cursor := workspace.history.log.cursor - there.length } := by
  induction there generalizing workspace with
  | nil => exact ⟨hkept, by simp [legs, Workspace.run]⟩
  | cons edits rest ih =>
    obtain ⟨hfirst, hrest⟩ := List.forall_mem_cons.1 hedits
    rw [List.length_cons] at hlength ⊢
    obtain ⟨hafter, hlog⟩ := hkept.leg_undo hfirst (by omega)
    have hleft : (rest.length : Int) ≤ (workspace.history.log.cursor - 1) := by omega
    obtain ⟨hdone, hmoved⟩ := ih hafter hrest (by rw [hlog]; exact hleft)
    rw [run_legs_cons]
    refine ⟨hdone, ?_⟩
    rw [hmoved, hlog]
    simp only [Log.mk.injEq, true_and]
    omega

/-- After the last step on, the flow is what the log has at its cursor. -/
theorem Kept.run_back (hkept : workspace.Kept limit) {back : List (List Edit)}
    (hedits : ∀ edits ∈ back, ∀ edit ∈ edits, edit.Plain ∧ edit.Undoable) (hback : back ≠ [])
    (hlength : workspace.history.log.cursor + back.length <
      workspace.history.log.entries.length) :
    let after := workspace.run (legs .redo back)
    after.history.log =
        { workspace.history.log with cursor := workspace.history.log.cursor + back.length } ∧
      after.history.log.present? = some (save after.flow) := by
  induction back generalizing workspace with
  | nil => exact absurd rfl hback
  | cons edits rest ih =>
    obtain ⟨hfirst, hrest⟩ := List.forall_mem_cons.1 hedits
    rw [List.length_cons] at hlength ⊢
    obtain ⟨hafter, hlog, hpresent⟩ := hkept.leg_redo hfirst (by omega)
    rw [run_legs_cons]
    -- Plain edits may follow every step but the last, so only that one tells what the flow is.
    by_cases hlast : rest = []
    · subst hlast
      exact ⟨hlog, hpresent⟩
    · have hleft : workspace.history.log.cursor + 1 + rest.length <
          workspace.history.log.entries.length := by omega
      obtain ⟨hmoved, hdone⟩ := ih hafter hrest hlast (by rw [hlog]; exact hleft)
      refine ⟨?_, hdone⟩
      rw [hmoved, hlog]
      simp only [Log.mk.injEq, true_and]
      omega

theorem Kept.trip (hkept : workspace.Kept limit) {there back : List (List Edit)}
    (hedits : ∀ edits ∈ there ++ back, ∀ edit ∈ edits, edit.Plain ∧ edit.Undoable)
    (hlength : there.length = back.length) (hback : back ≠ [])
    (hcursor : there.length ≤ workspace.history.log.cursor) :
    (workspace.run (trip there back)).history.log = workspace.history.log ∧
      workspace.history.log.present? = some (save (workspace.run (trip there back)).flow) := by
  obtain ⟨hthere, hedits⟩ := List.forall_mem_append.1 hedits
  obtain ⟨hturned, hlog⟩ := hkept.run_there hthere hcursor
  have hbounded := hkept.fits.bounded.lt_length
  have hleft : workspace.history.log.cursor - there.length + back.length <
      workspace.history.log.entries.length := by omega
  obtain ⟨hmoved, hpresent⟩ := hturned.run_back hedits hback (by rw [hlog]; exact hleft)
  have hreturned : (workspace.run (Workspace.trip there back)).history.log =
      workspace.history.log := by
    rw [Workspace.trip, run_append, hmoved, hlog, hlength]
    simp
  refine ⟨hreturned, ?_⟩
  rw [← hreturned, Workspace.trip, run_append]
  exact hpresent

theorem Kept.restores (hkept : workspace.Kept limit) : workspace.Restores where
  undo _ hnext :=
    hkept.restore (hnext ▸ History.follows_back? hkept.fits) (Log.entries_of_undo? hnext)
  redo _ hnext :=
    hkept.restore (hnext ▸ History.follows_forth? hkept.fits) (Log.entries_of_redo? hnext)
  trip _ _ := hkept.trip

/-- Whatever is done in a workspace that starts without blocks and history, its history is a bounded
log; and if no load stopped half way, steps through the history bring the flow to what the log has. -/
theorem logged_and_restores_run (hlimit : 0 < limit) (edits : List Edit) :
    (run ⟨Flow.empty, History.empty limit hlimit⟩ edits).Logged limit ∧
      ((∀ edit ∈ edits, edit.Undoable) →
        (run ⟨Flow.empty, History.empty limit hlimit⟩ edits).Restores) := by
  have hfits := History.Fits.empty hlimit
  refine ⟨logged (run_fits hfits edits), ?_⟩
  intro hedits
  have hkept : Kept limit ⟨Flow.empty, History.empty limit hlimit⟩ :=
    ⟨hfits, .empty, fun _ hentry => by cases hentry⟩
  exact (hkept.run hedits).restores

/-- A block that is recorded at three places. -/
def sampleMoves : List Edit :=
  [.create (.named (.text "start")) none (.int 0) (.int 0), .record,
    .move "block_1" (.int 1) (.int 1), .record, .move "block_1" (.int 2) (.int 2), .record]

/-- Of three records two are kept, and a step back and on again makes up for another move. -/
theorem logged_and_restores_sampleMoves :
    let workspace := run ⟨Flow.empty, History.empty 2 (by decide)⟩ sampleMoves
    let after := workspace.run (trip [[.move "block_1" (.int 9) (.int 9)]] [[]])
    workspace.history.log.entries.length = 2 ∧ workspace.Logged 2 ∧
      after.history.log = workspace.history.log ∧
      workspace.history.log.present? = some (save after.flow) := by
  intro workspace after
  have hmoves : ∀ edit ∈ sampleMoves, edit.Undoable := by
    simp [sampleMoves, Edit.undoable_iff_of_not_load, Edit.Saveable, isNumber]
  have hlimit : 0 < 2 := by decide
  obtain ⟨hlogged, hrestores⟩ := logged_and_restores_run hlimit sampleMoves
  have hlength : workspace.history.log.entries.length = 2 := by decide +kernel
  have hcursor : (1 : Int) ≤ workspace.history.log.cursor := by decide +kernel
  have hmoved : (Edit.move "block_1" (.int 9) (.int 9)).Undoable := by
    simp [Edit.undoable_iff_of_not_load, Edit.Saveable, isNumber]
  refine ⟨hlength, hlogged, (hrestores hmoves).trip _ _ ?_ rfl (by simp) hcursor⟩
  simpa using ⟨trivial, hmoved⟩

/-- Edits that begin with a load that stops at the number of an edge: by then the blocks are there,
and the block counter is not set yet. -/
def halfLoadedEdits : List Edit :=
  [.load false (.record [
      ("blocks", .record [
        ("block_5", .record [("type", .text "start")]),
        ("block_6", .record [("type", .text "message")])]),
      ("connections", .list [.record [
        ("id", .text "conn_²"), ("from", .text "block_5"), ("fromPort", .text "default"),
        ("to", .text "block_6")]])]),
    .record, .move "block_5" (.int 1) (.int 1), .record]

/-- After a load that stopped half way, a step back does not restore what was recorded: the block
counter has become another one. -/
theorem not_restores_halfLoadedEdits :
    (∀ edit ∈ halfLoadedEdits, edit.Saveable) ∧
      ¬(run ⟨Flow.empty, History.empty 50 (by decide)⟩ halfLoadedEdits).Restores := by
  refine ⟨by simp [halfLoadedEdits, Edit.Saveable, isNumber], ?_⟩
  intro hrestores
  have hpresent := (hrestores.undo _ rfl).2
  have hcounter := congrArg (Option.map fun snapshot =>
    (parts snapshot).toOption.map Parts.counter) hpresent
  revert hcounter
  decide +kernel

end Workspace

end DialogGraph

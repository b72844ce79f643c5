import DialogGraph.Proofs.Literal.Spreading
import DialogGraph.Proofs.Snapshot.Wiring

/-!
# Messages on one line

What is wrong with a snapshot is told a line at a time. Most messages show the texts of the snapshot
between quotes, where a line feed is escaped. A few name a block, an end of a connection or a port
without quotes, so that they take one line only if these names do.
-/

namespace DialogGraph

open DialogGraph.Literal DialogGraph.Number DialogGraph.Text

/-! ### Parts of messages -/

@[simp]
theorem oneLine_quote (s : String) : OneLine (quote s) :=
  oneLine_of_none fun _ => isLineEnd_of_mem_quote

@[simp]
theorem oneLine_natText (n : Nat) : OneLine (natText n) :=
  oneLine_of_none (isLineEnd_of_numeric (numeric_natText n))

theorem Notice.oneLine_quotedNames (names : List String) : OneLine (quotedNames names) := by
  have hnames : OneLine (", ".intercalate ((names.mergeSort fun a b => a ≤ b).map quote)) :=
    oneLine_intercalate (by decide) (List.forall_mem_map.2 fun name _ => oneLine_quote name)
  simp only [quotedNames, oneLine_append, hnames, and_true]
  decide +kernel

theorem Json.oneLine_malformed (problem : Problem) (line column position : Nat) :
    OneLine (Fault.malformed problem line column position).message := by
  have hproblem : OneLine problem.message := by cases problem <;> decide +kernel
  change OneLine (problem.message ++ ": line " ++ natText line ++ " column " ++ natText column ++
    " (char " ++ natText position ++ ")")
  simp only [oneLine_append, oneLine_natText, hproblem, true_and, and_true]
  decide +kernel

/-! ### Faults in the shape -/

namespace Snapshot

variable {strict : Bool}

/-- The complaints about a block. -/
theorem blockComplaint?_cases {key : String} {value : Value} {complaint : BlockComplaint}
    (hcomplaint : blockComplaint? strict key value = some complaint) :
    complaint ∈ [.notARecord, .noType, .typeNotAText, .wrongId, .coordinateNotANumber "x",
        .coordinateNotANumber "y", .connectionsNotARecord, .outputsNotARecord] ∨
      ∃ type, complaint = .unknownKind (quote type) := by
  unfold blockComplaint? at hcomplaint
  split at hcomplaint
  · split at hcomplaint
    · cases hcomplaint
      simp
    · simp only [Option.or_eq_some_iff] at hcomplaint
      rcases hcomplaint with hid | ⟨-, hx | ⟨-, hy | ⟨-, hslots | ⟨-, hkind⟩⟩⟩⟩
      · rw [idComplaint?] at hid
        split at hid <;> simp_all
      · rw [coordinateComplaint?] at hx
        split at hx <;> simp_all
      · rw [coordinateComplaint?] at hy
        split at hy <;> simp_all
      · rw [slotsComplaint?] at hslots
        split at hslots
        · cases hslots
        · split at hslots <;> simp_all
        · simp_all
      · simp only [kindComplaint?, Option.ite_none_right_eq_some, Option.some.injEq] at hkind
        exact .inr ⟨_, hkind.2.symm⟩
    · cases hcomplaint
      simp
  · cases hcomplaint
    simp

theorem oneLine_blockComplaint {key place : String} {value : Value} {complaint : BlockComplaint}
    (hcomplaint : blockComplaint? strict key value = some complaint) (hplace : OneLine place) :
    OneLine (complaint.message place) := by
  rcases blockComplaint?_cases hcomplaint with hfixed | ⟨type, rfl⟩
  · simp only [List.mem_cons, List.not_mem_nil, or_false] at hfixed
    rcases hfixed with rfl | rfl | rfl | rfl | rfl | rfl | rfl | rfl
    all_goals
      simp only [BlockComplaint.message, oneLine_append, hplace, true_and]
      decide +kernel
  · simp only [BlockComplaint.message, oneLine_append, hplace, oneLine_quote, true_and, and_true]
    decide +kernel

/-- The complaints about a connection. -/
theorem connectionComplaint?_cases {value : Value} {complaint : ConnectionComplaint}
    (hcomplaint : connectionComplaint? value = some complaint) :
    complaint = .notARecord ∨ ∃ field ∈ connectionFields ++ ["id"],
      complaint = .missing field ∨ complaint = .notAText field := by
  unfold connectionComplaint? at hcomplaint
  split at hcomplaint
  · split at hcomplaint
    · rename_i field hfield
      obtain rfl := Option.some.inj hcomplaint
      have hmem := List.mem_append_left ["id"] (List.mem_of_find?_eq_some hfield)
      exact .inr ⟨field, hmem, .inl rfl⟩
    · obtain ⟨field, hmem, hfield⟩ := List.exists_of_findSome?_eq_some hcomplaint
      split at hfield
      · cases hfield
      · cases hfield
      · exact .inr ⟨field, hmem, .inr (Option.some.inj hfield).symm⟩
  · exact .inl (Option.some.inj hcomplaint).symm

theorem oneLine_connectionComplaint {place : String} {value : Value}
    {complaint : ConnectionComplaint} (hcomplaint : connectionComplaint? value = some complaint)
    (hplace : OneLine place) : OneLine (complaint.message place) := by
  have hfields : ∀ field ∈ connectionFields ++ ["id"], OneLine field := by decide +kernel
  rcases connectionComplaint?_cases hcomplaint with rfl | ⟨field, hfield, rfl | rfl⟩
  · simp only [ConnectionComplaint.message, oneLine_append, hplace, true_and]
    decide +kernel
  all_goals
    simp only [ConnectionComplaint.message, oneLine_append, hplace, hfields field hfield,
      true_and, and_true]
    decide +kernel

theorem oneLine_connectionFault {index : Nat} {connections : List Value} {fault : SchemaFault}
    (hfault : connectionFault? index connections = some fault) : OneLine fault.message := by
  induction connections generalizing index with
  | nil => cases hfault
  | cons connection rest ih =>
    rw [connectionFault?] at hfault
    split at hfault
    · rename_i complaint hcomplaint
      obtain rfl := Option.some.inj hfault
      refine oneLine_connectionComplaint hcomplaint ?_
      simp only [oneLine_append, oneLine_natText, and_true]
      decide +kernel
    · exact ih hfault

theorem oneLine_partsFault {data : Value} {fault : SchemaFault}
    (hparts : parts data = .error fault) : OneLine fault.message := by
  unfold parts at hparts
  split at hparts
  · split at hparts
    · cases hparts
      decide +kernel
    · split at hparts
      · split at hparts
        · cases hparts
        · cases hparts
          decide +kernel
      · cases hparts
        decide +kernel
    · cases hparts
      decide +kernel
  · cases hparts
    decide +kernel

/-- What is wrong with the shape of a snapshot is told on one line. -/
theorem oneLine_of_check {data : Value} {fault : SchemaFault}
    (hcheck : check strict data = .error fault) : OneLine fault.message := by
  rw [check] at hcheck
  split at hcheck
  · rename_i found hparts
    cases hcheck
    exact oneLine_partsFault hparts
  · split at hcheck
    · rename_i found hfault
      cases hcheck
      rw [Parts.fault?, Option.or_eq_some_iff] at hfault
      rcases hfault with hblock | ⟨-, hconnection⟩
      · obtain ⟨entry, -, hentry⟩ := List.exists_of_findSome?_eq_some hblock
        obtain ⟨complaint, hcomplaint, rfl⟩ := Option.map_eq_some_iff.1 hentry
        refine oneLine_blockComplaint hcomplaint ?_
        simp only [oneLine_append, oneLine_quote, and_true]
        decide +kernel
      · exact oneLine_connectionFault hconnection
    · cases hcheck

end Snapshot

/-! ### Losses in loading -/

theorem Flow.oneLine_objection {flow : Flow} {source port target : String} {reason : Rejection}
    (hreason : flow.objection source port target = some reason) (hsource : OneLine source)
    (hport : OneLine port) (htarget : OneLine target) : OneLine reason.message := by
  rw [objection] at hreason
  split at hreason
  · obtain rfl := Option.some.inj hreason
    change OneLine ("Source node '" ++ source ++ "' not found")
    simp only [oneLine_append, hsource, and_true]
    decide +kernel
  · obtain rfl := Option.some.inj hreason
    change OneLine ("Target node '" ++ target ++ "' not found")
    simp only [oneLine_append, htarget, and_true]
    decide +kernel
  · split_ifs at hreason
    all_goals obtain rfl := Option.some.inj hreason
    · decide +kernel
    · decide +kernel
    · change OneLine ("Node '" ++ source ++ "' has no port '" ++ port ++ "'")
      simp only [oneLine_append, hsource, hport, and_true]
      decide +kernel
    · change OneLine ("Port '" ++ port ++ "' of '" ++ source ++ "' is already connected")
      simp only [oneLine_append, hsource, hport, and_true]
      decide +kernel
    · change OneLine ("Node '" ++ target ++ "' already has an incoming connection")
      simp only [oneLine_append, htarget, and_true]
      decide +kernel

namespace Snapshot

/-- No id of a block, no end of a connection and no port holds a line feed. -/
structure Parts.OneLine (parts : Parts) : Prop where
  ids : ∀ entry ∈ parts.blocks, Text.OneLine entry.1
  ends : ∀ wire ∈ wires parts, Text.OneLine wire.source ∧ Text.OneLine wire.target
  ports : ∀ wire ∈ wires parts, Text.OneLine wire.port

variable {progress : Progress}

/-- A block that is read tells at most that it is skipped, or which of its fields are dropped. -/
theorem of_mem_notices_loadBlock {entry : String × Value} {notice : Notice}
    (hnotice : notice ∈ (loadBlock progress entry).notices) :
    notice ∈ progress.notices ∨ (∃ type, notice = .skippedBlock entry.1 type) ∨
      ∃ kind names, notice = .rejectedFields kind names := by
  rw [loadBlock] at hnotice
  cases hvalue : entry.2 with
  | record block =>
    rw [hvalue] at hnotice
    dsimp only at hnotice
    cases hkind : Kind.ofText? ((textOf block "type").getD "") with
    | none =>
      rw [hkind] at hnotice
      exact (List.mem_append.1 hnotice).imp id fun hlast =>
        .inl ⟨_, List.mem_singleton.1 hlast⟩
    | some kind =>
      rw [hkind] at hnotice
      refine (List.mem_append.1 hnotice).imp id fun hlast => .inr ?_
      split_ifs at hlast
      · cases hlast
      · exact ⟨kind, _, List.mem_singleton.1 hlast⟩
  | _ =>
    rw [hvalue] at hnotice
    exact .inl hnotice

theorem oneLine_loadBlock {entry : String × Value} (hid : OneLine entry.1)
    (hprogress : ∀ notice ∈ progress.notices, OneLine notice.message) :
    ∀ notice ∈ (loadBlock progress entry).notices, OneLine notice.message := by
  intro notice hnotice
  rcases of_mem_notices_loadBlock hnotice with hold | ⟨type, rfl⟩ | ⟨kind, names, rfl⟩
  · exact hprogress notice hold
  · change OneLine ("skipping block " ++ entry.1 ++ ": " ++ ("Unknown node kind: " ++ quote type))
    simp only [oneLine_append, oneLine_quote, hid, and_true]
    decide +kernel
  · have htitle : OneLine kind.settingsTitle := by cases kind <;> decide +kernel
    change OneLine (kind.settingsTitle ++ ": dropping invalid fields " ++
      Notice.quotedNames names)
    simp only [oneLine_append, Notice.oneLine_quotedNames, htitle, true_and, and_true]
    decide +kernel

theorem oneLine_portOf {wire : Wire} (hport : OneLine wire.port) (flow : Flow) :
    OneLine (portOf flow wire) := by
  have hnames : ∀ names ∈ legacyOrderPorts, OneLine names.2 := by decide +kernel
  rw [portOf]
  split
  · split
    · cases hname : Assoc.get? legacyOrderPorts wire.port with
      | none => exact hport
      | some name => exact hnames (wire.port, name) (Assoc.mem_of_get? hname)
    · exact hport
  · exact hport

theorem exists_given_of_wire {parts : Parts} {wire : Wire} (hwire : wire ∈ wires parts) :
    ∃ fields, wire.given = .record fields := by
  rw [wires] at hwire
  split_ifs at hwire
  · obtain ⟨entry, -, hslots⟩ := List.mem_flatMap.1 hwire
    obtain ⟨slot, -, hslot⟩ := List.mem_filterMap.1 hslots
    rw [wireOfSlot?] at hslot
    split at hslot
    · split_ifs at hslot
      obtain rfl := Option.some.inj hslot
      exact ⟨_, rfl⟩
    · cases hslot
  · obtain ⟨connection, -, hconnection⟩ := List.mem_filterMap.1 hwire
    unfold wireOf? at hconnection
    split at hconnection
    · simp only [Option.bind_eq_bind, Option.bind_eq_some_iff] at hconnection
      obtain ⟨source, -, port, -, target, -, hsame⟩ := hconnection
      obtain rfl := Option.some.inj hsame
      exact ⟨_, rfl⟩
    · cases hconnection

theorem oneLine_loadWire {parts : Parts} (hparts : parts.OneLine) {wire : Wire}
    (hwire : wire ∈ wires parts)
    (hprogress : ∀ notice ∈ progress.notices, OneLine notice.message) :
    ∀ notice ∈ (reached (loadWire progress wire)).notices, OneLine notice.message := by
  obtain ⟨hsource, htarget⟩ := hparts.ends wire hwire
  have hport := oneLine_portOf (hparts.ports wire hwire) progress.flow
  obtain ⟨fields, hgiven⟩ := exists_given_of_wire hwire
  rw [loadWire]
  rcases progress.flow.connect_cases wire.source (portOf progress.flow wire) wire.target
    wire.id with
    ⟨reason, hreason, heq⟩ | ⟨-, ⟨fault, -, heq⟩ | ⟨id, -, heq⟩⟩
  · rw [heq, hgiven]
    dsimp only
    split
    · rename_i shown hshown
      refine List.forall_mem_append.2 ⟨hprogress, List.forall_mem_singleton.2 ?_⟩
      have hline : OneLine shown := oneLine_of_none (isLineEnd_of_quoted hshown)
      have hmessage := Flow.oneLine_objection hreason hsource hport htarget
      change OneLine ("dropping connection " ++ shown ++ ": " ++ reason.message)
      simp only [oneLine_append, hline, hmessage, and_true]
      decide +kernel
    · exact hprogress
  · rw [heq]
    exact hprogress
  · rw [heq]
    exact hprogress

theorem oneLine_loadWires {parts : Parts} (hparts : parts.OneLine) {wires : List Wire}
    (hwires : ∀ wire ∈ wires, wire ∈ Snapshot.wires parts)
    (hprogress : ∀ notice ∈ progress.notices, OneLine notice.message) :
    ∀ notice ∈ (reached (loadWires progress wires)).notices, OneLine notice.message := by
  induction wires generalizing progress with
  | nil => exact hprogress
  | cons wire rest ih =>
    obtain ⟨hwire, hrest⟩ := List.forall_mem_cons.1 hwires
    have hstep := oneLine_loadWire hparts hwire hprogress
    rw [loadWires]
    split
    · rename_i next hnext
      rw [hnext] at hstep
      exact ih hrest hstep
    · rename_i stopped hstopped
      rw [hstopped] at hstep
      exact hstep

/-- What is lost in loading is noted on one line each. -/
theorem oneLine_notices {parts : Parts} (hparts : parts.OneLine) :
    ∀ notice ∈ (loadParts parts).notices, OneLine notice.message := by
  rw [(loadParts_reached parts).2, wired]
  refine oneLine_loadWires hparts (fun _ hwire => hwire) ?_
  refine List.foldlRecOn (motive := fun progress : Progress =>
    ∀ notice ∈ progress.notices, OneLine notice.message) parts.blocks loadBlock nofun ?_
  exact fun progress hprogress entry hentry => oneLine_loadBlock (hparts.ids entry hentry) hprogress

/-- The blocks of a flow that is loaded go by their names in the snapshot. -/
theorem oneLine_ids {parts : Parts} (hparts : parts.OneLine) :
    ∀ block ∈ (loadParts parts).outcome.flow.blocks, OneLine block.id := by
  have hunwired : ∀ block ∈ (unwired parts).blocks, OneLine block.id := by
    refine unwired_forall fun entry hentry block hblock => ?_
    rw [blockOf?] at hblock
    split at hblock
    · obtain ⟨kind, -, rfl⟩ := Option.map_eq_some_iff.1 hblock
      exact hparts.ids entry hentry
    · cases hblock
  intro block hblock
  rw [(loadParts_reached parts).1] at hblock
  obtain ⟨old, hold, rfl⟩ := (wiredFrom_wired parts).mem_blocks_iff.1 hblock
  rw [Block.gainAll_id]
  exact hunwired old hold

end Snapshot

end DialogGraph

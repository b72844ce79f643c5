import DialogGraph.Proofs.CommandLine.Carrying
import DialogGraph.Proofs.Json.Nesting
import DialogGraph.Proofs.Program.Snapshots
import DialogGraph.Proofs.Snapshot.Notices
import DialogGraph.Proofs.Text.Utf8

/-!
# What the compiler answers

Given a snapshot that is a file and a place for the program, the compiler reads, checks, loads and
compiles. It gives up with one line about the error where the text is malformed, its shape is wrong
or the beginnings are not one. It is broken off where the octets are no text, where the text is
beyond what the reader of JSON takes, where an id has a number that cannot be used, and where the
program has no place. In all other cases it succeeds, and what it prints or writes is the program.

All this is said of texts in which half a surrogate pair is never escaped: there is no character for
it, and what stands for it here would make different names the same.
-/

namespace DialogGraph

open DialogGraph.Number DialogGraph.Text

/-- Whether the surrogates that are escaped in a text stand in pairs; `owed` tells whether the
second of a pair has to come. A backslash goes together with the character behind it, so that an
escape is told from an escaped backslash. -/
def Json.surrogatesPaired (owed : Bool) : List Char → Bool
  | '\\' :: 'u' :: a :: b :: c :: d :: rest =>
    let unit := (hexValue4? a b c d).getD 0
    isLowSurrogate unit == owed && surrogatesPaired (isHighSurrogate unit) rest
  | '\\' :: _ :: rest => !owed && surrogatesPaired false rest
  | _ :: rest => !owed && surrogatesPaired false rest
  | [] => !owed

namespace CommandLine

/-! ### Lines about errors -/

/-- The lines of a stream that tell an error. -/
def errorLines (err : String) : List String :=
  (pieces '\n' err).filter fun line => "[error]".toList.isPrefixOf line.toList

theorem errorLines_warning {origin message : String} (horigin : OneLine origin)
    (hmessage : OneLine message) (rest : String) :
    errorLines (warning origin message ++ rest) = errorLines rest := by
  have hline : OneLine ("[WARNING] " ++ origin ++ ": " ++ message) := by
    simp only [oneLine_append, horigin, hmessage, and_true]
    decide
  rw [errorLines, warning, pieces_line hline, List.filter_cons_of_neg]
  · rfl
  · simp

theorem errorLines_errorLine {message : String} (hmessage : OneLine message) :
    errorLines (errorLine message) = ["[error] " ++ message] := by
  have hline : OneLine ("[error] " ++ message) := by
    simp only [oneLine_append, hmessage, and_true]
    decide
  have hpieces := pieces_line hline ""
  rw [String.append_empty] at hpieces
  rw [errorLines, errorLine, hpieces, List.filter_cons_of_pos]
  · rfl
  · simp

/-- Behind warnings that take a line each, an error that takes a line is the only one told. -/
theorem errorLines_notices {notices : List Notice} {message : String}
    (hnotices : ∀ notice ∈ notices, OneLine notice.message) (hmessage : OneLine message) :
    errorLines (String.join (notices.map fun notice => warning notice.origin notice.message) ++
      errorLine message) = ["[error] " ++ message] := by
  induction notices with
  | nil => exact errorLines_errorLine hmessage
  | cons notice rest ih =>
    obtain ⟨hnotice, hrest⟩ := List.forall_mem_cons.1 hnotices
    have horigin : OneLine notice.origin := by cases notice <;> simp [Notice.origin, OneLine]
    rw [List.map_cons, String.join_cons, String.append_assoc,
      errorLines_warning horigin hnotice, ih hrest]

-- A message that is broken into lines may tell of more than one error.
example : (errorLines (errorLine "x\n[error] y")).length = 2 := by decide +kernel

/-- A run of the compiler on a snapshot that is a file, with a directory for the program that is
there or can be made. No further variables are read from a file. -/
structure Scene where
  /-- How deep the containers of the snapshot may be nested. -/
  depth : Nat
  date : String
  surroundings : Surroundings
  argv : List String
  disk : Disk
  setup : Setup
  arguments : Arguments
  octets : List UInt8
  directory : String
  /-- The files once the directory is there. -/
  after : Disk
  plain : variableFile? surroundings = none
  setup_eq : Setup.ofSurroundings surroundings = .ok setup
  asked : Request.ofArguments argv = .compile arguments
  snapshot : disk.entry (Path.ofText arguments.snapshot) = .file octets
  paired : ∀ text, textOf octets = .ok text → Json.surrogatesPaired false text.toList = true
  out : arguments.out = some directory
  opened : outcome disk (makeDirectory (Path.ofText directory)) = (.ok (), after)

namespace Scene

variable (scene : Scene)

def result : Except Breakdown Report :=
  (compile scene.date scene.surroundings scene.argv scene.depth).run.onDisk scene.disk

def name : String :=
  firstText [scene.arguments.name, Assoc.get? scene.surroundings "BOTFLOW_BOT_NAME"]
    (Path.ofText scene.arguments.snapshot).stem

def token : String := firstText [scene.arguments.token] scene.setup.botToken

def place : Path := (Path.ofText scene.directory).child (Program.fileName scene.name)

/-- The octets are a JSON text that passes the check and can be loaded, and this is its flow. -/
inductive Yields : Flow → Prop
  | mk {text : String} {data : Value} {parts : Snapshot.Parts}
      (htext : textOf scene.octets = .ok text) (hparse : Json.parse text scene.depth = .ok data)
      (hcheck : Snapshot.check scene.arguments.strict data = .ok parts)
      (hload : (Snapshot.load Flow.empty false data).outcome.result = .ok ()) :
      Yields (Snapshot.load Flow.empty false data).outcome.flow

/-- The program can be printed, or written to its place. -/
def Free : Prop :=
  scene.arguments.print = true ∨
    scene.after.entry scene.place ≠ .directory ∧ scene.after.entry scene.place ≠ .overlong

/-- What the run is broken off by. -/
inductive Breaks : Breakdown → Prop
  /-- No text is encoded by the octets. -/
  | octets {breakdown : Breakdown} (htext : textOf scene.octets = .error breakdown)
      (hnone : ∀ s : String, s.toUTF8 ≠ scene.octets.toByteArray) : Breaks breakdown
  /-- The text has an integer of too many digits, or too many containers in each other. -/
  | json {text : String} {fault : Json.Fault} (htext : textOf scene.octets = .ok text)
      (hparse : Json.parse text scene.depth = .error fault)
      (hbeyond : ∀ problem line column position, fault ≠ .malformed problem line column position) :
      Breaks (.json fault)
  /-- An id of the snapshot has a number that cannot be used. -/
  | flow {text : String} {data : Value} {parts : Snapshot.Parts} {fault : Fault}
      (htext : textOf scene.octets = .ok text) (hparse : Json.parse text scene.depth = .ok data)
      (hcheck : Snapshot.check scene.arguments.strict data = .ok parts)
      (hparts : ¬Snapshot.Replayable parts)
      (hload : (Snapshot.load Flow.empty false data).outcome.result = .error fault) :
      Breaks (.flow fault)
  /-- There is a directory where the program is to be written. -/
  | isDirectory {flow : Flow} {start : Block} (hyields : scene.Yields flow)
      (hstarts : flow.starts = [start]) (hwrite : scene.arguments.print = false)
      (hplace : scene.after.entry scene.place = .directory) : Breaks (.isDirectory scene.place)
  /-- The name of the program is too long for a file. -/
  | overlong {flow : Flow} {start : Block} (hyields : scene.Yields flow)
      (hstarts : flow.starts = [start]) (hwrite : scene.arguments.print = false)
      (hplace : scene.after.entry scene.place = .overlong) : Breaks (.overlong scene.place)

/-- If the snapshot passes the check, the names in it stand on one line each. -/
def NamesOneLine : Prop :=
  ∀ text data parts, textOf scene.octets = .ok text → Json.parse text scene.depth = .ok data →
    Snapshot.check scene.arguments.strict data = .ok parts → parts.OneLine

/-- What a report says once the compiler has given up: an error behind warnings about the snapshot,
and no file. Unless the names in the snapshot are broken into lines, one line tells the error. -/
structure GivesUp (report : Report) : Prop where
  code : report.ending = .code 1
  files : report.files = []
  err : ∃ (notices : List Notice) (message : String), report.err =
    String.join (notices.map fun notice => warning notice.origin notice.message) ++
      errorLine message
  oneError : scene.NamesOneLine → ∃ message, errorLines report.err = ["[error] " ++ message]

/-- What a report says once a flow is compiled: the program was printed or is the one file that was
written. -/
structure Delivers (flow : Flow) (report : Report) : Prop where
  code : report.ending = .code 0
  program : ∃ source,
    Program.compile scene.date flow scene.name scene.token = .ok source ∧
      if scene.arguments.print = true then report.out = source ++ "\n" ∧ report.files = []
      else report.files = [(scene.place, source)]

/-! ### Up to the check -/

theorem toUTF8_ne_of_textOf {octets : List UInt8} {breakdown : Breakdown}
    (htext : textOf octets = .error breakdown) (s : String) : s.toUTF8 ≠ octets.toByteArray := by
  rw [textOf] at htext
  split at htext
  next => cases htext
  next fault hdecode => exact exists_decodeUtf8_error_iff.1 ⟨fault, hdecode⟩ s

variable {scene} {text : String} {data : Value} {parts : Snapshot.Parts} {breakdown : Breakdown}

theorem outcome_setupFrom : outcome scene.disk (setupFrom scene.surroundings) =
    (.ok (scene.setup, scene.surroundings, ""), scene.disk) := by
  have hsurroundings : outcome scene.disk (surroundingsFrom scene.surroundings) =
      (.ok (scene.surroundings, ""), scene.disk) := by
    rw [surroundingsFrom, scene.plain]
    rfl
  rw [setupFrom, outcome_bind_of_ok hsurroundings]
  dsimp only
  rw [scene.setup_eq]
  rfl

/-- The run looks at the variables and the arguments, and then reads the snapshot. -/
theorem result_eq : scene.result =
    (outcome scene.disk (do
      let text ← textOf scene.octets
      match Json.parse text scene.depth with
      | .error fault =>
        match fault with
        | .malformed .. => return givenUp "" "" ("Invalid JSON: " ++ fault.message)
        | _ => throw (.json fault)
      | .ok data =>
        match Snapshot.check scene.arguments.strict data with
        | .error fault => return givenUp "" "" ("Schema validation failed: " ++ fault.message)
        | .ok _ =>
          compileData scene.date scene.arguments scene.name scene.token "" data : Work Report)).1 := by
  rw [result, Job.onDisk_eq, compile, scene.asked]
  dsimp only
  have hfile : outcome scene.disk (look (Path.ofText scene.arguments.snapshot)) =
      (.ok (.file scene.octets), scene.disk) := by
    rw [outcome_look, scene.snapshot]
  change (outcome scene.disk
    (compileFile scene.date scene.surroundings scene.arguments scene.depth)).1 = _
  rw [compileFile, outcome_bind_of_ok outcome_setupFrom]
  dsimp only
  rw [outcome_bind_of_ok hfile]
  rfl

theorem result_of_text_error (htext : textOf scene.octets = .error breakdown) :
    scene.result = .error breakdown := by
  rw [result_eq, outcome_bind_of_error (by rw [outcome_lift, htext])]

/-- What is left to be done once the text is read. -/
theorem result_of_text (htext : textOf scene.octets = .ok text) : scene.result =
    match Json.parse text scene.depth with
    | .error (.malformed problem line column position) =>
      .ok (givenUp "" "" ("Invalid JSON: " ++
        (Json.Fault.malformed problem line column position).message))
    | .error fault => .error (.json fault)
    | .ok data =>
      match Snapshot.check scene.arguments.strict data with
      | .error fault => .ok (givenUp "" "" ("Schema validation failed: " ++ fault.message))
      | .ok _ => (outcome scene.disk
          (compileData scene.date scene.arguments scene.name scene.token "" data)).1 := by
  rw [result_eq, outcome_bind_of_ok (by rw [outcome_lift, htext])]
  cases Json.parse text scene.depth with
  | error fault => cases fault <;> rfl
  | ok data => cases hcheck : Snapshot.check scene.arguments.strict data <;> simp [hcheck]

theorem result_of_beyond {fault : Json.Fault} (htext : textOf scene.octets = .ok text)
    (hparse : Json.parse text scene.depth = .error fault)
    (hbeyond : ∀ problem line column position, fault ≠ .malformed problem line column position) :
    scene.result = .error (.json fault) := by
  rw [result_of_text htext, hparse]
  cases fault with
  | malformed problem line column position => exact absurd rfl (hbeyond problem line column position)
  | oversized digits => rfl
  | tooDeep container => rfl

theorem result_of_check (htext : textOf scene.octets = .ok text)
    (hparse : Json.parse text scene.depth = .ok data)
    (hcheck : Snapshot.check scene.arguments.strict data = .ok parts) :
    scene.result = (outcome scene.disk
      (compileData scene.date scene.arguments scene.name scene.token "" data)).1 := by
  rw [result_of_text htext, hparse]
  dsimp only
  rw [hcheck]

/-! ### From the check on -/

theorem load_eq (hcheck : Snapshot.check scene.arguments.strict data = .ok parts) :
    Snapshot.load Flow.empty false data = Snapshot.loadParts parts := by
  rw [Snapshot.load, Snapshot.check_lenient hcheck]

theorem result_of_load_error {fault : Fault} (htext : textOf scene.octets = .ok text)
    (hparse : Json.parse text scene.depth = .ok data)
    (hcheck : Snapshot.check scene.arguments.strict data = .ok parts)
    (hload : (Snapshot.load Flow.empty false data).outcome.result = .error fault) :
    scene.result = .error (.flow fault) := by
  rw [result_of_check htext hparse hcheck, compileData]
  dsimp only
  rw [hload]
  rfl

theorem givesUp_givenUp {out message : String} (notices : List Notice)
    (hlines : scene.NamesOneLine →
      (∀ notice ∈ notices, OneLine notice.message) ∧ OneLine message) :
    scene.GivesUp (givenUp out
      (String.join (notices.map fun notice => warning notice.origin notice.message)) message) where
  code := rfl
  files := rfl
  err := ⟨notices, message, rfl⟩
  oneError hnames := ⟨message, errorLines_notices (hlines hnames).1 (hlines hnames).2⟩

/-- What is told of a well-formed flow that is no bot. -/
theorem oneLine_refused {flow : Flow} {name token : String} {fault : Program.CompileFault}
    (hflow : flow.WellFormed) (hids : ∀ block ∈ flow.blocks, OneLine block.id)
    (hbot : Program.Bot.ofFlow flow name token = .error fault) :
    OneLine ("Compile failed: " ++ fault.message ++ placeOf fault) := by
  rcases Program.ofFlow_eq_error hflow hbot with rfl | ⟨count, second, hsecond, rfl⟩
  · decide +kernel
  · have hplace : OneLine (placeOf (.severalStarts count second.id)) := by
      simp only [placeOf, Program.CompileFault.block?, Program.CompileFault.edge?,
        Option.filter_some]
      split_ifs
      · change OneLine (" (" ++ second.id ++ ")")
        simp only [oneLine_append, hids second hsecond, and_true]
        decide
      · exact List.not_mem_nil
    change OneLine ("Compile failed: " ++ ("The flow has " ++ natText count ++
      " start nodes; exactly one is required") ++ placeOf (.severalStarts count second.id))
    simp only [oneLine_append, oneLine_natText, hplace, and_true]
    decide +kernel

/-- Where a snapshot can be loaded but its flow has no program, the compiler gives up. -/
theorem givesUp_of_refused {fault : Program.CompileFault} (htext : textOf scene.octets = .ok text)
    (hparse : Json.parse text scene.depth = .ok data)
    (hcheck : Snapshot.check scene.arguments.strict data = .ok parts)
    (hload : (Snapshot.load Flow.empty false data).outcome.result = .ok ())
    (hbot : Program.Bot.ofFlow (Snapshot.load Flow.empty false data).outcome.flow scene.name
      scene.token = .error fault) :
    ∃ report, scene.result = .ok report ∧ scene.GivesUp report := by
  rw [result_of_check htext hparse hcheck, compileData]
  dsimp only
  rw [hload]
  dsimp only
  rw [hbot]
  refine ⟨_, rfl, ?_⟩
  rw [String.empty_append]
  refine givesUp_givenUp _ fun hnames => ?_
  have hparts := hnames text data parts htext hparse hcheck
  rw [load_eq hcheck] at hbot ⊢
  have hflow := (Snapshot.loadParts_sound parts).toWellFormed
  exact ⟨Snapshot.oneLine_notices hparts,
    oneLine_refused hflow (Snapshot.oneLine_ids hparts) hbot⟩

/-- Where a flow has a program, only writing it is left to be done. -/
theorem result_of_source {bot : Program.Bot} {source : String}
    (htext : textOf scene.octets = .ok text) (hparse : Json.parse text scene.depth = .ok data)
    (hcheck : Snapshot.check scene.arguments.strict data = .ok parts)
    (hload : (Snapshot.load Flow.empty false data).outcome.result = .ok ())
    (hbot : Program.Bot.ofFlow (Snapshot.load Flow.empty false data).outcome.flow scene.name
      scene.token = .ok bot)
    (hsource : Program.text scene.date bot = .ok source) :
    ∃ out err, scene.result =
      if scene.arguments.print = true then
        .ok { ending := .code 0, out := source ++ "\n", err := err }
      else
        (outcome scene.disk (writeProgram scene.arguments scene.name out err source)).1 := by
  rw [result_of_check htext hparse hcheck, compileData]
  dsimp only
  rw [hload]
  dsimp only
  rw [hbot]
  dsimp only
  rw [hsource]
  dsimp only
  by_cases hprint : scene.arguments.print = true
  · simp only [if_pos hprint, String.empty_append]
    exact ⟨"", _, rfl⟩
  · simp only [if_neg hprint]
    exact ⟨_, _, rfl⟩

/-- Writing a program fails only where there is no place for it. -/
theorem outcome_writeProgram (out err source : String) :
    (outcome scene.disk (writeProgram scene.arguments scene.name out err source)).1 =
      match scene.after.entry scene.place with
      | .directory => .error (.isDirectory scene.place)
      | .overlong => .error (.overlong scene.place)
      | _ => .ok {
          ending := .code 0
          out := out ++ progress "wrote  " scene.place.text
          err := err
          files := [(scene.place, source)] } := by
  rw [writeProgram, scene.out]
  dsimp only
  rw [outcome_bind_of_ok scene.opened, outcome_bind_of_ok (outcome_look _), ← place]
  cases scene.after.entry scene.place <;> rfl

/-! ### The run as a whole -/

/-- A program is the text of a bot. -/
theorem exists_bot_of_compile {date name token source : String} {flow : Flow}
    (hcompile : Program.compile date flow name token = .ok source) :
    ∃ bot, Program.Bot.ofFlow flow name token = .ok bot ∧ Program.text date bot = .ok source := by
  rw [Program.compile] at hcompile
  split at hcompile
  next => cases hcompile
  next bot hbot => exact ⟨bot, hbot, mapError_eq_ok_iff.1 hcompile⟩

/-- A flow that is turned down is no bot. -/
theorem ofFlow_of_compile {date name token : String} {flow : Flow} {reason : Program.CompileFault}
    (hcompile : Program.compile date flow name token = .error (.compile reason)) :
    Program.Bot.ofFlow flow name token = .error reason := by
  rw [Program.compile] at hcompile
  split at hcompile
  next fault hfault =>
    cases hcompile
    exact hfault
  next bot hbot =>
    cases htext : Program.text date bot with
    | error fault =>
      rw [htext] at hcompile
      cases hcompile
    | ok source =>
      rw [htext] at hcompile
      cases hcompile

/-- Where the snapshot yields a flow with one beginning, it is compiled, and there only remains the
place to be looked at. -/
theorem result_of_yields {flow : Flow} {start : Block} (hyields : scene.Yields flow)
    (hstarts : flow.starts = [start]) :
    ∃ out err source, Program.compile scene.date flow scene.name scene.token = .ok source ∧
      scene.result =
        if scene.arguments.print = true then
          .ok { ending := .code 0, out := source ++ "\n", err := err }
        else match scene.after.entry scene.place with
          | .directory => .error (.isDirectory scene.place)
          | .overlong => .error (.overlong scene.place)
          | _ => .ok {
              ending := .code 0
              out := out ++ progress "wrote  " scene.place.text
              err := err
              files := [(scene.place, source)] } := by
  cases hyields with
  | mk htext hparse hcheck hload =>
    have hcompiles := Snapshot.compiles_of_parse hparse hcheck scene.date scene.name scene.token
    rw [← load_eq hcheck] at hcompiles
    obtain ⟨source, hcompile⟩ := hcompiles.text_iff.2 ⟨start, hstarts⟩
    obtain ⟨bot, hbot, hsource⟩ := exists_bot_of_compile hcompile
    obtain ⟨out, err, hresult⟩ := result_of_source htext hparse hcheck hload hbot hsource
    rw [outcome_writeProgram] at hresult
    exact ⟨out, err, source, hcompile, hresult⟩

theorem delivers_of_free {flow : Flow} {start : Block} (hyields : scene.Yields flow)
    (hstarts : flow.starts = [start]) (hfree : scene.Free) :
    ∃ report, scene.result = .ok report ∧ scene.Delivers flow report := by
  obtain ⟨out, err, source, hcompile, hresult⟩ := result_of_yields hyields hstarts
  by_cases hprint : scene.arguments.print = true
  · rw [if_pos hprint] at hresult
    exact ⟨_, hresult, rfl, source, hcompile, by rw [if_pos hprint]; exact ⟨rfl, rfl⟩⟩
  · obtain ⟨hdirectory, hoverlong⟩ := hfree.resolve_left hprint
    rw [if_neg hprint] at hresult
    cases hentry : scene.after.entry scene.place with
    | directory => exact absurd hentry hdirectory
    | overlong => exact absurd hentry hoverlong
    | absent =>
      rw [hentry] at hresult
      exact ⟨_, hresult, rfl, source, hcompile, by rw [if_neg hprint]⟩
    | file octets =>
      rw [hentry] at hresult
      exact ⟨_, hresult, rfl, source, hcompile, by rw [if_neg hprint]⟩

theorem result_of_breaks (hbreaks : scene.Breaks breakdown) :
    scene.result = .error breakdown := by
  cases hbreaks with
  | octets htext _ => exact result_of_text_error htext
  | json htext hparse hbeyond => exact result_of_beyond htext hparse hbeyond
  | flow htext hparse hcheck _ hload => exact result_of_load_error htext hparse hcheck hload
  | isDirectory hyields hstarts hwrite hplace =>
    obtain ⟨out, err, source, -, hresult⟩ := result_of_yields hyields hstarts
    rw [hresult, hwrite, hplace]
    rfl
  | overlong hyields hstarts hwrite hplace =>
    obtain ⟨out, err, source, -, hresult⟩ := result_of_yields hyields hstarts
    rw [hresult, hwrite, hplace]
    rfl

/-- What may come of a run. -/
inductive Course : Except Breakdown Report → Prop
  | breaks {breakdown : Breakdown} (hbreaks : scene.Breaks breakdown) : Course (.error breakdown)
  | givesUp {report : Report} (hreport : scene.GivesUp report) : Course (.ok report)
  | delivers {flow : Flow} {start : Block} {report : Report} (hyields : scene.Yields flow)
      (hstarts : flow.starts = [start]) (hfree : scene.Free)
      (hreport : scene.Delivers flow report) : Course (.ok report)

/-- A flow with one beginning is delivered unless its program has no place. -/
theorem course_of_start {flow : Flow} {start : Block} (hyields : scene.Yields flow)
    (hstarts : flow.starts = [start]) : scene.Course scene.result := by
  by_cases hfree : scene.Free
  · obtain ⟨report, hresult, hreport⟩ := delivers_of_free hyields hstarts hfree
    rw [hresult]
    exact .delivers hyields hstarts hfree hreport
  · obtain ⟨hprint, hentry⟩ := not_or.1 hfree
    have hwrite : scene.arguments.print = false := Bool.eq_false_iff.2 hprint
    suffices hbreaks : ∃ breakdown, scene.Breaks breakdown by
      obtain ⟨breakdown, hbreaks⟩ := hbreaks
      rw [result_of_breaks hbreaks]
      exact .breaks hbreaks
    by_cases hdirectory : scene.after.entry scene.place = .directory
    · exact ⟨_, .isDirectory hyields hstarts hwrite hdirectory⟩
    · have hoverlong : scene.after.entry scene.place = .overlong := by
        by_contra hplace
        exact hentry ⟨hdirectory, hplace⟩
      exact ⟨_, .overlong hyields hstarts hwrite hoverlong⟩

/-- A snapshot that passes the check breaks the run off, is given up or is delivered. -/
theorem course_of_check (htext : textOf scene.octets = .ok text)
    (hparse : Json.parse text scene.depth = .ok data)
    (hcheck : Snapshot.check scene.arguments.strict data = .ok parts) :
    scene.Course scene.result := by
  cases hload : (Snapshot.load Flow.empty false data).outcome.result with
  | error fault =>
    have hparts : ¬Snapshot.Replayable parts := by
      rw [← Snapshot.loadParts_eq_ok_iff, ← load_eq hcheck, hload]
      exact nofun
    rw [result_of_load_error htext hparse hcheck hload]
    exact .breaks (.flow htext hparse hcheck hparts hload)
  | ok done =>
    have hcompiles := Snapshot.compiles_of_parse hparse hcheck scene.date scene.name scene.token
    rw [← load_eq hcheck] at hcompiles
    cases hcompile : Program.compile scene.date (Snapshot.load Flow.empty false data).outcome.flow
        scene.name scene.token with
    | ok source =>
      obtain ⟨start, hstarts⟩ := hcompiles.text_iff.1 ⟨source, hcompile⟩
      exact course_of_start (.mk htext hparse hcheck hload) hstarts
    | error fault =>
      obtain ⟨reason, rfl, -, -⟩ := hcompiles.refused fault hcompile
      obtain ⟨report, hresult, hreport⟩ :=
        givesUp_of_refused htext hparse hcheck hload (ofFlow_of_compile hcompile)
      rw [hresult]
      exact .givesUp hreport

theorem course : scene.Course scene.result := by
  have hgivenUp {message : String} (hmessage : OneLine message) :
      scene.GivesUp (givenUp "" "" message) :=
    givesUp_givenUp [] fun _ => ⟨nofun, hmessage⟩
  cases htext : textOf scene.octets with
  | error breakdown =>
    rw [result_of_text_error htext]
    exact .breaks (.octets htext (toUTF8_ne_of_textOf htext))
  | ok text =>
    cases hparse : Json.parse text scene.depth with
    | error fault =>
      by_cases hmalformed : ∃ problem line column position,
          fault = .malformed problem line column position
      · obtain ⟨problem, line, column, position, rfl⟩ := hmalformed
        rw [result_of_text htext, hparse]
        exact .givesUp (hgivenUp (oneLine_append.2 ⟨by decide, Json.oneLine_malformed _ _ _ _⟩))
      · have hbeyond : ∀ problem line column position,
            fault ≠ .malformed problem line column position :=
          fun problem line column position h => hmalformed ⟨problem, line, column, position, h⟩
        rw [result_of_beyond htext hparse hbeyond]
        exact .breaks (.json htext hparse hbeyond)
    | ok data =>
      cases hcheck : Snapshot.check scene.arguments.strict data with
      | error fault =>
        rw [result_of_text htext, hparse]
        dsimp only
        rw [hcheck]
        exact .givesUp (hgivenUp (oneLine_append.2 ⟨by decide, Snapshot.oneLine_of_check hcheck⟩))
      | ok parts => exact course_of_check htext hparse hcheck

variable (scene) in
/-- What the compiler answers. -/
structure Answers : Prop where
  /-- It is broken off by these faults and by no others. -/
  breaks_iff : ∀ breakdown, scene.result = .error breakdown ↔ scene.Breaks breakdown
  /-- Otherwise it ends with 0 or 1. -/
  code : ∀ report, scene.result = .ok report →
    report.ending = .code 0 ∨ report.ending = .code 1
  /-- It succeeds on flows with one beginning whose program has a place, and only on them. -/
  succeeds_iff : (∃ report, scene.result = .ok report ∧ report.ending = .code 0) ↔
    ∃ flow start, scene.Yields flow ∧ flow.starts = [start] ∧ scene.Free
  /-- What it prints or writes then is the program of the flow. -/
  delivers : ∀ report, scene.result = .ok report → report.ending = .code 0 →
    ∃ flow, scene.Yields flow ∧ scene.Delivers flow report
  /-- What it gives up is told in one line, and no file is written. -/
  givesUp : ∀ report, scene.result = .ok report → report.ending = .code 1 → scene.GivesUp report

/-- One file is compiled, and nothing else is asked for. -/
def ofFile (octets : List UInt8)
    (paired : ∀ text, textOf octets = .ok text → Json.surrogatesPaired false text.toList = true) :
    Scene where
  depth := Json.usualDepth
  date := "2024-01-01"
  surroundings := []
  argv := ["x.json"]
  disk := { files := [(["x.json"], octets)] }
  setup := { origins := itemsOf "*", livePreview := Setup.isOn "" }
  arguments := { snapshot := "x.json" }
  octets := octets
  directory := "."
  after := { files := [(["x.json"], octets)] }
  plain := rfl
  setup_eq := rfl
  asked := by decide +kernel
  snapshot := by
    rw [show Path.ofText "x.json" = ⟨"", ["x.json"]⟩ by decide +kernel]
    rfl
  paired := paired
  out := rfl
  opened := by
    rw [show Path.ofText "." = ⟨"", []⟩ by decide +kernel]
    rfl

/-- A snapshot of one block, at which the conversation starts. -/
def loneStart : List Char :=
  "\x7b\"blocks\":\x7b\"a\":\x7b\"type\":\"start\"\x7d\x7d\x7d".toList

/-- The octets of the snapshot; each of its characters is one octet. -/
def loneStartOctets : List UInt8 := loneStart.map fun c => UInt8.ofNat c.toNat

theorem textOf_loneStart : textOf loneStartOctets = .ok (String.ofList loneStart) :=
  toOption_eq_some_iff.1 (by decide +kernel)

/-- The compiler is asked for the snapshot of one block. -/
def loneStartScene : Scene := ofFile loneStartOctets <| by
  intro text htext
  rw [textOf_loneStart] at htext
  obtain rfl := Except.ok.inj htext
  rw [String.toList_ofList]
  decide +kernel

theorem yields_loneStart : ∃ flow start, loneStartScene.Yields flow ∧ flow.starts = [start] := by
  have hmark : loneStart.head? ≠ some (Char.ofNat 0xFEFF) := by decide +kernel
  have hall : (do
      let data ← (Json.run Json.usualDepth loneStart.length [] .value
        (Json.tokensFrom 0 [] loneStart)).toOption
      let _ ← (Snapshot.check false data).toOption
      let loaded := (Snapshot.load Flow.empty false data).outcome
      let _ ← loaded.result.toOption
      return loaded.flow.starts.length) = some 1 := by
    decide +kernel
  obtain ⟨data, hrun, hall⟩ := Option.bind_eq_some_iff.1 hall
  obtain ⟨parts, hcheck, hall⟩ := Option.bind_eq_some_iff.1 hall
  obtain ⟨done, hload, hlength⟩ := Option.bind_eq_some_iff.1 hall
  obtain ⟨start, hstarts⟩ := List.length_eq_one_iff.1 (Option.some.inj hlength)
  have hparse : Json.parse (String.ofList loneStart) Json.usualDepth = .ok data :=
    Json.parse_ofList hmark (toOption_eq_some_iff.1 hrun)
  exact ⟨_, start, .mk textOf_loneStart hparse (toOption_eq_some_iff.1 hcheck)
    (toOption_eq_some_iff.1 hload), hstarts⟩

end Scene

end CommandLine

end DialogGraph

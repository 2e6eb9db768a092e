import AlgorithmDriver.Proofs.CommandLine.Processes

/-!
# Runs copy faithfully

What holds of a run from the start of the algorithm on is kept by every step of every party
(`Exchange.Attended.moves`), in whatever order the steps come (`Run.attended`).  So at any time the
run is as `Exchange.Orderly` says, whatever anybody does to the two files.  When others leave these
alone, more is kept (`Exchange.Underway.moves`, `Run.underway`), and the run is as
`Exchange.Faithful` says.  `Ready.copies_faithfully` puts this together, and it holds as well when a
run is conducted on a machine whose processes leave the two files alone
(`Ready.conducts_faithfully`).
-/

namespace AlgorithmDriver.CommandLine.Exchange

variable {c : Connection} {e e' : Exchange} {content : Bytes} {regular : Prop}
  {events : List Event} {event : Event}

/-! ## Steps -/

/-- The files are opened one after the other. -/
theorem Turn.early (turn : Turn e e')
    (early : (∃ s w, e'.stage = .openInput s w) ∨ ∃ s, e'.stage = .openOutput s) :
    (∃ s w, e.stage = .openInput s w) ∧ ∃ s, e'.stage = .openOutput s := by
  cases turn with
  | noInput stage => exact ⟨⟨_, _, stage⟩, _, rfl⟩
  | input stage => exact ⟨⟨_, _, stage⟩, _, rfl⟩
  | _ => rcases early with ⟨_, _, stage⟩ | ⟨_, stage⟩ <;> cases stage

theorem stage_of_result? {result : Except RunError Nat} («over» : e.result? = some result) :
    e.stage = .over result := by
  unfold result? at «over»
  split at «over»
  · rename_i stage
    rwa [Option.some.inj «over»] at stage
  · cases «over»

theorem Feeding.same (feeding : Feeding e e') : e'.stage = e.stage ∧ e'.options = e.options := by
  cases feeding <;> exact ⟨rfl, rfl⟩

namespace Attended

variable {produced : Bytes}

theorem turn (attended : Attended c regular produced e) (step : e.mainStep = some e') :
    Turn e e' := attended.concluded.turn attended.plan step

theorem ofTurn (attended : Attended c regular produced e) (turn : Turn e e')
    (files : regular → ∀ s, e.stage = .openOutput s → Files content regular e) :
    Attended c regular produced e' where
  plan := attended.plan.ofTurn turn
  fed := by
    obtain ⟨held, piped⟩ := attended.fed
    exact ⟨held, (turn.touch attended.plan).piped_inlet attended.plan piped⟩
  supplied := attended.supplied.ofTurn attended.plan turn
  outlet := attended.outlet.ofTurn attended.plan turn files
  concluded := attended.concluded.ofTurn attended.plan turn

theorem ofFeeding (attended : Attended c regular produced e) (feeding : Feeding e e') :
    Attended c regular produced e' where
  plan := attended.plan.ofFeeding feeding
  fed := by
    obtain ⟨held, piped⟩ := attended.fed
    obtain ⟨t, between, copying, copies, manages⟩ := feeding.touch
    rw [(attended.plan.feeder t copying).1] at copies
    obtain ⟨_, more, now⟩ := piped.copies_into copies (Option.some_ne_none _).symm
    exact ⟨held ++ more, now.manages manages⟩
  supplied := attended.supplied.ofFeeding attended.plan feeding
  outlet := attended.outlet.ofFeeding attended.plan attended.fed feeding
  concluded := attended.concluded.ofFeeding feeding

theorem ofOthers {took put : Bytes} {world : World} (attended : Attended c regular produced e)
    (others : c.Others took put e.world world)
    (leaves : regular → LeavesFiles e.options e.world.host world.host) :
    Attended c regular (produced ++ put) { e with world } where
  plan := attended.plan.ofOthers others
  fed := by
    obtain ⟨held, piped⟩ := attended.fed
    obtain ⟨rest, _, now⟩ := others.piped_inlet piped
    exact ⟨rest, now⟩
  supplied := attended.supplied.ofOthers others
  outlet := attended.outlet.ofOthers others leaves
  concluded := attended.concluded.ofOthers others

/-- Whoever takes a step, and whatever becomes of the files. -/
theorem moves {discreet : Prop} (attended : Attended c False produced e)
    (moves : Moves c discreet e event e') : Attended c False (produced ++ event.put) e' := by
  cases moves with
  | main step =>
    rw [show Event.put .main = [] from rfl, List.append_nil]
    exact @ofTurn c e e' [] False produced attended (attended.turn step) False.elim
  | feeder step =>
    rw [show Event.put .feeder = [] from rfl, List.append_nil]
    exact attended.ofFeeding (feederStep_feeding step)
  | others others leaves => exact attended.ofOthers others False.elim

end Attended

theorem Run.attended {start : Exchange} {discreet : Prop} (run : Run c discreet start events e)
    (attended : Attended c False [] start) : Attended c False (produced events) e := by
  induction run with
  | nil => exact attended
  | snoc _ moves ih =>
    rw [produced_snoc]
    exact ih.moves moves

namespace Underway

theorem ofTurn (underway : Underway c content regular events e) (turn : Turn e e') :
    Underway c content regular events e' where
  toAttended := underway.toAttended.ofTurn turn fun _ s stage => underway.files (.inr ⟨s, stage⟩)
  nothing unnamed := underway.nothing (turn.console.2 ▸ unnamed)
  files early := by
    obtain ⟨before, s, stage⟩ := turn.early early
    exact (underway.files (.inl before)).ofTurn turn stage
  inlet := underway.inlet.ofTurn underway.plan turn underway.files

theorem ofFeeding (underway : Underway c content regular events e) (feeding : Feeding e e') :
    Underway c content regular events e' := by
  obtain ⟨stage, options⟩ := feeding.same
  obtain ⟨held, piped⟩ := underway.fed
  exact
    { underway.toAttended.ofFeeding feeding with
      nothing := fun unnamed => underway.nothing (options ▸ unnamed)
      files := fun early => (underway.files (stage ▸ early)).ofFeeding underway.plan piped feeding
      inlet := underway.inlet.ofFeeding underway.plan feeding }

theorem ofOthers {took put : Bytes} {world : World}
    (underway : Underway c content regular events e) (others : c.Others took put e.world world)
    (leaves : LeavesFiles e.options e.world.host world.host) :
    Underway c content regular (events ++ [.others took put]) { e with world } where
  toAttended := by
    rw [produced_snoc]
    exact underway.toAttended.ofOthers others fun _ => leaves
  nothing := underway.nothing
  files early := (underway.files early).ofOthers others leaves
  inlet := by
    rw [received_snoc]
    exact underway.inlet.ofOthers underway.plan others leaves

/-- Nothing is taken or put when a party takes its turn. -/
theorem silent (underway : Underway c content regular events e) (took : event.took = [])
    (put : event.put = []) : Underway c content regular (events ++ [event]) e where
  toAttended := by
    rw [produced_snoc, put, List.append_nil]
    exact underway.toAttended
  nothing := underway.nothing
  files := underway.files
  inlet := by
    rw [received_snoc, took, List.append_nil]
    exact underway.inlet

theorem moves (underway : Underway c content regular events e) (moves : Moves c True e event e') :
    Underway c content regular (events ++ [event]) e' := by
  cases moves with
  | main step => exact (underway.ofTurn (underway.turn step)).silent rfl rfl
  | feeder step => exact (underway.ofFeeding (feederStep_feeding step)).silent rfl rfl
  | others others leaves => exact underway.ofOthers others (leaves trivial)

end Underway

theorem Run.underway {start : Exchange} (run : Run c True start events e)
    (underway : Underway c content regular [] start) : Underway c content regular events e := by
  induction run with
  | nil => exact underway
  | snoc _ moves ih => exact ih.moves moves

/-! ## What holds at any time -/

/-- The copying of the input has failed. -/
def FeederFailed (e : Exchange) : Prop := ∃ error, e.feeder = some (.done (.error error))

/-- The run has failed. -/
def Failed (e : Exchange) : Prop := ∃ error, e.result? = some (.error error)

/-- How a run stands at any time, whatever happens to the files. -/
structure Orderly (c : Connection) (e : Exchange) : Prop where
  /-- The input of the algorithm is not closed before the feeder is done, unless the run has
  failed. -/
  supplied : e.world.host.hasWriter c.inlet = false →
    e.options.input = none ∨ (∃ result, e.feeder = some (.done result)) ∨ e.Failed
  /-- The code of a run that has ended well is that of the algorithm. -/
  exited : ∀ code, e.result? = some (.ok code) → Exited c code e.world.host
  /-- The parties leave the processes alone.  The last turn finds the process to have ended, or the
  run has failed. -/
  own : ∀ e', e.mainStep = some e' ∨ e.feederStep = some e' →
    e'.world.host.processes = e.world.host.processes ∨
      (∃ code, e'.result? = some (.ok code) ∧ Exited c code e.world.host) ∨ e'.Failed
  /-- A run fails with an error when there is a reason for it, and only then. -/
  fails : ∀ error, Fails e error ↔ ∃ e', e.mainStep = some e' ∧ e'.result? = some (.error error)
  /-- Nothing is left in the end. -/
  left : e.result? ≠ none → Left c e

/-- A run is as it is to be after some events, when the input file has the given content. -/
structure Faithful (c : Connection) (content : Bytes) (regular : Prop) (events : List Event)
    (e : Exchange) : Prop extends Orderly c e where
  /-- The algorithm gets the beginning of the input file. -/
  given : received events <+: content
  /-- The end of its input comes after all of it, unless something failed. -/
  ended : e.world.host.pipes[c.inlet]? = some [] → e.world.host.hasWriter c.inlet = false →
    received events = content ∨ e.FeederFailed ∨ e.Failed
  /-- The output file holds what the algorithm wrote when the run has ended well. -/
  saved : ∀ code path, e.result? = some (.ok code) → e.options.output = some path → regular →
    ∃ node, e.world.host.files.find e.world.host.directory path = .ok node ∧
      e.world.host.files.bytes? node = some (produced events)

/-- A run with a feeder at work goes on, or it has failed. -/
theorem Plan.going {t : Transfer} (plan : Plan c e) (copying : e.feeder = some (.copying t)) :
    e.result? = none ∨ e.Failed := by
  cases «over» : e.result? with
  | none => exact .inl rfl
  | some result =>
    cases result with
    | error error => exact .inr ⟨error, «over»⟩
    | ok code =>
      have has := plan.has
      rw [stage_of_result? «over»] at has
      exact absurd copying (Rests.idle has t)

theorem Fetches.unnamed {options : RunOptions} {table : Table .readFile (Channel ReadHandle)}
    {input : Option ReadFileId} (fetches : Fetches options table none input) :
    options.input = none := by
  cases fetches with
  | nothing unnamed => exact unnamed
  | file _ _ began => exact absurd rfl began

theorem Rests.unnamed {options : RunOptions} (rests : Rests options none) : options.input = none := by
  cases rests with
  | nothing unnamed => exact unnamed
  | done done => cases done

/-- A run without a feeder has not opened the input file yet, or there is none. -/
theorem Plan.idle (plan : Plan c e) (idle : e.feeder = none) :
    (∃ s w, e.stage = .openInput s w) ∨ e.options.input = none ∨ e.Failed := by
  have has := plan.has
  cases stage : e.stage with
  | start =>
    rw [stage] at has
    exact has.elim
  | openInput s w => exact .inl ⟨s, w, rfl⟩
  | openOutput =>
    rw [stage] at has
    exact .inr (.inl (idle ▸ has.2.2.2.2).unnamed)
  | collect =>
    rw [stage] at has
    exact .inr (.inl (idle ▸ has.2.2.2).unnamed)
  | closeOutput =>
    rw [stage] at has
    exact .inr (.inl (idle ▸ has.2.2).unnamed)
  | awaitFeeder =>
    rw [stage] at has
    exact .inr (.inl (idle ▸ has.2).unnamed)
  | awaitAlgorithm =>
    rw [stage] at has
    exact .inr (.inl (idle ▸ has.2).unnamed)
  | «over» result =>
    cases result with
    | error error => exact .inr (.inr ⟨error, by rw [result?, stage]⟩)
    | ok code =>
      rw [stage] at has
      exact .inr (.inl (Rests.unnamed (idle ▸ has)))

namespace Attended

variable {produced : Bytes}

/-- The input of the algorithm is open as long as there is something to feed it. -/
theorem not_feeds (attended : Attended c regular produced e)
    (sealed : e.world.host.hasWriter c.inlet = false) : ¬ e.Feeds := by
  intro feeds
  obtain ⟨d, supplies⟩ := attended.supplied feeds
  cases supplies.hasWriter.symm.trans sealed

theorem not_copying (attended : Attended c regular produced e)
    (sealed : e.world.host.hasWriter c.inlet = false) {t : Transfer}
    (copying : e.feeder = some (.copying t)) : e.Failed := by
  rcases attended.plan.going copying with going | failed
  · exact absurd ⟨going, .inr ⟨_, copying⟩⟩ (attended.not_feeds sealed)
  · exact failed

theorem not_waiting (attended : Attended c regular produced e)
    (sealed : e.world.host.hasWriter c.inlet = false) (idle : e.feeder = none) :
    e.options.input = none ∨ e.Failed := by
  rcases attended.plan.idle idle with ⟨s, w, stage⟩ | rest
  · exact absurd ⟨by rw [result?, stage], .inl ⟨s, w, stage⟩⟩ (attended.not_feeds sealed)
  · exact rest

/-- The main party does something to processes only when it ends the run. -/
theorem own (attended : Attended c regular produced e)
    (step : e.mainStep = some e' ∨ e.feederStep = some e') :
    e'.world.host.processes = e.world.host.processes ∨
      (∃ code, e'.result? = some (.ok code) ∧ Exited c code e.world.host) ∨ e'.Failed := by
  rcases step with step | step
  · have turn := attended.turn step
    by_cases going : e'.result? = none
    · exact .inl (turn.processes going)
    · obtain ⟨i, tended⟩ := attended.concluded.tended turn.going
      cases turn with
      | halts halts =>
        cases halts with
        | exited stage found status =>
          have has := attended.plan.has
          rw [stage] at has
          obtain rfl := Option.some.inj (found.symm.trans (has.1 ▸ tended.found))
          exact .inr (.inl ⟨_, rfl, exited_of_poll tended.running tended.process status⟩)
        | _ => exact .inr (.inr ⟨_, rfl⟩)
      | _ => exact absurd rfl going
  · exact .inl (feederStep_feeding step).processes

/-- A run fails for a reason. -/
theorem fails (attended : Attended c regular produced e) (error : RunError) :
    Fails e error ↔ ∃ e', e.mainStep = some e' ∧ e'.result? = some (.error error) := by
  refine ⟨Fails.ends, ?_⟩
  rintro ⟨e', step, failed⟩
  cases attended.turn step with
  | halts halts =>
    cases failed
    exact halts.fails attended.outlet attended.plan
  | _ => cases failed

theorem orderly (attended : Attended c regular produced e) : Orderly c e where
  supplied sealed := by
    cases feeder : e.feeder with
    | none =>
      rcases attended.not_waiting sealed feeder with unnamed | failed
      · exact .inl unnamed
      · exact .inr (.inr failed)
    | some f =>
      cases f with
      | copying t => exact .inr (.inr (attended.not_copying sealed feeder))
      | done result => exact .inr (.inl ⟨result, rfl⟩)
  exited := attended.concluded.exited
  own _ := attended.own
  fails := attended.fails
  left := attended.concluded.left

end Attended

namespace Underway

/-- The input of the algorithm is open until it has got everything, unless something fails. -/
theorem ended (underway : Underway c content regular events e)
    (empty : e.world.host.pipes[c.inlet]? = some [])
    (sealed : e.world.host.hasWriter c.inlet = false) :
    received events = content ∨ e.FeederFailed ∨ e.Failed := by
  obtain ⟨held, piped, fed⟩ := underway.inlet
  obtain rfl : [] = held := Option.some.inj (empty.symm.trans piped.held)
  rw [List.append_nil] at fed
  cases fed with
  | finished _ all => exact .inl all
  | failed done _ => exact .inr (.inl ⟨_, done⟩)
  | copying copying => exact .inr (.inr (underway.not_copying sealed copying))
  | waiting idle nothing =>
    rcases underway.not_waiting sealed idle with unnamed | failed
    · exact .inl (nothing.trans (underway.nothing unnamed).symm)
    · exact .inr (.inr failed)

/-- All of the output is in the file when the run has ended well. -/
theorem saved {code : Nat} {path : String} (underway : Underway c content regular events e)
    (ended : e.result? = some (.ok code)) (named : e.options.output = some path)
    (isRegular : regular) : ∃ node,
      e.world.host.files.find e.world.host.directory path = .ok node ∧
        e.world.host.files.bytes? node = some (produced events) := by
  obtain ⟨held, taken, _, whole, collects⟩ := underway.outlet
  rw [stage_of_result? ended] at collects
  rw [whole]
  exact Saved.whole collects isRegular named

theorem faithful (underway : Underway c content regular events e) :
    Faithful c content regular events e where
  toOrderly := underway.orderly
  given := by
    obtain ⟨held, _, fed⟩ := underway.inlet
    exact (List.prefix_append _ _).trans fed.part
  ended := underway.ended
  saved _ _ ended named isRegular := underway.saved ended named isRegular

end Underway

/-- The first step of a run is to start the algorithm. -/
theorem Ready.conduct_succ (ready : e.Ready) (steps : Nat) :
    e.conduct (steps + 1) = e.start.conduct steps := by
  have unfed : e.step .feeder = none := by
    show e.feederStep = none
    unfold feederStep
    rw [ready.feeder]
  have started : e.step .main = some e.start := by
    show e.mainStep = some e.start
    unfold mainStep
    rw [ready.stage]
  rw [conduct, ready.stage]
  dsimp only
  rw [unfed, started]

/-- A run that is conducted on a machine copies faithfully when no process ever does anything to the
two files. -/
theorem Ready.conducts_faithfully {i : Instance} {world : World} (ready : e.Ready)
    (enclosed : e.world.Enclosed)
    (spawned : e.driver.spawn e.options.name e.world = .ok (i, world))
    (provides : Provides content e.start)
    (leaves : ∀ {between : Exchange} {n : Nat} {host : Host}, Steps False e.start between →
      between.world.host.step n = some host →
        LeavesFiles between.options between.world.host host) (steps : Nat) :
    ∃ events, Run e.connection True e.start events (e.conduct (steps + 1)) ∧
      Faithful e.connection content (SavesToFile e.start) events (e.conduct (steps + 1)) := by
  rw [ready.conduct_succ]
  have taken := (conduct_steps steps e.start).of_discreet leaves
  obtain ⟨events, reaches⟩ := taken.reaches (ready.sheltered enclosed spawned)
  exact ⟨events, reaches.run, (reaches.run.underway (ready.underway spawned provides)).faithful⟩

/-- An algorithm that cannot be started is the whole failure.  Otherwise the run is orderly, whatever
the algorithm does and in whatever order the parties take their turns: it ends with the code of the
algorithm, or fails for a reason, and leaves nothing behind.  As long as others leave the two files
alone, the input is copied to the algorithm and its output to the output file.  All that the
processes of a machine do is among what others may do. -/
theorem Ready.copies_faithfully (ready : e.Ready) :
    (∀ error, e.driver.spawn e.options.name e.world = .error error →
      e.start = { e with stage := .over (.error (.driver error)) }) ∧
    ∀ i world, e.driver.spawn e.options.name e.world = .ok (i, world) →
      (∀ discreet events e', Run e.connection discreet e.start events e' →
        Orderly e.connection e') ∧
      (∀ content events e', Provides content e.start → Run e.connection True e.start events e' →
        Faithful e.connection content (SavesToFile e.start) events e') ∧
      (e.world.Enclosed → ∀ discreet e', Steps discreet e.start e' →
        ∃ events, Run e.connection discreet e.start events e') := by
  refine ⟨fun _ refused => ready.refused refused, fun i world spawned => ⟨?_, ?_, ?_⟩⟩
  · intro discreet events e' run
    exact (run.attended (ready.attended spawned False).1).orderly
  · intro content events e' provides run
    exact (run.underway (ready.underway spawned provides)).faithful
  · intro enclosed discreet e' steps
    obtain ⟨events, reaches⟩ := steps.reaches (ready.sheltered enclosed spawned)
    exact ⟨events, reaches.run⟩

/-! ## A run on a small machine -/

section Sample

variable (program : Program Nat)

/-- A run of a program, with a file to read and one to overwrite. -/
def sample : Exchange where
  options := { directory := "/", name := "three", input := some "/in", output := some "/out" }
  driver := { config := { directory := some "/" } }
  world :=
    { host :=
        { files :=
            ⟨[.directory 0 [("three", 1), ("in", 2), ("out", 3)], .program fun _ => program,
              .file [7] false, .file [1, 2, 3] false, .device .null]⟩
          descriptions :=
            [{ object := .node 4, appends := true }, { object := .node 4, appends := true }] }
      errors := 1
      sinks := [{ stream := some { description := 0, capacity := 0 } }] }
  console := ⟨0⟩

theorem sample_ready : (sample program).Ready where
  stage := rfl
  feeder := rfl
  driver := rfl
  console := Nat.one_pos
  grounded := by
    refine ⟨fun r source isOpen => (nomatch isOpen), fun w sink isOpen => ?_⟩
    obtain ⟨_ | n⟩ := w <;> cases isOpen
    exact Nat.two_pos
  idle w sink isOpen := by
    obtain ⟨_ | n⟩ := w <;> cases isOpen
    rfl
  pipes d mem k pipe := by
    rcases List.mem_pair.1 mem with rfl | rfl <;> rcases pipe with pipe | pipe <;> cases pipe

theorem sample_enclosed : (sample program).world.Enclosed := by
  have described {n : Nat} (described : (sample program).world.Describes n) : n = 0 := by
    rcases described with ⟨⟨_ | w⟩, sink, isOpen, same⟩ | ⟨⟨r⟩, source, isOpen, same⟩ <;>
      cases isOpen
    exact same.symm
  exact
    { counted := fun n => Nat.zero_le _
      streams := fun n is => described is ▸ ⟨Nat.two_pos, rfl⟩
      foreign := fun is => Nat.one_ne_zero (described is)
      known := Nat.one_lt_two }

/-- The files on the machine are found in its root directory. -/
theorem sample_found {files : FileTree} {path name : String} {n : Nat}
    (root : files.get? 0 = some (.directory 0 [("three", 1), ("in", 2), ("out", 3)]))
    (named : Path.isAbsolute path = true ∧ path ≠ "" ∧ Path.names path = [name] ∧ name ≠ "." ∧
      name ≠ ".." ∧ [("three", 1), ("in", 2), ("out", 3)].lookup name = some n)
    (short : path.utf8ByteSize < FileTree.tooLongPath ∧ name.utf8ByteSize ≤ FileTree.longestName)
    (straight : ∀ target, files.get? n ≠ some (.link target)) : files.find 0 path = .ok n := by
  obtain ⟨absolute, nonempty, names, here, up, entry⟩ := named
  exact FileTree.find_entry absolute nonempty (Nat.not_le.2 short.1) names root here up
    (Nat.not_lt.2 short.2) entry straight

theorem sample_found_out {files : FileTree} {content : Bytes}
    (root : files.get? 0 = some (.directory 0 [("three", 1), ("in", 2), ("out", 3)]))
    (isFile : files.get? 3 = some (.file content false)) : files.find 0 "/out" = .ok 3 :=
  @sample_found files "/out" "out" 3 root (by decide +kernel) (by decide +kernel) fun _ link =>
    nomatch isFile.symm.trans link

theorem sample_find : (sample program).world.host.files.find 0 "/three" = .ok 1 ∧
    (sample program).world.host.files.find 0 "/in" = .ok 2 ∧
    (sample program).world.host.files.find 0 "/out" = .ok 3 :=
  ⟨@sample_found _ "/three" "three" 1 rfl (by decide +kernel) (by decide +kernel) nofun,
    @sample_found _ "/in" "in" 2 rfl (by decide +kernel) (by decide +kernel) nofun,
    sample_found_out rfl rfl⟩

theorem sample_resolve : (sample program).driver.config.resolve (sample program).world.host "three" =
    .ok { program := "/three" } :=
  Config.resolve_of_program rfl rfl ⟨by decide, by decide, by decide, by decide⟩ (by decide +kernel)
    (by decide) (sample_find program).1 rfl

/-- The world after the program was started. -/
def sampleStarted : World :=
  { (sample program).world with
    host := Instance.pipedHost ((sample program).world.host.hold 1) program 1
    sinks := (sample program).world.sinks ++ [{ stream := some { description := 3, capacity := 0 } }]
    sources := [{ stream := some { description := 4, capacity := 0 } }] }

/-- The instance of the program. -/
def sampleInstance : Instance where
  name := "three"
  process := 0
  input := .owned ⟨1⟩
  output := some ⟨0⟩

theorem sample_spawned : (sample program).driver.spawn "three" (sample program).world =
    .ok (sampleInstance, sampleStarted program) := by
  let host := (sample program).world.host.hold 1
  let arguments := Instance.given { program := "/three" } (sample program).world.host
  have fits : Host.fits { values := ["/three"].map Bytes.ofText, environment := [] } = true := by
    decide +kernel
  have loaded : host.loadCommand host.directory host.searchPath "/three" arguments = .ok program :=
    Host.loadCommand_of_program (by decide) (sample_find program).1 rfl fits host.searchPath
  have started : Instance.start "three" { program := "/three" } .inherit (sample program).world =
      .ok (sampleInstance, sampleStarted program) :=
    Instance.start_eq_ok_iff.2 ⟨rfl, _, host, _, rfl, loaded, rfl, rfl⟩
  exact Driver.spawn_eq_ok_iff.2 ⟨_, sample_resolve program, started⟩

/-- The run after that. -/
def sampleBegun : Exchange :=
  { sample program with
    driver :=
      { (sample program).driver with
        algorithms := { next := 2, entries := [(1, { sampleInstance with input := .lent ⟨1⟩ })] } }
    world := ((sampleStarted program).record (.started "three" ⟨1⟩)).holdSource ⟨0⟩
    stage := .openInput { id := ⟨1⟩, fromAlgorithm := ⟨0⟩ } ⟨1⟩ }

theorem sample_start : (sample program).start = sampleBegun program :=
  (sample_ready program).start_eq (sample_spawned program)

theorem sample_provides : Provides [7] (sample program).start where
  nothing := by
    intro unnamed
    rw [sample_start] at unnamed
    cases unnamed
  input := by
    rw [sample_start]
    intro path node named found
    cases named
    cases (sample_find program).2.1.symm.trans found
    exact .inl rfl
  aside := by
    rw [sample_start]
    intro path node named found w sink isOpen leads
    cases named
    cases (sample_find program).2.1.symm.trans found
    obtain ⟨d, place, object⟩ := leads
    obtain ⟨_ | _ | n⟩ := w <;> cases isOpen <;> cases place <;> cases object
  apart := by
    rw [sample_start]
    intro path output node named named' found found'
    cases named
    cases named'
    cases (sample_find program).2.1.symm.trans found
    cases (sample_find program).2.2.symm.trans found'

theorem sample_savesToFile : SavesToFile (sample program).start := by
  rw [sample_start]
  intro path node named found
  cases named
  cases (sample_find program).2.2.symm.trans found
  exact Option.some_ne_none _

/-- The run after the input file was opened. -/
def sampleFed : Exchange :=
  let begun := sampleBegun program
  let channel : Channel ReadHandle := { path := "/in", pipe := ⟨1⟩ }
  let host := (begun.world.host.describe { object := .node 2 }).2
  let source : Shared Source := { stream := some { description := 6, capacity := bufferSize } }
  let world := { begun.world with host, sources := begun.world.sources ++ [source] }
  { begun with
    driver := (begun.driver.registerRead channel world).2.1
    world := (begun.driver.registerRead channel world).2.2.holdSource ⟨1⟩
    stage := .openOutput { id := ⟨1⟩, fromAlgorithm := ⟨0⟩, input := some ⟨1⟩ }
    feeder := some (.copying { source := ⟨1⟩, sink := ⟨1⟩ }) }

theorem sample_input : (sampleBegun program).mainStep = some (sampleFed program) := by
  let host := (sampleBegun program).world.host
  have opened : host.openRead 0 "/in" = .ok (host.describe { object := .node 2 }) :=
    Host.openRead_eq_ok_iff.2 ⟨2, (sample_find program).2.1, rfl, rfl⟩
  refine congrArg some (openInput_of_acquired rfl rfl ?_)
  exact Driver.acquireRead_eq_ok_iff.2 ⟨by decide +kernel, _, _, opened, rfl, rfl, rfl⟩

/-- The run after the output file was opened. -/
def sampleOpened : Exchange :=
  let fed := sampleFed program
  let channel : Channel WriteHandle := { path := "/out", pipe := ⟨2⟩ }
  let files := fed.world.host.files.set 3 (.file [] false)
  let host := ({ fed.world.host with files }.describe { object := .node 3 }).2
  let sink : Shared Sink := { stream := some { description := 7, capacity := bufferSize } }
  let world := { fed.world with host, sinks := fed.world.sinks ++ [sink] }
  { fed with
    driver := (fed.driver.registerWrite channel world).2.1
    world := (fed.driver.registerWrite channel world).2.2.holdSink ⟨2⟩
    stage := .collect { id := ⟨1⟩, fromAlgorithm := ⟨0⟩, input := some ⟨1⟩, output := some ⟨1⟩ }
      { source := ⟨0⟩, sink := ⟨2⟩ } }

theorem sample_output : (sampleFed program).mainStep = some (sampleOpened program) := by
  refine congrArg some (openOutput_of_acquired rfl rfl ?_)
  exact Driver.acquireWrite_eq_ok_iff.2
    ⟨by decide +kernel, _, _, Host.openWrite_of_file (sample_find program).2.2 rfl, rfl, rfl⟩

theorem sample_opened (discreet : Prop) : Reaches (sample program).connection discreet
    (sample program).start [.main, .main] (sampleOpened program) := by
  have begun : Reaches (sample program).connection discreet (sample program).start []
      (sample program).start :=
    ⟨.nil, .nil,
      (sample_ready program).sheltered (sample_enclosed program) (sample_spawned program)⟩
  have still := sample_start program
  generalize (sample program).start = start at begun still ⊢
  subst still
  exact (begun.main (sample_input program)).main (sample_output program)

end Sample

section Next

variable {discreet : Prop} {start : Exchange}

theorem Reaches.next_main (reaches : Reaches c discreet start events e)
    (goes : e.mainStep.isSome = true) :
    Reaches c discreet start (events ++ [.main]) (e.mainStep.get goes) :=
  reaches.main (Option.some_get goes).symm

theorem Reaches.next_feeder (reaches : Reaches c discreet start events e)
    (goes : e.feederStep.isSome = true) :
    Reaches c discreet start (events ++ [.feeder]) (e.feederStep.get goes) :=
  reaches.feeder (Option.some_get goes).symm

theorem Reaches.next_process (reaches : Reaches c discreet start events e) (took put : Bytes)
    (goes : (e.world.host.step 0).isSome = true)
    (inlet : e.world.host.pipes[c.inlet]? =
      ((e.world.host.step 0).get goes).pipes[c.inlet]?.map (took ++ ·))
    (outlet : ((e.world.host.step 0).get goes).pipes[c.outlet]? =
      e.world.host.pipes[c.outlet]?.map (· ++ put))
    (leaves : discreet → LeavesFiles e.options e.world.host ((e.world.host.step 0).get goes)) :
    Reaches c discreet start (events ++ [.others took put])
      { e with world := { e.world with host := (e.world.host.step 0).get goes } } :=
  reaches.process (Option.some_get goes).symm inlet outlet leaves

end Next

/-- Reads its input to the end, writes another byte and exits with code 3. -/
def answering : Program Nat :=
  .ask (.read 0 16) fun _ => .ask (.read 0 16) fun _ => .ask (.write 1 [8]) fun _ => .result 3

/-- The algorithm reads all of its input, writes another byte and exits with code 3.  The output file
holds that byte and nothing else. -/
theorem Ready.copies_faithfully_sample : (sample answering).Ready ∧
    (sample answering).driver.spawn (sample answering).options.name (sample answering).world =
      .ok (sampleInstance, sampleStarted answering) ∧
    Provides [7] (sample answering).start ∧ SavesToFile (sample answering).start ∧
    (sample answering).world.Enclosed ∧ ∃ events e', Steps True (sample answering).start e' ∧
      Run (sample answering).connection True (sample answering).start events e' ∧
      received events = [7] ∧ produced events = [8] ∧ e'.result? = some (.ok 3) ∧
      ∃ node, e'.world.host.files.find e'.world.host.directory "/out" = .ok node ∧
        e'.world.host.files.bytes? node = some [8] := by
  have ready := sample_ready answering
  have spawned := sample_spawned answering
  have provides := sample_provides answering
  have regular := sample_savesToFile answering
  have opened := sample_opened answering True
  have fed := ((opened.next_feeder (by decide +kernel)).next_feeder (by decide +kernel)).next_feeder
    (by decide +kernel)
  have read := (fed.next_process [7] [] (by decide +kernel) (by decide +kernel) (by decide +kernel)
    fun _ => .of_same rfl rfl).next_process [] [] (by decide +kernel) (by decide +kernel)
      (by decide +kernel) fun _ => .of_same rfl rfl
  have answered := read.next_process [] [8] (by decide +kernel) (by decide +kernel)
    (by decide +kernel) fun _ => .of_same rfl rfl
  have collected := (answered.next_main (by decide +kernel)).next_main (by decide +kernel)
  have exited := collected.next_process [] [] (by decide +kernel) (by decide +kernel)
    (by decide +kernel) fun _ => .of_same rfl rfl
  have reached := (((exited.next_main (by decide +kernel)).next_main
    (by decide +kernel)).next_main (by decide +kernel)).next_main (by decide +kernel)
  have faithful := ((Ready.copies_faithfully ready).2 _ _ spawned).2.1 _ _ _ provides reached.run
  exact ⟨ready, spawned, provides, regular, sample_enclosed answering, _, _, reached.steps,
    reached.run, rfl, rfl, by decide +kernel,
    faithful.saved 3 "/out" (by decide +kernel) (by decide +kernel) regular⟩

/-- Overwrites the output file with another byte and exits with code 3. -/
def overwriting : Program Nat :=
  .ask (.openFile "/out" .create) fun _ => .ask (.write 3 [5]) fun _ => .result 3

/-- The machine after the algorithm opened the output file itself. -/
def overwritingOpened : Host :=
  let host := (sampleOpened overwriting).world.host
  let files := host.files.set 3 (.file [] false)
  (({ host with files }.describe { object := .node 3 }).2.bindDescriptor 0 3 8).resume 0
    (.ask (.write 3 [5]) fun _ => .result 3)

/-- A process opens a file. -/
theorem step_openFile {host after : Host} {p : Process} {n m : Nat} {path : String} {mode : OpenMode}
    {next : Reply → Program Nat} (found : host.process? n = some p) (alive : p.fatal = none)
    (running : p.activity = .running (.ask (.openFile path mode) next))
    (opened : host.openFile p.directory path mode = .ok (m, after)) :
    host.step n = some ((after.bindDescriptor n (Host.freeDescriptor p 0) m).resume n
      (next (.descriptor (Host.freeDescriptor p 0)))) := by
  unfold Host.step
  rw [found]
  dsimp only
  rw [running, alive]
  dsimp only [Option.isSome_none, Host.reply]
  rw [opened]
  rfl

theorem overwriting_opens :
    (sampleOpened overwriting).world.host.step 0 = some overwritingOpened :=
  @step_openFile (sampleOpened overwriting).world.host _
    { parent := none, activity := .running overwriting, directory := 0
      descriptors := [(0, 2), (1, 5), (2, 1)] } 0 8 "/out" .create _ rfl rfl rfl
    (Host.openWrite_of_file (sample_found_out rfl rfl) rfl)

/-- The algorithm writes nothing to its output, but to the output file itself.  The run ends well all the
same, and that is what the file holds. -/
theorem Run.overwritten_sample : (sample overwriting).Ready ∧
    Provides [7] (sample overwriting).start ∧ SavesToFile (sample overwriting).start ∧
    ∃ events e', Steps False (sample overwriting).start e' ∧
      Run (sample overwriting).connection False (sample overwriting).start events e' ∧
      e'.result? = some (.ok 3) ∧ produced events = [] ∧
      e'.world.host.files.find e'.world.host.directory "/out" = .ok 3 ∧
      e'.world.host.files.bytes? 3 = some [5] := by
  have opened := @Reaches.process _ _ _ _ _ 0 overwritingOpened [] [] (sample_opened overwriting False)
    overwriting_opens (by decide +kernel) (by decide +kernel) False.elim
  have fed := ((opened.next_feeder (by decide +kernel)).next_feeder (by decide +kernel)).next_feeder
    (by decide +kernel)
  have written := fed.next_process [] [] (by decide +kernel) (by decide +kernel) (by decide +kernel)
    False.elim
  have exited := written.next_process [] [] (by decide +kernel) (by decide +kernel)
    (by decide +kernel) False.elim
  have reached := (((exited.next_main (by decide +kernel)).next_main
    (by decide +kernel)).next_main (by decide +kernel)).next_main (by decide +kernel)
  exact ⟨sample_ready _, sample_provides _, sample_savesToFile _, _, _, reached.steps, reached.run,
    by decide +kernel, rfl, @sample_found_out _ [5] rfl rfl, by decide +kernel⟩

end AlgorithmDriver.CommandLine.Exchange

import AlgorithmDriver.Proofs.CommandLine.Exchange

/-!
# Turns of the parties

What each party does when it is its turn.

* `Exchange.Plan` says which handles and channels the parties have at each stage, and every step keeps
  it (`Plan.moves`).
* `Exchange.Turn` has a case for each thing that the main party can do next, and `Exchange.Feeding` for
  each thing that the feeder can do (`Plan.turn`, `feederStep_feeding`).  The main party ends the run
  for one of the reasons in `Exchange.Halts`.
* `Exchange.Touch` is what a turn of the main party does to the streams.
-/

namespace AlgorithmDriver.CommandLine.Exchange

variable {c : Connection} {e e' : Exchange}

/-! ## Handles and channels -/

/-- The input file is open, if there is one. -/
inductive Fetches (options : RunOptions) (table : Table .readFile (Channel ReadHandle))
    (feeder : Option Feeder) (input : Option ReadFileId) : Prop
  | nothing (unnamed : options.input = none) (missing : input = none) (idle : feeder = none)
  | file {id : ReadFileId} {channel : Channel ReadHandle} (named : options.input ≠ none)
      (issued : input = some id) (began : feeder ≠ none) (found : table.get? id = some channel)

/-- What is collected goes to `w`, which belongs to the output file if there is one. -/
inductive Targets (c : Connection) (options : RunOptions)
    (table : Table .writeFile (Channel WriteHandle)) (console : WriteHandle)
    (output : Option WriteFileId) (w : WriteHandle) : Prop
  | console (unnamed : options.output = none) (missing : output = none) (sink : w = console)
  | file {id : WriteFileId} {channel : Channel WriteHandle} (named : options.output ≠ none)
      (issued : output = some id) (found : table.get? id = some channel) (sink : channel.pipe = w)
      (own : c.toAlgorithm.number < w.number)

/-- The feeder has nothing to do any more. -/
inductive Rests (options : RunOptions) (feeder : Option Feeder) : Prop
  | nothing (unnamed : options.input = none) (idle : feeder = none)
  | done {result : Except StreamError Unit} (done : feeder = some (.done result))

/-- What the main party has to do with at each stage. -/
def Has (c : Connection) (e : Exchange) : Stage → Prop
  | .start => False
  | .openInput s w => s = { id := c.id, fromAlgorithm := c.fromAlgorithm } ∧ w = c.toAlgorithm ∧
      e.feeder = none ∧ e.driver.readFiles = .empty ∧ e.driver.writeFiles = .empty
  | .openOutput s => s.id = c.id ∧ s.fromAlgorithm = c.fromAlgorithm ∧ s.output = none ∧
      e.driver.writeFiles = .empty ∧ Fetches e.options e.driver.readFiles e.feeder s.input
  | .collect s t => s.id = c.id ∧ t.source = c.fromAlgorithm ∧
      Targets c e.options e.driver.writeFiles e.console s.output t.sink ∧
      Fetches e.options e.driver.readFiles e.feeder s.input
  | .closeOutput s => s.id = c.id ∧
      (∃ w, Targets c e.options e.driver.writeFiles e.console s.output w) ∧
      Fetches e.options e.driver.readFiles e.feeder s.input
  | .awaitFeeder s => s.id = c.id ∧ Fetches e.options e.driver.readFiles e.feeder s.input
  | .awaitAlgorithm s => s.id = c.id ∧ Rests e.options e.feeder
  | .over (.ok _) => Rests e.options e.feeder
  | .over (.error _) => True

/-- The handles and channels of the parties. -/
structure Plan (c : Connection) (e : Exchange) : Prop where
  console : e.console.number < c.toAlgorithm.number
  writer : c.toAlgorithm.number < e.world.sinks.length
  reader : c.fromAlgorithm.number < e.world.sources.length
  has : e.Has c e.stage
  feeder : ∀ t, e.feeder = some (.copying t) →
    t.sink = c.toAlgorithm ∧ c.fromAlgorithm.number < t.source.number

/-! ## Turns of the main party -/

/-- Something goes wrong that makes the run fail. -/
inductive Fails (e : Exchange) : RunError → Prop
  /-- The input file cannot be opened. -/
  | input {s : Streams} {w : WriteHandle} {path : String} {error : DriverError}
      (stage : e.stage = .openInput s w) (named : e.options.input = some path)
      (refused : Driver.acquireRead path e.world = .error error) : Fails e (.driver error)
  /-- The output file cannot be opened. -/
  | output {s : Streams} {path : String} {error : DriverError}
      (stage : e.stage = .openOutput s) (named : e.options.output = some path)
      (refused : Driver.acquireWrite path e.world = .error error) : Fails e (.driver error)
  /-- What was collected cannot be written. -/
  | copy {s : Streams} {t : Transfer} {error : StreamError} {world : World}
      (stage : e.stage = .collect s t) (busy : t.pending ≠ [])
      (refused : e.world.write t.sink t.pending = some (.error error, world)) :
      Fails e (.stream error)
  /-- What is left of it cannot be flushed. -/
  | flush {s : Streams} {id : WriteFileId} {channel : Channel WriteHandle} {error : StreamError}
      (stage : e.stage = .closeOutput s) (output : s.output = some id)
      (found : e.driver.writeFiles.get? id = some channel)
      (refused : (e.world.closeSink channel.pipe).1 = .error error) :
      Fails e (.driver (.io (id.text ++ " (" ++ Text.quoted channel.path ++ ")") error))

/-- The main party ends the run with a result, which leaves `m` to clean up. -/
inductive Halts (e : Exchange) : Except RunError Nat → Exchange → Prop
  | unopened {error : RunError} (fails : Fails e error)
      (early : (∃ s w, e.stage = .openInput s w) ∨ ∃ s, e.stage = .openOutput s) :
      Halts e (.error error) e
  | uncopied {s : Streams} {t : Transfer} {error : StreamError} {world : World}
      (stage : e.stage = .collect s t)
      (ended : t.step e.world = some (.ended (.error error), world)) :
      Halts e (.error (.stream error)) { e with world }
  | unflushed {s : Streams} {id : WriteFileId} {error : RunError} (fails : Fails e error)
      (stage : e.stage = .closeOutput s) :
      Halts e (.error error)
        { e with
          driver := (e.driver.closeWrite id e.world).2.1
          world := (e.driver.closeWrite id e.world).2.2 }
  | exited {s : Streams} {i : Instance} {code : Nat} (stage : e.stage = .awaitAlgorithm s)
      (found : e.driver.algorithms.get? s.id = some i)
      (status : (i.poll e.world).1.status = .exited code) :
      Halts e (.ok code)
        { e with
          driver := e.driver.note s.id (i.poll e.world).1
          world := (i.poll e.world).2 }

/-- What the main party does next. -/
inductive Turn (e : Exchange) : Exchange → Prop
  | noInput {s : Streams} {w : WriteHandle} (stage : e.stage = .openInput s w)
      (unnamed : e.options.input = none) :
      Turn e { e with world := (e.world.closeSink w).2.dropSink w, stage := .openOutput s }
  | input {s : Streams} {w : WriteHandle} {path : String} {channel : Channel ReadHandle}
      {world : World} (stage : e.stage = .openInput s w) (named : e.options.input = some path)
      (opened : Driver.acquireRead path e.world = .ok (channel, world)) :
      Turn e
        { e with
          driver := (e.driver.registerRead channel world).2.1
          world := (e.driver.registerRead channel world).2.2.holdSource channel.pipe
          stage := .openOutput { s with input := some (e.driver.readFiles.insert channel).1 }
          feeder := some (.copying { source := channel.pipe, sink := w }) }
  | noOutput {s : Streams} (stage : e.stage = .openOutput s) (unnamed : e.options.output = none) :
      Turn e
        { e with
          stage := .collect s { source := s.fromAlgorithm, sink := e.console }
          world := e.world.holdSink e.console }
  | output {s : Streams} {path : String} {channel : Channel WriteHandle} {world : World}
      (stage : e.stage = .openOutput s) (named : e.options.output = some path)
      (opened : Driver.acquireWrite path e.world = .ok (channel, world)) :
      Turn e
        { e with
          driver := (e.driver.registerWrite channel world).2.1
          world := (e.driver.registerWrite channel world).2.2.holdSink channel.pipe
          stage := .collect { s with output := some (e.driver.writeFiles.insert channel).1 }
            { source := s.fromAlgorithm, sink := channel.pipe } }
  | piece {s : Streams} {t t' : Transfer} {world : World} (stage : e.stage = .collect s t)
      (goes : t.Goes e.world (.onward t') world) :
      Turn e { e with world, stage := .collect s t' }
  | collected {s : Streams} {t : Transfer} {world : World} (stage : e.stage = .collect s t)
      (goes : t.Goes e.world (.ended (.ok ())) world) :
      Turn e { e with world := world.dropSink t.sink, stage := .closeOutput s }
  | noFile {s : Streams} (stage : e.stage = .closeOutput s) (output : s.output = none) :
      Turn e { e with stage := .awaitFeeder s }
  | flushed {s : Streams} {id : WriteFileId} {channel : Channel WriteHandle}
      (stage : e.stage = .closeOutput s) (output : s.output = some id)
      (found : e.driver.writeFiles.get? id = some channel) :
      Turn e
        { e with
          driver := (e.driver.closeWrite id e.world).2.1
          world := (e.driver.closeWrite id e.world).2.2, stage := .awaitFeeder s }
  | noFeeder {s : Streams} (stage : e.stage = .awaitFeeder s) (unnamed : e.options.input = none)
      (feeder : e.feeder = none) :
      Turn e { e with stage := .awaitAlgorithm s }
  | joined {s : Streams} {id : ReadFileId} {result : Except StreamError Unit} {world : World}
      (stage : e.stage = .awaitFeeder s) (feeder : e.feeder = some (.done result))
      (noted : world = e.world ∨ ∃ entry, world = e.world.record entry) :
      Turn e
        { e with
          driver := (e.driver.closeRead id world).2.1
          world := (e.driver.closeRead id world).2.2, stage := .awaitAlgorithm s }
  | halts {m : Exchange} {result : Except RunError Nat} (halts : Halts e result m) :
      Turn e (m.finish result)

section Opening

variable {s : Streams} {w : WriteHandle} {path : String} {error : DriverError}

theorem openInput_of_refused (named : e.options.input = some path)
    (refused : Driver.acquireRead path e.world = .error error) :
    e.openInput s w = e.finish (.error (.driver error)) := by
  have failed : e.driver.openRead path e.world = (.error error, e.driver, e.world) := by
    rw [Driver.openRead, refused]
  unfold openInput
  rw [named]
  dsimp only
  rw [failed]

theorem openInput_of_acquired {channel : Channel ReadHandle} {world : World}
    (named : e.options.input = some path) (new : e.driver.readFiles = .empty)
    (opened : Driver.acquireRead path e.world = .ok (channel, world)) :
    e.openInput s w =
      { e with
        driver := (e.driver.registerRead channel world).2.1
        world := (e.driver.registerRead channel world).2.2.holdSource channel.pipe
        stage := .openOutput { s with input := some (e.driver.readFiles.insert channel).1 }
        feeder := some (.copying { source := channel.pipe, sink := w }) } := by
  have found : (e.driver.registerRead channel world).2.1.readFiles.get?
      (e.driver.registerRead channel world).1 = some channel :=
    Table.Issued.get?_inserted (new ▸ .empty) channel
  unfold openInput
  rw [named]
  dsimp only
  rw [Driver.openRead_of_acquire opened]
  dsimp only
  rw [Driver.readPipe, found]
  rfl

theorem openOutput_of_refused (named : e.options.output = some path)
    (refused : Driver.acquireWrite path e.world = .error error) :
    e.openOutput s = e.finish (.error (.driver error)) := by
  have failed : e.driver.openWrite path e.world = (.error error, e.driver, e.world) := by
    rw [Driver.openWrite, refused]
  unfold openOutput
  rw [named]
  dsimp only
  rw [failed]

theorem openOutput_of_acquired {channel : Channel WriteHandle} {world : World}
    (named : e.options.output = some path) (new : e.driver.writeFiles = .empty)
    (opened : Driver.acquireWrite path e.world = .ok (channel, world)) :
    e.openOutput s =
      { e with
        driver := (e.driver.registerWrite channel world).2.1
        world := (e.driver.registerWrite channel world).2.2.holdSink channel.pipe
        stage := .collect { s with output := some (e.driver.writeFiles.insert channel).1 }
          { source := s.fromAlgorithm, sink := channel.pipe } } := by
  have found : (e.driver.registerWrite channel world).2.1.writeFiles.get?
      (e.driver.registerWrite channel world).1 = some channel :=
    Table.Issued.get?_inserted (new ▸ .empty) channel
  unfold openOutput
  rw [named]
  dsimp only
  rw [Driver.openWrite_of_acquire opened]
  dsimp only
  rw [Driver.writePipe, found]
  rfl

theorem openInput_turn (stage : e.stage = .openInput s w) (new : e.driver.readFiles = .empty) :
    Turn e (e.openInput s w) := by
  cases named : e.options.input with
  | none =>
    unfold openInput
    rw [named]
    exact .noInput stage named
  | some path =>
    cases opened : Driver.acquireRead path e.world with
    | error error =>
      rw [openInput_of_refused named opened]
      exact .halts (.unopened (.input stage named opened) (.inl ⟨s, w, stage⟩))
    | ok made =>
      rw [openInput_of_acquired named new opened]
      exact .input stage named opened

theorem openOutput_turn (stage : e.stage = .openOutput s) (new : e.driver.writeFiles = .empty) :
    Turn e (e.openOutput s) := by
  cases named : e.options.output with
  | none =>
    unfold openOutput
    rw [named]
    exact .noOutput stage named
  | some path =>
    cases opened : Driver.acquireWrite path e.world with
    | error error =>
      rw [openOutput_of_refused named opened]
      exact .halts (.unopened (.output stage named opened) (.inr ⟨s, stage⟩))
    | ok made =>
      rw [openOutput_of_acquired named new opened]
      exact .output stage named opened

end Opening

theorem collect_turn {s : Streams} {t : Transfer} (stage : e.stage = .collect s t)
    (step : e.collect s t = some e') : Turn e e' := by
  obtain ⟨⟨progress, world⟩, done, gives⟩ := Option.map_eq_some_iff.1 step
  have goes := Transfer.step_goes done
  cases progress with
  | onward t' =>
    cases gives
    exact .piece stage goes
  | ended result =>
    cases result with
    | ok value =>
      cases gives
      exact .collected stage goes
    | error error =>
      cases gives
      exact .halts (.uncopied stage done)

/-- Closing a channel to write to fails when it cannot be flushed. -/
theorem closeWrite_fst {driver : Driver} {id : WriteFileId} {channel : Channel WriteHandle}
    (found : driver.writeFiles.get? id = some channel) (world : World) :
    (driver.closeWrite id world).1 = (world.closeSink channel.pipe).1.mapError
      (DriverError.io (id.text ++ " (" ++ Text.quoted channel.path ++ ")")) := by
  unfold Driver.closeWrite
  rw [found]
  dsimp only
  cases closed : (world.closeSink channel.pipe).1 <;> rfl

theorem closeOutput_turn {s : Streams} {w : WriteHandle} (stage : e.stage = .closeOutput s)
    (targets : Targets c e.options e.driver.writeFiles e.console s.output w) :
    Turn e (e.closeOutput s) := by
  unfold closeOutput
  cases targets with
  | console _ missing _ =>
    rw [missing]
    exact .noFile stage missing
  | @file id channel _ issued found _ _ =>
    have turn := Turn.flushed stage issued found
    have halts (error : RunError) (fails : Fails e error) :=
      Turn.halts (@Halts.unflushed e s id error fails stage)
    have result := closeWrite_fst found e.world
    rw [issued]
    dsimp only
    cases closed : e.driver.closeWrite id e.world with
    | mk r after =>
      rw [closed] at turn halts result
      cases flushed : (e.world.closeSink channel.pipe).1 with
      | error reason =>
        rw [flushed] at result
        obtain rfl : r = .error _ := result
        exact halts _ (.flush stage issued found flushed)
      | ok value =>
        rw [flushed] at result
        obtain rfl : r = .ok () := result
        exact turn

theorem awaitFeeder_turn {s : Streams} (stage : e.stage = .awaitFeeder s)
    (fetches : Fetches e.options e.driver.readFiles e.feeder s.input)
    (step : e.awaitFeeder s = some e') : Turn e e' := by
  unfold awaitFeeder at step
  cases fetches with
  | nothing unnamed missing idle =>
    have turn := Turn.noFeeder stage unnamed idle
    rw [idle] at turn
    rw [idle, missing] at step
    obtain rfl := Option.some.inj step
    exact turn
  | @file id channel _ issued began found =>
    rw [issued] at step
    cases feeder : e.feeder with
    | none => exact absurd feeder began
    | some f =>
      rw [feeder] at step
      cases f with
      | copying t => cases step
      | done result =>
        dsimp only at step
        have closed (world : World) : (e.driver.closeRead id world).1 = .ok () := by
          unfold Driver.closeRead
          rw [found]
        cases result with
        | ok value =>
          have turn := @Turn.joined e s id _ _ stage feeder (.inl rfl)
          have fine := closed e.world
          cases done : e.driver.closeRead id e.world with
          | mk r after =>
            rw [done, feeder] at turn
            rw [done] at fine step
            cases fine
            obtain rfl := Option.some.inj step
            exact turn
        | error error =>
          have turn := @Turn.joined e s id _ _ stage feeder
            (.inr ⟨.inputNotConsumed s.id error, rfl⟩)
          have fine := closed (e.world.record (.inputNotConsumed s.id error))
          cases done : e.driver.closeRead id (e.world.record (.inputNotConsumed s.id error)) with
          | mk r after =>
            rw [done, feeder] at turn
            rw [done] at fine step
            cases fine
            obtain rfl := Option.some.inj step
            exact turn

/-- A look at a running instance finds it running or to have exited. -/
theorem poll_status_of_running {i : Instance} (running : i.status = .running) (world : World) :
    (i.poll world).1.status = .running ∨ ∃ code, (i.poll world).1.status = .exited code := by
  rcases i.poll_spec world with same | ⟨status, _, _, ⟨stopped, _⟩ | ⟨_, looked⟩⟩
  · rw [same]
    exact .inl running
  · exact absurd running stopped
  · rw [looked]
    exact .inr ⟨status.code, rfl⟩

theorem awaitAlgorithm_turn {s : Streams} {i : Instance} (stage : e.stage = .awaitAlgorithm s)
    (found : e.driver.algorithms.get? s.id = some i) (running : i.status = .running)
    (step : e.awaitAlgorithm s = some e') : Turn e e' := by
  unfold awaitAlgorithm at step
  rw [Driver.status_of_some found] at step
  rcases poll_status_of_running running e.world with still | ⟨code, exited⟩
  · rw [still] at step
    cases step
  · rw [exited] at step
    obtain rfl := Option.some.inj step
    exact .halts (.exited stage found exited)

theorem Plan.turn {i : Instance} (plan : Plan c e) (found : e.driver.algorithms.get? c.id = some i)
    (running : i.status = .running) (step : e.mainStep = some e') : Turn e e' := by
  have has := plan.has
  unfold mainStep at step
  cases stage : e.stage with
  | start =>
    rw [stage] at has
    exact has.elim
  | openInput s w =>
    rw [stage] at has step
    obtain rfl := Option.some.inj step
    exact openInput_turn stage has.2.2.2.1
  | openOutput s =>
    rw [stage] at has step
    obtain rfl := Option.some.inj step
    exact openOutput_turn stage has.2.2.2.1
  | collect s t =>
    rw [stage] at step
    exact collect_turn stage step
  | closeOutput s =>
    rw [stage] at has step
    obtain ⟨_, ⟨w, targets⟩, _⟩ := has
    obtain rfl := Option.some.inj step
    exact closeOutput_turn stage targets
  | awaitFeeder s =>
    rw [stage] at has step
    exact awaitFeeder_turn stage has.2 step
  | awaitAlgorithm s =>
    rw [stage] at has step
    exact awaitAlgorithm_turn stage (has.1 ▸ found) running step
  | «over» result =>
    rw [stage] at step
    cases step

/-! ## Turns of the feeder -/

/-- What the feeder does next. -/
inductive Feeding (e : Exchange) : Exchange → Prop
  | onward {t t' : Transfer} {world : World} (feeder : e.feeder = some (.copying t))
      (goes : t.Goes e.world (.onward t') world) :
      Feeding e { e with world, feeder := some (.copying t') }
  | done {t : Transfer} {result : Except StreamError Unit} {world : World}
      (feeder : e.feeder = some (.copying t)) (goes : t.Goes e.world (.ended result) world) :
      Feeding e
        { e with
          world := ((world.closeSink t.sink).2.dropSink t.sink).dropSource t.source
          feeder := some (.done result) }

theorem feederStep_feeding (step : e.feederStep = some e') : Feeding e e' := by
  unfold feederStep at step
  split at step
  · rename_i t feeder
    obtain ⟨⟨progress, world⟩, done, gives⟩ := Option.map_eq_some_iff.1 step
    cases progress with
    | onward t' =>
      cases gives
      exact .onward feeder (Transfer.step_goes done)
    | ended result =>
      cases gives
      exact .done feeder (Transfer.step_goes done)
  · cases step

/-! ## What turns do to streams -/

/-- A turn of the main party opens a file, reads what the algorithm wrote, writes elsewhere than to the
algorithm, and manages handles. -/
inductive Touch (c : Connection) (e : Exchange) : World → Prop
  | manages {after : World} (manages : e.world.Manages after) : Touch c e after
  | opensRead {path : String} {node : Nat} {source : Source} {opened after : World}
      (named : e.options.input = some path) (opens : World.OpensRead path node source e.world opened)
      (manages : opened.Manages after) : Touch c e after
  | opensWrite {s : Streams} {path : String} {node : Nat} {sink : Sink} {opened after : World}
      (stage : e.stage = .openOutput s) (named : e.options.output = some path)
      (opens : World.OpensWrite path node sink e.world opened) (manages : opened.Manages after) :
      Touch c e after
  | copies {w : WriteHandle} {between after : World} (apart : w ≠ c.toAlgorithm)
      (copies : e.world.Copies c.fromAlgorithm w between) (manages : between.Manages after) :
      Touch c e after

theorem dropOutput_manages (stage : Stage) (world : World) :
    world.Manages (dropOutput stage world) := by
  unfold dropOutput
  split
  · exact (World.dropSource_quiet _ _).manages.trans (World.dropSink_manages _ _)
  · exact (World.dropSource_quiet _ _).manages
  · exact (World.dropSource_quiet _ _).manages.trans (World.dropSink_manages _ _)
  · exact (World.dropSource_quiet _ _).manages
  · exact (World.dropSource_quiet _ _).manages
  · exact (World.dropSource_quiet _ _).manages
  · exact .refl

theorem finish_manages (m : Exchange) (result : Except RunError Nat) :
    m.world.Manages (m.finish result).world :=
  (dropOutput_manages m.stage m.world).trans (Driver.closeAll_manages _ _)

/-- What is collected does not go to the algorithm. -/
theorem Targets.apart {s : Streams} {w : WriteHandle}
    (targets : Targets c e.options e.driver.writeFiles e.console s.output w)
    (console : e.console.number < c.toAlgorithm.number) : w ≠ c.toAlgorithm := by
  rintro rfl
  cases targets with
  | console _ _ sink => exact Nat.lt_irrefl _ (sink ▸ console)
  | file _ _ _ _ own => exact Nat.lt_irrefl _ own

/-- A step of the copy that the main party makes. -/
theorem Plan.copies {s : Streams} {t : Transfer} {progress : Progress} {between : World}
    (plan : Plan c e) (stage : e.stage = .collect s t) (goes : t.Goes e.world progress between) :
    t.sink ≠ c.toAlgorithm ∧ e.world.Copies c.fromAlgorithm t.sink between := by
  have has := plan.has
  rw [stage] at has
  exact ⟨has.2.2.1.apart plan.console, has.2.1 ▸ goes.copies⟩

theorem Turn.touch (turn : Turn e e') (plan : Plan c e) : Touch c e e'.world := by
  cases turn with
  | noInput => exact .manages (World.releaseSink_manages _ _)
  | input stage named opened =>
    obtain ⟨_, node, source, opens⟩ := Driver.acquireRead_opens opened
    exact .opensRead named opens
      ((World.record_quiet _ _).manages.trans (World.holdSource_quiet _ _).manages)
  | noOutput => exact .manages (World.holdSink_quiet _ _).manages
  | output stage named opened =>
    obtain ⟨_, node, sink, opens⟩ := Driver.acquireWrite_opens opened
    exact .opensWrite stage named opens
      ((World.record_quiet _ _).manages.trans (World.holdSink_quiet _ _).manages)
  | piece stage goes =>
    obtain ⟨apart, copies⟩ := plan.copies stage goes
    exact .copies apart copies .refl
  | collected stage goes =>
    obtain ⟨apart, copies⟩ := plan.copies stage goes
    exact .copies apart copies (World.dropSink_manages _ _)
  | noFile => exact .manages .refl
  | flushed => exact .manages (Driver.closeWrite_manages _ _ _)
  | noFeeder => exact .manages .refl
  | joined stage feeder noted =>
    rcases noted with rfl | ⟨entry, rfl⟩
    · exact .manages (Driver.closeRead_manages _ _ _)
    · exact .manages ((World.record_quiet _ _).manages.trans (Driver.closeRead_manages _ _ _))
  | halts halts =>
    cases halts with
    | unopened => exact .manages (finish_manages _ _)
    | uncopied stage ended =>
      obtain ⟨apart, copies⟩ := plan.copies stage (Transfer.step_goes ended)
      exact .copies apart copies (finish_manages { e with world := _ } _)
    | unflushed =>
      exact .manages ((Driver.closeWrite_manages _ _ _).trans
        (finish_manages { e with driver := _, world := _ } _))
    | exited =>
      exact .manages ((Instance.poll_manages _ _).trans
        (finish_manages { e with driver := _, world := _ } _))

/-- A turn of the feeder is a step of its copy, and it closes its streams in the end. -/
theorem Feeding.touch (feeding : Feeding e e') : ∃ t between, e.feeder = some (.copying t) ∧
    e.world.Copies t.source t.sink between ∧ between.Manages e'.world := by
  cases feeding with
  | onward feeder goes => exact ⟨_, _, feeder, goes.copies, .refl⟩
  | done feeder goes => exact ⟨_, _, feeder, goes.copies, Transfer.release_manages _ _⟩

/-! ## The plan is kept -/

theorem Touch.counts {after : World} (touch : Touch c e after) :
    e.world.sources.length ≤ after.sources.length ∧ e.world.sinks.length ≤ after.sinks.length := by
  cases touch with
  | manages manages => exact ⟨Nat.le_of_eq manages.counts.1.symm, Nat.le_of_eq manages.counts.2.symm⟩
  | opensRead _ opens manages =>
    rw [manages.counts.1, manages.counts.2, opens.sources, opens.sinks, List.length_append]
    exact ⟨Nat.le_add_right _ _, Nat.le_refl _⟩
  | opensWrite _ _ opens manages =>
    rw [manages.counts.1, manages.counts.2, opens.sources, opens.sinks, List.length_append]
    exact ⟨Nat.le_refl _, Nat.le_add_right _ _⟩
  | copies _ copies manages =>
    rw [manages.counts.1, manages.counts.2, copies.counts.1, copies.counts.2]
    exact ⟨Nat.le_refl _, Nat.le_refl _⟩

theorem closeWrite_driver (driver : Driver) (id : WriteFileId) (world : World) :
    (driver.closeWrite id world).2.1.readFiles = driver.readFiles ∧
      (driver.closeWrite id world).2.1.algorithms = driver.algorithms := by
  unfold Driver.closeWrite
  split
  · exact ⟨rfl, rfl⟩
  · dsimp only
    split <;> exact ⟨rfl, rfl⟩

/-- The main party has at the new stage what it needs. -/
theorem Plan.has_turn (plan : Plan c e) (turn : Turn e e') : e'.Has c e'.stage := by
  have has := plan.has
  cases turn with
  | noInput stage unnamed =>
    rw [stage] at has
    obtain ⟨rfl, _, idle, _, writeFiles⟩ := has
    exact ⟨rfl, rfl, rfl, writeFiles, .nothing unnamed rfl idle⟩
  | @input _ _ _ channel world stage named opened =>
    rw [stage] at has
    obtain ⟨rfl, _, _, readFiles, writeFiles⟩ := has
    have found : (e.driver.readFiles.insert channel).2.get? (e.driver.readFiles.insert channel).1 =
        some channel := Table.Issued.get?_inserted (readFiles ▸ .empty) channel
    exact ⟨rfl, rfl, rfl, writeFiles,
      .file (named ▸ Option.some_ne_none _) rfl (Option.some_ne_none _) found⟩
  | noOutput stage unnamed =>
    rw [stage] at has
    obtain ⟨id, source, missing, _, fetches⟩ := has
    exact ⟨id, source, .console unnamed missing rfl, fetches⟩
  | @output s path channel world stage named opened =>
    rw [stage] at has
    obtain ⟨id, source, missing, writeFiles, fetches⟩ := has
    have found : (e.driver.writeFiles.insert channel).2.get? (e.driver.writeFiles.insert channel).1 =
        some channel := Table.Issued.get?_inserted (writeFiles ▸ .empty) channel
    obtain ⟨rfl, _⟩ := Driver.acquireWrite_opens opened
    exact ⟨id, source,
      .file (named ▸ Option.some_ne_none _) rfl found rfl plan.writer, fetches⟩
  | piece stage goes =>
    rw [stage] at has
    obtain ⟨id, source, targets, fetches⟩ := has
    exact ⟨id, goes.same.1.trans source, goes.same.2 ▸ targets, fetches⟩
  | collected stage goes =>
    rw [stage] at has
    obtain ⟨id, _, targets, fetches⟩ := has
    exact ⟨id, ⟨_, targets⟩, fetches⟩
  | noFile stage output =>
    rw [stage] at has
    exact ⟨has.1, has.2.2⟩
  | @flushed s id channel stage output found =>
    rw [stage] at has
    exact ⟨has.1, (closeWrite_driver e.driver id e.world).1 ▸ has.2.2⟩
  | noFeeder stage unnamed idle =>
    rw [stage] at has
    exact ⟨has.1, .nothing unnamed idle⟩
  | joined stage feeder _ =>
    rw [stage] at has
    exact ⟨has.1, .done feeder⟩
  | halts halts =>
    cases halts with
    | unopened => trivial
    | uncopied => trivial
    | unflushed => trivial
    | exited stage _ _ =>
      rw [stage] at has
      exact has.2

/-- A turn of the main party goes on with the feeder that there was, or begins a new one. -/
theorem Turn.feeder (turn : Turn e e') (plan : Plan c e) : e'.feeder = e.feeder ∨
    ∃ t, e'.feeder = some (.copying t) ∧ t.sink = c.toAlgorithm ∧
      c.fromAlgorithm.number < t.source.number := by
  cases turn with
  | input stage named opened =>
    have has := plan.has
    rw [stage] at has
    obtain ⟨rfl, _⟩ := Driver.acquireRead_opens opened
    exact .inr ⟨_, rfl, has.2.1, plan.reader⟩
  | halts halts => cases halts <;> exact .inl rfl
  | _ => exact .inl rfl

theorem Turn.console (turn : Turn e e') : e'.console = e.console ∧ e'.options = e.options := by
  cases turn with
  | halts halts => cases halts <;> exact ⟨rfl, rfl⟩
  | _ => exact ⟨rfl, rfl⟩

theorem Plan.ofTurn (plan : Plan c e) (turn : Turn e e') : Plan c e' where
  console := turn.console.1 ▸ plan.console
  writer := Nat.lt_of_lt_of_le plan.writer (turn.touch plan).counts.2
  reader := Nat.lt_of_lt_of_le plan.reader (turn.touch plan).counts.1
  has := plan.has_turn turn
  feeder t copying := by
    rcases turn.feeder plan with same | ⟨t', began, sink, source⟩
    · exact plan.feeder t (same.symm.trans copying)
    · cases began.symm.trans copying
      exact ⟨sink, source⟩

/-- While the feeder is at work, the main party waits for nothing else. -/
theorem Rests.idle {options : RunOptions} {feeder : Option Feeder} (rests : Rests options feeder)
    (t : Transfer) : feeder ≠ some (.copying t) := by
  cases rests with
  | nothing _ idle => exact fun copying => Option.some_ne_none _ (copying.symm.trans idle)
  | done done => exact fun copying => Feeder.noConfusion (Option.some.inj (copying.symm.trans done))

theorem Fetches.goes_on {options : RunOptions} {table : Table .readFile (Channel ReadHandle)}
    {feeder : Option Feeder} {input : Option ReadFileId} (fetches : Fetches options table feeder input)
    (began : feeder ≠ none) (f : Feeder) : Fetches options table (some f) input := by
  cases fetches with
  | nothing _ _ idle => exact absurd idle began
  | file named issued _ found => exact .file named issued (Option.some_ne_none f) found

theorem Plan.ofFeeding (plan : Plan c e) (feeding : Feeding e e') : Plan c e' := by
  obtain ⟨t, between, copying, copies, manages⟩ := feeding.touch
  have counts : e'.world.sources.length = e.world.sources.length ∧
      e'.world.sinks.length = e.world.sinks.length :=
    ⟨manages.counts.1.trans copies.counts.1, manages.counts.2.trans copies.counts.2⟩
  have went : ∃ f, e'.feeder = some f ∧ e'.options = e.options ∧ e'.console = e.console ∧
      e'.driver = e.driver ∧ e'.stage = e.stage ∧
      ∀ t', f = .copying t' → t'.source = t.source ∧ t'.sink = t.sink := by
    cases feeding with
    | onward feeder goes =>
      cases feeder.symm.trans copying
      refine ⟨_, rfl, rfl, rfl, rfl, rfl, fun t' same => ?_⟩
      cases same
      exact goes.same
    | done feeder goes => exact ⟨_, rfl, rfl, rfl, rfl, rfl, fun t' same => by cases same⟩
  obtain ⟨f, now, options, console, driver, stage, same⟩ := went
  have began : e.feeder ≠ none := copying ▸ Option.some_ne_none _
  have has := plan.has
  refine ⟨console ▸ plan.console, counts.2.symm ▸ plan.writer, counts.1.symm ▸ plan.reader, ?_,
    fun t' copying' => ?_⟩
  · rw [stage]
    cases now' : e.stage with
    | start => exact (now' ▸ has : Has c e .start).elim
    | openInput s w =>
      rw [now'] at has
      exact absurd has.2.2.1 began
    | openOutput s =>
      rw [now'] at has
      obtain ⟨id, source, missing, table, fetches⟩ := has
      simp only [Has, options, driver, now]
      exact ⟨id, source, missing, table, fetches.goes_on began f⟩
    | collect s t =>
      rw [now'] at has
      obtain ⟨id, source, targets, fetches⟩ := has
      simp only [Has, options, driver, console, now]
      exact ⟨id, source, targets, fetches.goes_on began f⟩
    | closeOutput s =>
      rw [now'] at has
      obtain ⟨id, targets, fetches⟩ := has
      simp only [Has, options, driver, console, now]
      exact ⟨id, targets, fetches.goes_on began f⟩
    | awaitFeeder s =>
      rw [now'] at has
      obtain ⟨id, fetches⟩ := has
      simp only [Has, options, driver, now]
      exact ⟨id, fetches.goes_on began f⟩
    | awaitAlgorithm s =>
      rw [now'] at has
      exact absurd copying (has.2.idle t)
    | «over» result =>
      cases result with
      | ok code =>
        rw [now'] at has
        exact absurd copying (Rests.idle has t)
      | error error => trivial
  · have apart := plan.feeder t copying
    obtain ⟨source, sink⟩ := same t' (Option.some.inj (now.symm.trans copying'))
    exact ⟨sink.trans apart.1, source ▸ apart.2⟩

theorem Plan.ofOthers {took put : Bytes} {world : World} (plan : Plan c e)
    (others : c.Others took put e.world world) : Plan c { e with world } where
  console := plan.console
  writer := others.sinks ▸ plan.writer
  reader := others.sources ▸ plan.reader
  has := by
    have has := plan.has
    show Has c { e with world } e.stage
    cases stage : e.stage <;> rw [stage] at has <;> exact has
  feeder := plan.feeder

end AlgorithmDriver.CommandLine.Exchange

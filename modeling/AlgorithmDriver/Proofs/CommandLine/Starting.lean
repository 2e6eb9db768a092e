import AlgorithmDriver.Proofs.CommandLine.Collecting
import AlgorithmDriver.Proofs.CommandLine.Ending

/-!
# How a run begins

Starting the algorithm makes two pipes, and the main party gets the ends that the process does not
get.

* `Instance.Adds` says what that does to the streams of the driver (`Instance.start_adds`): the pipes
  are empty, and no other stream is one of theirs.
* `Exchange.Ready` is a run that is about to begin, and `Exchange.connection` names what it gets when
  the algorithm is started.
* `Exchange.Attended` is what holds of a run once the algorithm was started (`Ready.attended`), and
  `Exchange.Underway` what holds besides when others leave the files alone (`Ready.underway`).
-/

namespace AlgorithmDriver

/-! ## New pipes -/

/-- No description is that of a pipe that is yet to be made. -/
def Host.PipesKnown (host : Host) : Prop :=
  ∀ d ∈ host.descriptions, ∀ k, d.object = .readEnd k ∨ d.object = .writeEnd k →
    k < host.pipes.length

theorem Host.PipesKnown.fresh {host : Host} (known : host.PipesKnown) {n k : Nat} {object : Object}
    (new : host.pipes.length ≤ k) (pipe : object = .readEnd k ∨ object = .writeEnd k) :
    ¬ host.Denotes n object := by
  rintro ⟨d, found, rfl⟩
  exact Nat.not_lt.2 new (known d (List.mem_of_getElem? found) k pipe)

namespace Instance

variable {name : String} {command : Command} {policy : ErrorPolicy} {before after : World}
  {i : Instance}

theorem pipedHost_descriptions (host : Host) (program : Program Nat) (errors : Nat) :
    (pipedHost host program errors).descriptions = host.descriptions ++
      [{ object := .readEnd host.pipes.length }, { object := .writeEnd host.pipes.length },
        { object := .readEnd (host.pipes.length + 1) },
        { object := .writeEnd (host.pipes.length + 1) }] := by
  simp [pipedHost, Host.makePipe, Host.describe, Host.start]

theorem pipedHost_pipes (host : Host) (program : Program Nat) (errors : Nat) :
    (pipedHost host program errors).pipes = host.pipes ++ [[], []] := by
  simp [pipedHost, Host.makePipe, Host.describe, Host.start]

theorem openErrors_pipes {errors : Nat} {host : Host}
    (opened : openErrors policy before = .ok (errors, host)) :
    host.pipes = before.host.pipes ∧ host.processes = before.host.processes := by
  cases policy with
  | inherit =>
    cases opened
    unfold Host.hold
    split <;> exact ⟨rfl, rfl⟩
  | discard => exact ⟨(Host.openWrite_adds opened).pipes.1, (Host.openWrite_adds opened).processes⟩

/-- The driver has the write end of the first pipe. -/
theorem pipedHost_inlet (host : Host) (program : Program Nat) (errors : Nat) :
    (pipedHost host program errors).Holds host.makePipe.2.1 (.writeEnd host.pipes.length) := by
  refine ⟨{ object := .writeEnd host.pipes.length }, ?_, rfl, Nat.one_pos⟩
  rw [pipedHost_descriptions,
    show host.makePipe.2.1 = host.descriptions.length + 1 from List.length_append,
    List.getElem?_append_right (Nat.le_add_right _ _), Nat.add_sub_cancel_left]
  rfl

/-- The driver has the read end of the second pipe. -/
theorem pipedHost_outlet (host : Host) (program : Program Nat) (errors : Nat) :
    (pipedHost host program errors).Denotes host.makePipe.2.2.makePipe.1
      (.readEnd (host.pipes.length + 1)) := by
  refine ⟨{ object := .readEnd (host.pipes.length + 1) }, ?_, rfl⟩
  rw [pipedHost_descriptions,
    show host.makePipe.2.2.makePipe.1 = host.descriptions.length + 2 by
      simp [Host.makePipe, Host.describe],
    List.getElem?_append_right (Nat.le_add_right _ _), Nat.add_sub_cancel_left]
  rfl

/-- What starting an instance adds to the streams of the driver. -/
structure Adds (before : World) (sink : Sink) (source : Source) (after : World) : Prop where
  onward : before.Onward after
  made : before.host.descriptions.length ≤ sink.description
  grounded : before.Grounded → after.Grounded
  pipes : after.host.pipes = before.host.pipes ++ [[], []]
  bareSink : sink.capacity = 0 ∧ sink.pending = []
  bareSource : source.capacity = 0 ∧ source.pending = []
  writes : after.host.Holds sink.description (.writeEnd before.host.pipes.length)
  reads : after.host.Denotes source.description (.readEnd (before.host.pipes.length + 1))
  added : after.openSink? ⟨before.sinks.length⟩ = some sink ∧
    after.openSource? ⟨before.sources.length⟩ = some source
  sinks : ∀ w other, after.openSink? w = some other →
    (w = ⟨before.sinks.length⟩ ∧ other = sink) ∨ before.openSink? w = some other
  sources : ∀ r other, after.openSource? r = some other →
    (r = ⟨before.sources.length⟩ ∧ other = source) ∨ before.openSource? r = some other

theorem start_adds (started : start name command policy before = .ok (i, after)) :
    ∃ sink source, Adds before sink source after := by
  obtain ⟨-, errors, host, program, opened, -, rfl, rfl⟩ := start_eq_ok_iff.1 started
  have pipes := (openErrors_pipes opened).1
  have first := (openErrors_onward opened).trans host.makePipe_onward
  have second : host.makePipe.2.2.Onward (pipedHost host program errors) :=
    (Host.makePipe_onward _).trans (Host.start_onward _ _ _ _ _)
  have grown := (openErrors_onward opened).length_le
  have lengths : host.makePipe.2.2.descriptions.length = host.descriptions.length + 2 ∧
      (pipedHost host program errors).descriptions.length = host.descriptions.length + 4 := by
    simp [pipedHost_descriptions, Host.makePipe, Host.describe]
  have ends : host.makePipe.2.1 = host.descriptions.length + 1 ∧
      host.makePipe.2.2.makePipe.1 = host.descriptions.length + 2 := by
    simp [Host.makePipe, Host.describe]
  let sink : Sink := { description := host.makePipe.2.1, capacity := 0 }
  let source : Source := { description := host.makePipe.2.2.makePipe.1, capacity := 0 }
  let between : World :=
    { before with host := host.makePipe.2.2, sinks := before.sinks ++ [{ stream := some sink }] }
  have addsSink : World.AddsSink sink before between := ⟨first, rfl, rfl, by
    show _ ≤ host.makePipe.2.1 ∧ host.makePipe.2.1 < host.makePipe.2.2.descriptions.length
    omega⟩
  let after : World :=
    { between with
      host := pipedHost host program errors
      sources := before.sources ++ [{ stream := some source }] }
  have addsSource : World.AddsSource source between after := ⟨second, rfl, rfl, by
    show host.makePipe.2.2.descriptions.length ≤ host.makePipe.2.2.makePipe.1 ∧
      host.makePipe.2.2.makePipe.1 < (pipedHost host program errors).descriptions.length
    omega⟩
  refine ⟨sink, source,
    { onward := first.trans second
      made := addsSink.made.1
      grounded := fun grounded => addsSource.grounded (addsSink.grounded grounded)
      pipes := pipes ▸ pipedHost_pipes host program errors
      bareSink := ⟨rfl, rfl⟩
      bareSource := ⟨rfl, rfl⟩
      writes := pipes ▸ pipedHost_inlet host program errors
      reads := pipes ▸ pipedHost_outlet host program errors
      added := ⟨(World.openSink?_of_sinks addsSource.sinks _).trans addsSink.self, addsSource.self⟩
      sinks := fun w other isOpen =>
        addsSink.origin ((World.openSink?_of_sinks addsSource.sinks w).symm.trans isOpen)
      sources := fun r other isOpen => (addsSource.origin isOpen).imp_right fun was =>
        (World.openSource?_of_sources addsSink.sources r).symm.trans was }⟩

namespace Adds

variable {sink : Sink} {source : Source}

/-- A stream that was open before has nothing to do with the new pipes. -/
theorem aside (adds : Adds before sink source after) (known : before.host.PipesKnown) {n k : Nat}
    {object : Object} (bound : n < before.host.descriptions.length)
    (new : before.host.pipes.length ≤ k) (pipe : object = .readEnd k ∨ object = .writeEnd k) :
    ¬ after.host.Denotes n object :=
  fun denotes => known.fresh new pipe (denotes.of_onward adds.onward bound)

theorem inlet (adds : Adds before sink source after) (grounded : before.Grounded)
    (known : before.host.PipesKnown) :
    after.Piped before.host.pipes.length (some ⟨before.sinks.length⟩) none [] where
  grounded := adds.grounded grounded
  held := by
    rw [adds.pipes, List.getElem?_append_right (Nat.le_refl _), Nat.sub_self]
    rfl
  sinks w other isOpen := by
    rcases adds.sinks w other isOpen with ⟨rfl, rfl⟩ | was
    · exact ⟨iff_of_true rfl adds.writes.denotes, fun _ => adds.bareSink⟩
    · have old : w.number < before.sinks.length := World.lt_of_openSink? was
      have other : (some ⟨before.sinks.length⟩ : Option WriteHandle) ≠ some w := by
        rintro ⟨⟩
        exact Nat.lt_irrefl _ old
      exact ⟨iff_of_false other (adds.aside known (grounded.sinks w _ was) (Nat.le_refl _) (.inr rfl)),
        fun own => absurd own other⟩
  sources r other isOpen := by
    refine ⟨iff_of_false (Option.some_ne_none r).symm ?_, fun own => nomatch own⟩
    rcases adds.sources r other isOpen with ⟨rfl, rfl⟩ | was
    · exact fun denotes =>
        Nat.ne_of_lt (Nat.lt_succ_self _) (Object.readEnd.inj (denotes.unique adds.reads))
    · exact adds.aside known (grounded.sources r _ was) (Nat.le_refl _) (.inl rfl)

theorem outlet (adds : Adds before sink source after) (grounded : before.Grounded)
    (known : before.host.PipesKnown) :
    after.Piped (before.host.pipes.length + 1) none (some ⟨before.sources.length⟩) [] where
  grounded := adds.grounded grounded
  held := by
    rw [adds.pipes, List.getElem?_append_right (Nat.le_add_right _ _), Nat.add_sub_cancel_left]
    rfl
  sinks w other isOpen := by
    refine ⟨iff_of_false (Option.some_ne_none w).symm ?_, fun own => nomatch own⟩
    rcases adds.sinks w other isOpen with ⟨rfl, rfl⟩ | was
    · exact fun denotes =>
        Nat.succ_ne_self _ (Object.writeEnd.inj (denotes.unique adds.writes.denotes))
    · exact adds.aside known (grounded.sinks w _ was) (Nat.le_succ _) (.inr rfl)
  sources r other isOpen := by
    rcases adds.sources r other isOpen with ⟨rfl, rfl⟩ | was
    · exact ⟨iff_of_true rfl adds.reads, fun _ => adds.bareSource⟩
    · have old : r.number < before.sources.length := World.lt_of_openSource? was
      have other : (some ⟨before.sources.length⟩ : Option ReadHandle) ≠ some r := by
        rintro ⟨⟩
        exact Nat.lt_irrefl _ old
      exact ⟨iff_of_false other
        (adds.aside known (grounded.sources r _ was) (Nat.le_succ _) (.inl rfl)),
        fun own => absurd own other⟩

theorem supplies (adds : Adds before sink source after) (grounded : before.Grounded) :
    after.Supplies ⟨before.sinks.length⟩ sink.description before.host.pipes.length where
  isOpen := by
    obtain ⟨description, capacity, pending⟩ := sink
    obtain ⟨rfl, rfl⟩ := adds.bareSink
    exact adds.added.1
  own := by
    have new := adds.made
    refine ⟨fun w other isOpen here => ?_, fun r other isOpen here => ?_⟩
    · rcases adds.sinks w other isOpen with ⟨rfl, _⟩ | was
      · rfl
      · exact absurd (here ▸ grounded.sinks w other was) (Nat.not_lt.2 new)
    · rcases adds.sources r other isOpen with ⟨_, rfl⟩ | was
      · have reads := here ▸ adds.reads
        cases reads.unique adds.writes.denotes
      · exact absurd (here ▸ grounded.sources r other was) (Nat.not_lt.2 new)
  holds := adds.writes

end Adds

end Instance

/-! ## Runs -/

namespace CommandLine.Exchange

variable {e : Exchange} {i : Instance} {world : World} {content : Bytes} {regular : Prop}

/-- A run that is about to begin. -/
structure Ready (e : Exchange) : Prop where
  stage : e.stage = .start
  feeder : e.feeder = none
  driver : e.driver = { config := e.driver.config }
  console : e.console.number < e.world.sinks.length
  grounded : e.world.Grounded
  idle : e.world.Idle
  pipes : e.world.host.PipesKnown

/-- What the algorithm gets to be connected by when it is started. -/
def connection (e : Exchange) : Connection where
  id := ⟨1⟩
  process := e.world.host.processes.length
  toAlgorithm := ⟨e.world.sinks.length⟩
  fromAlgorithm := ⟨e.world.sources.length⟩
  inlet := e.world.host.pipes.length
  outlet := e.world.host.pipes.length + 1

/-- An algorithm that cannot be started makes the run fail, and there is nothing to clean up. -/
theorem Ready.refused {error : DriverError} (ready : e.Ready)
    (refused : e.driver.spawn e.options.name e.world = .error error) :
    e.start = { e with stage := .over (.error (.driver error)) } := by
  have failed : e.driver.start e.options.name e.world = (.error error, e.driver, e.world) := by
    rw [Driver.start, refused]
  have nothing : e.driver.closeAll e.world = (e.driver, e.world) := by
    rw [ready.driver]
    rfl
  unfold start finish
  rw [failed]
  dsimp only
  rw [ready.stage]
  dsimp only [dropOutput]
  rw [nothing]

/-- The main party goes on with the ends of the pipes that the process does not get. -/
theorem Ready.start_eq (ready : e.Ready)
    (spawned : e.driver.spawn e.options.name e.world = .ok (i, world)) :
    e.start = { e with
      driver := { e.driver with
        algorithms := { next := 2
                        entries := [(1, { i with input := .lent e.connection.toAlgorithm })] } }
      world := (world.record (.started e.options.name ⟨1⟩)).holdSource e.connection.fromAlgorithm
      stage := .openInput { id := ⟨1⟩, fromAlgorithm := e.connection.fromAlgorithm }
        e.connection.toAlgorithm } := by
  obtain ⟨command, started⟩ := Driver.spawn_start spawned
  obtain ⟨-, errors, host, program, _, -, rfl, rfl⟩ := Instance.start_eq_ok_iff.1 started
  obtain ⟨options, ⟨config, algorithms, readFiles, writeFiles⟩, before, console, stage, feeder⟩ := e
  obtain ⟨_, rfl, rfl, rfl⟩ := Driver.mk.inj ready.driver
  unfold start
  rw [Driver.start_of_spawn spawned]
  rfl

/-- What holds of a run from the start of the algorithm on, whatever happens to the files. -/
structure Attended (c : Connection) (regular : Prop) (produced : Bytes) (e : Exchange) : Prop where
  plan : Plan c e
  fed : ∃ held, e.world.Piped c.inlet (some c.toAlgorithm) none held
  supplied : Supplied c e
  outlet : Outlet c regular produced e
  concluded : Concluded c e

/-- What holds besides, as long as others leave the files alone. -/
structure Underway (c : Connection) (content : Bytes) (regular : Prop) (events : List Event)
    (e : Exchange) : Prop extends Attended c regular (produced events) e where
  nothing : e.options.input = none → content = []
  files : ((∃ s w, e.stage = .openInput s w) ∨ ∃ s, e.stage = .openOutput s) →
    Files content regular e
  inlet : Inlet c content (received events) e

/-- The driver has a single instance, which was just started. -/
theorem Ready.concluded (ready : e.Ready)
    (spawned : e.driver.spawn e.options.name e.world = .ok (i, world)) :
    Concluded e.connection e.start := by
  have eq := ready.start_eq spawned
  generalize LogEntry.started e.options.name ⟨1⟩ = entry at eq
  obtain ⟨command, started⟩ := Driver.spawn_start spawned
  have accounted := Instance.Accounted.of_start started []
  have process : i.process = e.world.host.processes.length := by
    obtain ⟨-, errors, host, program, opened, -, rfl, _⟩ := Instance.start_eq_ok_iff.1 started
    exact congrArg List.length (Instance.openErrors_pipes opened).2
  have running : i.status = .running := by
    obtain ⟨-, errors, host, program, _, -, rfl, _⟩ := Instance.start_eq_ok_iff.1 started
    rfl
  have ahead : world.Ahead ((world.record entry).holdSource e.connection.fromAlgorithm) :=
    ⟨.of_processes (World.holdSource_processes _ _),
      ((World.record_quiet world entry).manages.trans
        (World.holdSource_quiet _ _).manages).spares.onward⟩
  have known := accounted.ahead ahead
  rw [eq]
  refine ⟨fun _ => ⟨{ i with input := .lent e.connection.toAlgorithm }, rfl, process, running,
    ⟨⟨known.running, known.exited, known.known⟩, known.started, known.noticed, known.doomed,
      known.waited⟩⟩, fun ended => absurd rfl ended, fun code ended => ?_⟩
  cases ended

/-- The main party has both ends of the pipes, and the files are yet to be opened. -/
theorem Ready.plan (ready : e.Ready)
    (spawned : e.driver.spawn e.options.name e.world = .ok (i, world)) :
    Plan e.connection e.start := by
  have eq := ready.start_eq spawned
  obtain ⟨command, started⟩ := Driver.spawn_start spawned
  obtain ⟨sink, source, adds⟩ := Instance.start_adds started
  have counts := (World.holdSource_quiet (world.record (.started e.options.name ⟨1⟩))
    e.connection.fromAlgorithm).manages.counts
  rw [eq]
  exact
    { console := ready.console
      writer := Nat.lt_of_lt_of_eq (World.lt_of_openSink? adds.added.1) counts.2.symm
      reader := Nat.lt_of_lt_of_eq (World.lt_of_openSource? adds.added.2) counts.1.symm
      has := ⟨rfl, rfl, ready.feeder, by rw [ready.driver], by rw [ready.driver]⟩
      feeder := fun t copying => nomatch ready.feeder.symm.trans copying }

/-- Once the algorithm was started, the pipes are empty and the files are as they were. -/
theorem Ready.attended (ready : e.Ready)
    (spawned : e.driver.spawn e.options.name e.world = .ok (i, world)) (regular : Prop) :
    Attended e.connection regular [] e.start ∧
      (∀ content, Inlet e.connection content [] e.start) ∧
      e.start.world.Grounded ∧ e.start.world.Idle := by
  have plan := ready.plan spawned
  have concluded := ready.concluded spawned
  have eq := ready.start_eq spawned
  generalize LogEntry.started e.options.name ⟨1⟩ = entry at eq
  obtain ⟨command, started⟩ := Driver.spawn_start spawned
  obtain ⟨sink, source, adds⟩ := Instance.start_adds started
  have managed : world.Manages ((world.record entry).holdSource e.connection.fromAlgorithm) :=
    (World.record_quiet world entry).manages.trans (World.holdSource_quiet _ _).manages
  have inlet := (adds.inlet ready.grounded ready.pipes).manages managed
  have outlet := (adds.outlet ready.grounded ready.pipes).manages managed
  have supplies := ((adds.supplies ready.grounded).record entry).holdSource
    e.connection.fromAlgorithm
  have isOpen : ((world.record entry).holdSource e.connection.fromAlgorithm).openSource?
      e.connection.fromAlgorithm = some source := by
    rw [World.openSource?_holdSource]
    exact adds.added.2
  have grounded := managed.grounded (adds.grounded ready.grounded)
  have idle : world.Idle := fun w other isOpen => by
    rcases adds.sinks w other isOpen with ⟨_, rfl⟩ | was
    · exact adds.bareSink.2
    · exact ready.idle w other was
  have still := (managed.muted_of_idle idle).2
  generalize (world.record entry).holdSource e.connection.fromAlgorithm = now at *
  rw [eq] at plan concluded ⊢
  refine ⟨?_, fun content => ⟨[], inlet, .waiting ready.feeder rfl⟩, grounded, still⟩
  exact
    { plan
      fed := ⟨[], inlet⟩
      supplied := fun _ => ⟨_, supplies⟩
      outlet := ⟨[], [], outlet, rfl, isOpen ▸ rfl, rfl⟩
      concluded }

theorem Ready.underway (ready : e.Ready)
    (spawned : e.driver.spawn e.options.name e.world = .ok (i, world))
    (provides : Provides content e.start) :
    Underway e.connection content (SavesToFile e.start) [] e.start := by
  obtain ⟨attended, inlet, grounded, idle⟩ := ready.attended spawned (SavesToFile e.start)
  exact
    { attended with
      nothing := provides.nothing
      files := fun _ => ⟨provides, grounded, idle, fun isRegular => isRegular⟩
      inlet := inlet content }

end CommandLine.Exchange

end AlgorithmDriver

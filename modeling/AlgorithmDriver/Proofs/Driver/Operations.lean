import AlgorithmDriver.Proofs.Driver.Lifecycle

/-!
# Operations as runs

Every operation of a driver, carried out by itself from beginning to end, is a run: the steps of
runs leave nothing out.  What shows of the run is what the operation returns.

* Operations on one instance are single steps (`status_run`, `kill_run`, `inputPipe_run`,
  `outputPipe_run`); starting takes two (`start_run`), and waiting as many as there are looks
  (`wait_run`).
* Operations on channels are steps at which nothing shows (`openRead_run` and the like).
* Closing everything takes the instances out of their table first (`closeAll_run`).
-/

namespace AlgorithmDriver.Driver

variable (driver : Driver) (world : World)

/-- A driver that nobody else uses goes through a run. -/
def Runs (driver : Driver) (world : World) (events : List Event) (driver' : Driver)
    (world' : World) : Prop :=
  Run { driver, world } events { driver := driver', world := world' }

theorem Runs.nil : driver.Runs world [] driver world := Run.nil _

variable {driver world} in
theorem Runs.append {driver' driver'' : Driver} {world' world'' : World}
    {before after : List Event} (first : driver.Runs world before driver' world')
    (second : driver'.Runs world' after driver'' world'') :
    driver.Runs world (before ++ after) driver'' world'' :=
  Run.append first second

variable {world} in
/-- The rest of the machine goes on. -/
theorem Runs.elapse {after : World} (later : world.Later after) :
    driver.Runs world [.silent] driver after :=
  .single (.elsewhere rfl rfl later)

/-! ## Operations on instances -/

/-- Starting takes two steps, and shows the id. -/
theorem start_run (name : String) :
    ∃ events, driver.Runs world events (driver.start name world).2.1
      (driver.start name world).2.2 ∧
      ∀ id, (driver.start name world).1 = .ok id → ∃ process, .started id process ∈ events := by
  unfold start
  cases spawned : driver.spawn name world with
  | error e => exact ⟨[.refused e], .single (.refuse spawned), fun id h => nomatch h⟩
  | ok outcome =>
    obtain ⟨i, after⟩ := outcome
    refine ⟨[.silent, .started (driver.register i after).1 i.process], ?_, fun id h => ?_⟩
    · have registered := Step.register (s := { driver, world := after, arriving := [i] })
        List.mem_cons_self
      rw [List.erase_cons_head] at registered
      exact .cons (.spawn spawned) (.single registered)
    · cases h
      exact ⟨i.process, List.mem_cons_of_mem _ List.mem_cons_self⟩

theorem status_run (id : AlgorithmId) :
    driver.Runs world [.looked id (driver.status id world).1] (driver.status id world).2.1
      (driver.status id world).2.2 :=
  .single (.status id)

theorem kill_run (id : AlgorithmId) :
    driver.Runs world [.killed id (driver.kill id world).1] (driver.kill id world).2.1
      (driver.kill id world).2.2 :=
  .single (.kill id World.progress_nothing)

theorem inputPipe_run (id : AlgorithmId) :
    driver.Runs world [.lentInput id (driver.inputPipe id world).1] (driver.inputPipe id world).2.1
      (driver.inputPipe id world).2.2 :=
  .single (.inputPipe id)

theorem outputPipe_run (id : AlgorithmId) :
    driver.Runs world [.lentOutput id (driver.outputPipe id world).1]
      (driver.outputPipe id world).2.1 (driver.outputPipe id world).2.2 :=
  .single (.outputPipe id)

theorem openHandles_run :
    driver.Runs world [.listed (driver.openHandles world).1.algorithms]
      (driver.openHandles world).2.1 (driver.openHandles world).2.2 :=
  .single (.list World.progress_nothing)

/-! ## Waiting -/

/-- Waiting is a run of looks, the last of which gives the answer. -/
theorem wait_run (id : AlgorithmId) :
    ∃ events, driver.Runs world events (driver.wait id world).2.1 (driver.wait id world).2.2 ∧
      ∀ status, (driver.wait id world).1 = some status → .waited id (some status) ∈ events := by
  obtain ⟨events, run, answered⟩ := Scene.wait { driver, world } id
  exact ⟨events, run, fun status h => (answered status h).answer_mem⟩

/-! ## Operations on channels -/

/-- A change that leaves the algorithms alone. -/
structure Aside (driver : Driver) (world : World) (driver' : Driver) (world' : World) : Prop where
  config : driver'.config = driver.config
  algorithms : driver'.algorithms = driver.algorithms
  later : world.Later world'

theorem Aside.refl : driver.Aside world driver world := ⟨rfl, rfl, .refl world⟩

variable {driver world} in
/-- At such a change nothing shows. -/
theorem Aside.run {driver' : Driver} {world' : World}
    (aside : driver.Aside world driver' world') : driver.Runs world [.silent] driver' world' :=
  .single (.elsewhere aside.config aside.algorithms aside.later)

variable {world} in
theorem acquireRead_later {path : String} {channel : Channel ReadHandle} {after : World}
    (h : acquireRead path world = .ok (channel, after)) : world.Later after := by
  obtain ⟨-, description, host, opened, -, -, rfl⟩ := acquireRead_eq_ok_iff.1 h
  exact .of_processes (Host.openRead_adds opened).processes

theorem openRead_aside (path : String) :
    driver.Aside world (driver.openRead path world).2.1 (driver.openRead path world).2.2 := by
  unfold openRead
  split
  · exact .refl driver world
  · rename_i acquired
    exact ⟨rfl, rfl, (acquireRead_later acquired).trans (World.record_later _ _)⟩

theorem readPipe_aside (id : ReadFileId) :
    driver.Aside world driver (driver.readPipe id world).2 := by
  unfold readPipe
  split
  · exact .refl driver world
  · exact ⟨rfl, rfl, World.holdSource_later world _⟩

theorem closeRead_aside (id : ReadFileId) :
    driver.Aside world (driver.closeRead id world).2.1 (driver.closeRead id world).2.2 := by
  unfold closeRead
  split
  · exact .refl driver world
  · rename_i channel _
    have closed := (World.closeSource_later world channel.pipe).trans
      (World.dropSource_later _ channel.pipe)
    exact ⟨rfl, rfl, closed.trans (World.record_later _ _)⟩

variable {world} in
theorem acquireWrite_later {path : String} {channel : Channel WriteHandle} {after : World}
    (h : acquireWrite path world = .ok (channel, after)) : world.Later after := by
  obtain ⟨-, description, host, opened, -, rfl⟩ := acquireWrite_eq_ok_iff.1 h
  exact .of_processes (Host.openWrite_adds opened).processes

theorem openWrite_aside (path : String) :
    driver.Aside world (driver.openWrite path world).2.1 (driver.openWrite path world).2.2 := by
  unfold openWrite
  split
  · exact .refl driver world
  · rename_i acquired
    exact ⟨rfl, rfl, (acquireWrite_later acquired).trans (World.record_later _ _)⟩

theorem writePipe_aside (id : WriteFileId) :
    driver.Aside world driver (driver.writePipe id world).2 := by
  unfold writePipe
  split
  · exact .refl driver world
  · exact ⟨rfl, rfl, World.holdSink_later world _⟩

theorem closeWrite_aside (id : WriteFileId) :
    driver.Aside world (driver.closeWrite id world).2.1 (driver.closeWrite id world).2.2 := by
  unfold closeWrite
  split
  · exact .refl driver world
  · rename_i channel _
    have closed := (World.closeSink_later world channel.pipe).trans
      (World.dropSink_later _ channel.pipe)
    dsimp only
    split
    · exact ⟨rfl, rfl, closed⟩
    · exact ⟨rfl, rfl, closed.trans (World.record_later _ _)⟩

/-! ## Closing everything -/

theorem tearDownRead_later (id : ReadFileId) (channel : Channel ReadHandle) (world : World) :
    world.Later (tearDownRead id channel world) := by
  have closed := (World.closeSource_later (world.record (.closingLeftover (.read id) channel.path))
    channel.pipe).trans (World.dropSource_later _ channel.pipe)
  exact (World.record_later world _).trans closed

theorem tearDownWrite_later (id : WriteFileId) (channel : Channel WriteHandle) (world : World) :
    world.Later (tearDownWrite id channel world) := by
  have closed := (World.record_later world (.closingLeftover (.write id) channel.path)).trans
    (World.closeSink_later _ channel.pipe)
  unfold tearDownWrite
  dsimp only
  refine World.Later.trans ?_ (World.dropSink_later _ channel.pipe)
  split
  · exact closed
  · exact closed.trans (World.record_later _ _)

/-- What leads to a later world each time does so any number of times. -/
theorem foldl_later {α : Type} {f : World → α → World}
    (each : ∀ world a, World.Later world (f world a)) (items : List α) (world : World) :
    world.Later (items.foldl f world) := by
  induction items generalizing world with
  | nil => exact .refl world
  | cons a rest ih => exact (each world a).trans (ih (f world a))

theorem drainReads_aside :
    driver.Aside world (driver.drainReads world).1 (driver.drainReads world).2 := by
  refine ⟨rfl, rfl, foldl_later ?_ _ world⟩
  rintro world ⟨id, channel⟩
  exact tearDownRead_later id channel world

theorem drainWrites_aside :
    driver.Aside world (driver.drainWrites world).1 (driver.drainWrites world).2 := by
  refine ⟨rfl, rfl, foldl_later ?_ _ world⟩
  rintro world ⟨id, channel⟩
  exact tearDownWrite_later id channel world

/-- The instances that were taken out are ended one by one. -/
theorem tearDown_run (entries : List (AlgorithmId × Instance)) :
    Run { driver, world, leaving := entries } (List.replicate entries.length .silent)
      { driver
        world := entries.foldl (fun world (id, i) => tearDownInstance id i world) world } := by
  induction entries generalizing world with
  | nil => exact .nil _
  | cons entry rest ih =>
    obtain ⟨id, i⟩ := entry
    have ended := Step.tearDown (s := { driver, world, leaving := (id, i) :: rest })
      List.mem_cons_self World.progress_nothing
    rw [List.erase_cons_head] at ended
    exact .cons ended (ih _)

/-- Closing everything takes the instances out of their table first. -/
theorem closeAll_run :
    ∃ n, driver.Runs world (.drained :: List.replicate n .silent) (driver.closeAll world).1
      (driver.closeAll world).2 := by
  have taken := Step.drain (s := { driver, world })
  rw [List.nil_append] at taken
  have ended := Run.cons taken (tearDown_run _ world _)
  have reads := (drainReads_aside (driver.drainAlgorithms world).1
    (driver.drainAlgorithms world).2).run
  have writes := (drainWrites_aside ((driver.drainAlgorithms world).1.drainReads
    (driver.drainAlgorithms world).2).1 ((driver.drainAlgorithms world).1.drainReads
    (driver.drainAlgorithms world).2).2).run
  have all := (Run.append ended reads).append writes
  rw [List.cons_append, List.cons_append, List.append_assoc, ← List.replicate_one,
    List.replicate_append_replicate, List.replicate_append_replicate] at all
  exact ⟨_, all⟩

end AlgorithmDriver.Driver

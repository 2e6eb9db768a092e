import AlgorithmDriver.Proofs.Driver.Instance
import AlgorithmDriver.Proofs.Driver.Table

/-!
# Runs of a driver

What several callers do with a driver at once is a run: a sequence of accesses to its tables, each
of them atomic, while the rest of the machine goes on.  The rest may do whatever it likes, as long
as a process that has ended stays as it is; in particular a process can end at any point and with
any status, also between two questions that one operation asks the host.

Two operations take several steps.  An algorithm is started before it is registered, and instances
are taken out of their table before they are ended one by one.

* `Step` has one constructor for each access to the table of algorithms, and one for all the rest.
* `Scene.Sound` says that what the driver noted about its instances is true; every step keeps it
  (`Step.sound`).
* Hence an instance whose process has ended is never found running
  (`Scene.Sound.status_ne_running`).
-/

namespace AlgorithmDriver

/-- What shows of a step on the algorithms of a driver. -/
inductive Event where
  /-- An instance was registered: its id and its process. -/
  | started (id : AlgorithmId) (process : Nat)
  /-- An algorithm could not be started. -/
  | refused (error : DriverError)
  | looked (id : AlgorithmId) (status : Status)
  /-- Somebody who waits looked.  Without an answer, the waiting goes on. -/
  | waited (id : AlgorithmId) (answer : Option Status)
  | killed (id : AlgorithmId) (result : Except DriverError Unit)
  | lentInput (id : AlgorithmId) (pipe : Option WriteHandle)
  | lentOutput (id : AlgorithmId) (pipe : Option ReadHandle)
  /-- The running instances were listed. -/
  | listed (ids : List AlgorithmId)
  /-- All instances were taken out of the table. -/
  | drained
  /-- Nothing that a caller gets to see. -/
  | silent

/-- A driver at work, with what its callers are about to do. -/
structure Scene where
  driver : Driver
  world : World
  /-- Instances that were started but not registered yet. -/
  arriving : List Instance := []
  /-- Instances that were taken out of the table but not ended yet. -/
  leaving : List (AlgorithmId × Instance) := []

namespace Scene

/-- Nothing was started yet. -/
structure Fresh (scene : Scene) : Prop where
  algorithms : scene.driver.algorithms = .empty
  arriving : scene.arriving = []
  leaving : scene.leaving = []

/-- The scene after an operation of the driver. -/
def after {α : Type} (scene : Scene) (outcome : α × Driver × World) : Scene :=
  { scene with driver := outcome.2.1, world := outcome.2.2 }

end Scene

/-- One step of a run. -/
inductive Step (s : Scene) : Event → Scene → Prop
  /-- The process of an algorithm is started. -/
  | spawn {name : String} {i : Instance} {world : World}
      (spawned : s.driver.spawn name s.world = .ok (i, world)) :
      Step s .silent { s with world, arriving := i :: s.arriving }
  | refuse {name : String} {error : DriverError}
      (failed : s.driver.spawn name s.world = .error error) : Step s (.refused error) s
  /-- An instance that was started is registered. -/
  | register {i : Instance} (arrived : i ∈ s.arriving) :
      Step s (.started (s.driver.register i s.world).1 i.process)
        { s.after (s.driver.register i s.world) with arriving := s.arriving.erase i }
  | status (id : AlgorithmId) :
      Step s (.looked id (s.driver.status id s.world).1) (s.after (s.driver.status id s.world))
  | wait (id : AlgorithmId) :
      Step s (.waited id (s.driver.waitOnce id s.world).1) (s.after (s.driver.waitOnce id s.world))
  | kill (id : AlgorithmId) {meanwhile : World → World}
      (progress : World.Progress meanwhile) :
      Step s (.killed id (s.driver.kill id s.world meanwhile).1)
        (s.after (s.driver.kill id s.world meanwhile))
  | inputPipe (id : AlgorithmId) :
      Step s (.lentInput id (s.driver.inputPipe id s.world).1)
        (s.after (s.driver.inputPipe id s.world))
  | outputPipe (id : AlgorithmId) :
      Step s (.lentOutput id (s.driver.outputPipe id s.world).1)
        (s.after (s.driver.outputPipe id s.world))
  | list {meanwhile : World → World} (progress : World.Progress meanwhile) :
      Step s (.listed (Driver.pollAll s.driver.algorithms s.world meanwhile).1)
        { s with
          driver :=
            { s.driver with
              algorithms := (Driver.pollAll s.driver.algorithms s.world meanwhile).2.1 }
          world := (Driver.pollAll s.driver.algorithms s.world meanwhile).2.2 }
  /-- All instances are taken out of the table. -/
  | drain :
      Step s .drained
        { s with
          driver := { s.driver with algorithms := s.driver.algorithms.drain.2 }
          leaving := s.leaving ++ s.driver.algorithms.drain.1 }
  /-- An instance that was taken out is ended. -/
  | tearDown {id : AlgorithmId} {i : Instance} {meanwhile : World → World}
      (leaving : (id, i) ∈ s.leaving) (progress : World.Progress meanwhile) :
      Step s .silent
        { s with
          world := Driver.tearDownInstance id i s.world meanwhile
          leaving := s.leaving.erase (id, i) }
  /-- Anything else: processes, callers with their pipes and channels, other drivers. -/
  | elsewhere {driver : Driver} {world : World}
      (config : driver.config = s.driver.config)
      (algorithms : driver.algorithms = s.driver.algorithms) (later : s.world.Later world) :
      Step s .silent { s with driver, world }

/-- A run, with what shows of its steps. -/
inductive Run : Scene → List Event → Scene → Prop
  | nil (s : Scene) : Run s [] s
  | cons {s t u : Scene} {event : Event} {events : List Event} (step : Step s event t)
      (rest : Run t events u) : Run s (event :: events) u

namespace Run

theorem single {s t : Scene} {event : Event} (step : Step s event t) : Run s [event] t :=
  .cons step (.nil t)

theorem exists_cons {s t : Scene} {event : Event} {events : List Event} (step : Step s event t)
    (rest : ∃ u, Run t events u) : ∃ u, Run s (event :: events) u := by
  obtain ⟨u, run⟩ := rest
  exact ⟨u, .cons step run⟩

theorem append {s t u : Scene} {before after : List Event} (first : Run s before t)
    (second : Run t after u) : Run s (before ++ after) u := by
  induction first with
  | nil => exact second
  | cons step _ ih => exact .cons step (ih second)

end Run

/-! ## Operations -/

namespace Driver

theorem spawn_later {driver : Driver} {name : String} {world after : World} {i : Instance}
    (h : driver.spawn name world = .ok (i, after)) :
    world.Later after ∧ i.status = .running ∧ i.reaped = false := by
  obtain ⟨command, started⟩ := spawn_start h
  exact Instance.start_later started

theorem status_later (driver : Driver) (id : AlgorithmId) (world : World) :
    world.Later (driver.status id world).2.2 := by
  unfold status
  split
  · exact .refl world
  · exact Instance.poll_later _ world

/-- A look by somebody who waits is a look. -/
theorem waitOnce_eq (driver : Driver) (id : AlgorithmId) (world : World) :
    driver.waitOnce id world =
      (if (driver.status id world).1 = .running then none else some (driver.status id world).1,
        (driver.status id world).2) := by
  rcases looked : driver.status id world with ⟨status, driver', after⟩
  unfold waitOnce
  rw [looked]
  cases status <;> rfl

theorem kill_later (driver : Driver) (id : AlgorithmId) (world : World)
    {meanwhile : World → World} (progress : World.Progress meanwhile) :
    world.Later (driver.kill id world meanwhile).2.2 := by
  unfold kill
  split
  · exact .refl world
  · rename_i i _
    have killed := Instance.kill_later i id world progress
    dsimp only
    split
    · exact killed
    · exact killed.trans (World.record_later _ _)

theorem inputPipe_later (driver : Driver) (id : AlgorithmId) (world : World) :
    world.Later (driver.inputPipe id world).2.2 :=
  driver.inputPipe_world id world (.refl world) (World.holdSink_later world)

theorem outputPipe_later (driver : Driver) (id : AlgorithmId) (world : World) :
    world.Later (driver.outputPipe id world).2.2 :=
  driver.outputPipe_world id world (.refl world) (World.holdSource_later world)

theorem killLeftover_later (id : AlgorithmId) (i : Instance) (world : World)
    {meanwhile : World → World} (progress : World.Progress meanwhile) :
    world.Later (killLeftover id i world meanwhile).2 := by
  have looked := Instance.poll_later i world
  unfold killLeftover
  dsimp only
  split
  · have recorded := looked.trans (World.record_later _ (.killingLeftover id (i.poll world).1.name))
    have killed := (recorded.trans (progress _)).trans
      (Instance.kill_later (i.poll world).1 id _ progress)
    split
    · rename_i outcome
      rw [outcome] at killed
      exact killed
    · rename_i outcome
      rw [outcome] at killed
      exact killed.trans (World.record_later _ _)
  · exact looked

theorem tearDownInstance_later (id : AlgorithmId) (i : Instance) (world : World)
    {meanwhile : World → World} (progress : World.Progress meanwhile) :
    world.Later (tearDownInstance id i world meanwhile) := by
  have killed := killLeftover_later id i world progress
  unfold tearDownInstance
  dsimp only
  have looked := killed.trans ((progress _).trans
    (Instance.poll_later (killLeftover id i world meanwhile).1 _))
  refine World.Later.trans ?_ (Instance.releasePipes_later _ _)
  split
  · exact looked.trans ((progress _).trans (Instance.reap_later _ _))
  · exact looked

/-! ### Looking at all instances -/

section PollAll

variable (algorithms : Table .algorithm Instance) (world : World) {meanwhile : World → World}
  (progress : World.Progress meanwhile)

include progress

theorem pollNext_later (s : List AlgorithmId × World) (id : AlgorithmId) (i : Instance) :
    s.2.Later (pollNext meanwhile s id i).2.2 :=
  (progress s.2).trans (Instance.poll_later i _)

theorem pollAll_later : world.Later (pollAll algorithms world meanwhile).2.2 :=
  Table.mapAccum_state (R := fun s t => s.2.Later t.2) (fun s => World.Later.refl s.2)
    World.Later.trans (pollNext_later progress) ([], world) algorithms

/-- Each instance is looked at in some world on the way. -/
theorem pollAll_get? {id : AlgorithmId} {i : Instance} (h : algorithms.get? id = some i) :
    ∃ between, world.Later between ∧
      (pollAll algorithms world meanwhile).2.1.get? id = some (i.poll between).1 ∧
      between.Later (pollAll algorithms world meanwhile).2.2 := by
  obtain ⟨s, before, result, later⟩ := Table.mapAccum_get? (R := fun s t => s.2.Later t.2)
    (fun s => World.Later.refl s.2) World.Later.trans (pollNext_later progress) ([], world)
    algorithms h
  refine ⟨meanwhile s.2, before.trans (progress s.2), result, ?_⟩
  exact (Instance.poll_later i _).trans later

end PollAll

theorem pollAll_get?_none {algorithms : Table .algorithm Instance} {id : AlgorithmId}
    (world : World) (meanwhile : World → World) (h : algorithms.get? id = none) :
    (pollAll algorithms world meanwhile).2.1.get? id = none :=
  Table.mapAccum_get?_none _ algorithms h

end Driver

/-! ## What holds of every scene -/

/-- What a driver noted about its instances is true. -/
structure Driver.Sound (driver : Driver) (world : World) : Prop where
  issued : driver.algorithms.Issued
  live : ∀ id i, driver.algorithms.get? id = some i → i.Sound world

namespace Driver.Sound

variable {driver driver' : Driver} {world : World}

theorem later {after : World} (sound : driver.Sound world) (later : world.Later after) :
    driver.Sound after where
  issued := sound.issued
  live id i h := (sound.live id i h).later later

theorem of_algorithms (sound : driver.Sound world)
    (same : driver'.algorithms = driver.algorithms) : driver'.Sound world where
  issued := same ▸ sound.issued
  live := same ▸ sound.live

/-- Changing what is noted about one instance. -/
theorem set (sound : driver.Sound world) (id : AlgorithmId) {i : Instance} (h : i.Sound world) :
    { driver with algorithms := driver.algorithms.set id i }.Sound world where
  issued := sound.issued.set id i
  live other found h' := by
    rw [Table.get?_set] at h'
    split at h'
    · obtain ⟨_, _, rfl⟩ := Option.map_eq_some_iff.1 h'
      exact h
    · exact sound.live other found h'

theorem register (sound : driver.Sound world) {i : Instance} (h : i.Sound world) :
    (driver.register i world).2.1.Sound world where
  issued := sound.issued.insert i
  live other found h' := by
    rw [show (driver.register i world).2.1.algorithms = (driver.algorithms.insert i).2 from rfl,
      Table.get?_insert] at h'
    rcases Option.or_eq_some_iff.1 h' with old | ⟨_, new⟩
    · exact sound.live other found old
    · split at new
      · cases new
        exact h
      · cases new

theorem status (sound : driver.Sound world) (id : AlgorithmId) :
    (driver.status id world).2.1.Sound (driver.status id world).2.2 := by
  have noted : (driver.status id world).2.1.Sound world := by
    unfold Driver.status
    split
    · exact sound
    · rename_i i found
      exact sound.set id ((Instance.poll_looked i world).sound (sound.live id i found))
  exact noted.later (status_later driver id world)

theorem waitOnce (sound : driver.Sound world) (id : AlgorithmId) :
    (driver.waitOnce id world).2.1.Sound (driver.waitOnce id world).2.2 := by
  rw [waitOnce_eq]
  exact sound.status id

theorem kill (sound : driver.Sound world) (id : AlgorithmId) {meanwhile : World → World}
    (progress : World.Progress meanwhile) :
    (driver.kill id world meanwhile).2.1.Sound (driver.kill id world meanwhile).2.2 := by
  have noted : (driver.kill id world meanwhile).2.1.Sound world := by
    cases found : driver.algorithms.get? id with
    | none =>
      rw [kill_of_none found]
      exact sound
    | some i =>
      rw [(kill_of_some found world meanwhile).2]
      exact sound.set id ((Instance.kill_killed i id world meanwhile).sound (sound.live id i found))
  exact noted.later (kill_later driver id world progress)

theorem inputPipe (sound : driver.Sound world) (id : AlgorithmId) :
    (driver.inputPipe id world).2.1.Sound (driver.inputPipe id world).2.2 := by
  have noted : (driver.inputPipe id world).2.1.Sound world := by
    unfold Driver.inputPipe
    split
    · exact sound
    · rename_i i found
      obtain ⟨process, status, reaped⟩ := Instance.inputPipe_same i world
      exact sound.set id ((Instance.Looked.same process status fun _ => reaped).sound
        (sound.live id i found))
  exact noted.later (inputPipe_later driver id world)

theorem outputPipe (sound : driver.Sound world) (id : AlgorithmId) :
    (driver.outputPipe id world).2.1.Sound (driver.outputPipe id world).2.2 := by
  have noted : (driver.outputPipe id world).2.1.Sound world := by
    rw [outputPipe_driver]
    exact sound
  exact noted.later (outputPipe_later driver id world)

theorem pollAll (sound : driver.Sound world) {meanwhile : World → World}
    (progress : World.Progress meanwhile) :
    { driver with
      algorithms := (Driver.pollAll driver.algorithms world meanwhile).2.1 }.Sound
        (Driver.pollAll driver.algorithms world meanwhile).2.2 where
  issued := sound.issued.mapAccum _ _
  live id found h := by
    cases before : driver.algorithms.get? id with
    | none =>
      rw [show _ = none from pollAll_get?_none world meanwhile before] at h
      cases h
    | some i =>
      obtain ⟨between, earlier, result, later⟩ :=
        pollAll_get? driver.algorithms world progress before
      rw [show _ = some found from h, Option.some.injEq] at result
      subst result
      exact ((Instance.poll_looked i between).sound ((sound.live id i before).later earlier)).later
        later

end Driver.Sound

/-- What holds of every scene of a run. -/
structure Scene.Sound (s : Scene) : Prop where
  driver : s.driver.Sound s.world
  /-- Nobody looked at an instance before it is registered. -/
  arriving : ∀ i ∈ s.arriving, i.status = .running ∧ i.reaped = false

theorem Scene.Fresh.sound {s : Scene} (fresh : s.Fresh) : s.Sound where
  driver := by
    refine ⟨?_, fun id i h => ?_⟩
    · rw [fresh.algorithms]
      exact Table.Issued.empty
    · rw [fresh.algorithms, Table.get?_empty] at h
      cases h
  arriving i h := by
    rw [fresh.arriving] at h
    cases h

/-- Once its process has ended, an instance is not found running. -/
theorem Scene.Sound.status_ne_running {s : Scene} (sound : s.Sound) {id : AlgorithmId}
    {i : Instance} {status : ExitStatus} (found : s.driver.algorithms.get? id = some i)
    (ended : s.world.host.HasEnded i.process status) :
    (s.driver.status id s.world).1 ≠ .running := by
  rw [Driver.status_of_some found]
  exact Instance.poll_status_of_hasEnded (sound.driver.live id i found) ended

/-- The world of a step is later than the one before it. -/
theorem Step.later {s t : Scene} {event : Event} (h : Step s event t) : s.world.Later t.world := by
  cases h with
  | spawn spawned => exact (Driver.spawn_later spawned).1
  | refuse _ => exact .refl s.world
  | register _ => exact World.record_later _ _
  | status id => exact Driver.status_later _ id _
  | wait id =>
    show s.world.Later (s.driver.waitOnce id s.world).2.2
    rw [Driver.waitOnce_eq]
    exact Driver.status_later _ id _
  | kill id progress => exact Driver.kill_later _ id _ progress
  | inputPipe id => exact Driver.inputPipe_later _ id _
  | outputPipe id => exact Driver.outputPipe_later _ id _
  | list progress => exact Driver.pollAll_later _ _ progress
  | drain => exact .refl s.world
  | tearDown _ progress => exact Driver.tearDownInstance_later _ _ _ progress
  | elsewhere _ _ later => exact later

/-- Every step keeps what holds of a scene. -/
theorem Step.sound {s t : Scene} {event : Event} (h : Step s event t) (sound : s.Sound) :
    t.Sound := by
  have later := h.later
  cases h with
  | @spawn name i world spawned =>
    obtain ⟨_, running, fresh⟩ := Driver.spawn_later spawned
    refine ⟨sound.driver.later later, ?_⟩
    intro other mem
    rcases List.mem_cons.1 mem with rfl | mem
    · exact ⟨running, fresh⟩
    · exact sound.arriving other mem
  | refuse _ => exact sound
  | @register i arrived =>
    obtain ⟨running, fresh⟩ := sound.arriving i arrived
    refine ⟨(sound.driver.register (.of_running running fresh)).later later, ?_⟩
    intro other mem
    exact sound.arriving other (List.mem_of_mem_erase mem)
  | status id => exact ⟨sound.driver.status id, sound.arriving⟩
  | wait id => exact ⟨sound.driver.waitOnce id, sound.arriving⟩
  | kill id progress => exact ⟨sound.driver.kill id progress, sound.arriving⟩
  | inputPipe id => exact ⟨sound.driver.inputPipe id, sound.arriving⟩
  | outputPipe id => exact ⟨sound.driver.outputPipe id, sound.arriving⟩
  | list progress => exact ⟨sound.driver.pollAll progress, sound.arriving⟩
  | drain =>
    refine ⟨⟨Table.Issued.drain _, fun id i h => ?_⟩, sound.arriving⟩
    cases h
  | tearDown _ progress => exact ⟨sound.driver.later later, sound.arriving⟩
  | elsewhere config algorithms later =>
    exact ⟨(sound.driver.of_algorithms algorithms).later later, sound.arriving⟩

namespace Run

theorem later {s t : Scene} {events : List Event} (h : Run s events t) : s.world.Later t.world := by
  induction h with
  | nil s => exact .refl s.world
  | cons step _ ih => exact step.later.trans ih

theorem sound {s t : Scene} {events : List Event} (h : Run s events t) (sound : s.Sound) :
    t.Sound := by
  induction h with
  | nil s => exact sound
  | cons step _ ih => exact ih (step.sound sound)

end Run

end AlgorithmDriver

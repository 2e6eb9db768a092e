import AlgorithmDriver.Driver.Basic
import AlgorithmDriver.Proofs.Host.Later

/-!
# What comes of an operation

What each operation of a driver on its instances, and on files that it opens, makes and answers.  All
that is proved of them elsewhere follows from that.

* `Instance.start_eq_ok_iff` — the process of an instance reads from one new pipe and writes to
  another.  The other ends of the pipes are the driver's.
* `Driver.spawn_eq_ok_iff` — an instance runs the command that its name stands for.
* `Driver.acquireRead_eq_ok_iff`, `Driver.acquireWrite_eq_ok_iff` — a file that is opened becomes a
  new stream.
* `Instance.poll_spec`, `Instance.reap_spec` — how an instance learns that its process has ended, and
  drops the handles of its pipes.  What is kept by each of the steps is kept then (`poll_keeps`,
  `reap_keeps`, `releasePipes_keeps`).
* `Instance.inputPipe_cases`, `Instance.outputPipe_cases` — how an instance answers when it is asked
  for a pipe.  In the world nothing changes then but the number of handles (`Driver.inputPipe_world`,
  `Driver.outputPipe_world`).
* `Driver.status_of_some`, `Driver.kill_of_some`, `Driver.inputPipe_of_some`,
  `Driver.outputPipe_of_some` — a driver passes on what its instance answers.
-/

namespace AlgorithmDriver

variable {world after : World}

/-! ## Starting -/

namespace Instance

variable {name : String} {command : Command} {policy : ErrorPolicy} {i : Instance}

/-- The host on which a process was started with two new pipes. -/
def pipedHost (host : Host) (program : Program Nat) (errors : Nat) : Host :=
  (host.makePipe.2.2.makePipe.2.2.start program host.makePipe.1 host.makePipe.2.2.makePipe.2.1
    errors).2

/-- What a program is given when the command is run: its own name, the arguments of the command and
the variables of the driver. -/
def given (command : Command) (host : Host) : Arguments where
  values := (command.program :: command.arguments).map Bytes.ofText
  environment := host.environment

/-- A process is started when its arguments can be passed on and its program can be loaded. -/
theorem start_eq_ok_iff :
    start name command policy world = .ok (i, after) ↔
      command.arguments.any containsNul = false ∧
      ∃ errors host program, openErrors policy world = .ok (errors, host) ∧
        host.loadCommand host.directory host.searchPath command.program
          (given command world.host) = .ok program ∧
        i = { name, process := host.processes.length, input := .owned ⟨world.sinks.length⟩
              output := some ⟨world.sources.length⟩ } ∧
        after =
          { world with
            host := pipedHost host program errors
            sinks := world.sinks ++
              [{ stream := some { description := host.makePipe.2.1, capacity := 0 } }]
            sources := world.sources ++
              [{ stream := some { description := host.makePipe.2.2.makePipe.1, capacity := 0 } }] } := by
  unfold start
  constructor
  · intro started
    split at started
    · cases started
    · rename_i speakable
      refine ⟨Bool.eq_false_iff.2 speakable, ?_⟩
      dsimp only at started
      split at started
      · cases started
      · rename_i errors host opened
        split at started
        · cases started
        · rename_i program loaded
          cases started
          exact ⟨errors, host, program, opened, loaded, rfl, rfl⟩
  · rintro ⟨speakable, errors, host, program, opened, loaded, rfl, rfl⟩
    unfold given at loaded
    rw [if_neg (Bool.eq_false_iff.1 speakable), opened]
    dsimp only
    rw [loaded]
    rfl

end Instance

namespace Driver

/-- An algorithm is spawned when its command is found and can be started. -/
theorem spawn_eq_ok_iff {driver : Driver} {name : String} {i : Instance} :
    driver.spawn name world = .ok (i, after) ↔
      ∃ command, driver.config.resolve world.host name = .ok command ∧
        Instance.start name command driver.config.errors world = .ok (i, after) := by
  unfold spawn
  cases driver.config.resolve world.host name with
  | error e => exact ⟨nofun, fun ⟨_, found, _⟩ => nomatch found⟩
  | ok command =>
    constructor
    · exact fun started => ⟨command, rfl, started⟩
    · rintro ⟨other, found, started⟩
      cases found
      exact started

/-- What is spawned is a started process. -/
theorem spawn_start {driver : Driver} {name : String} {i : Instance}
    (spawned : driver.spawn name world = .ok (i, after)) :
    ∃ command, Instance.start name command driver.config.errors world = .ok (i, after) := by
  obtain ⟨command, -, started⟩ := spawn_eq_ok_iff.1 spawned
  exact ⟨command, started⟩

/-! ## Opening -/

variable {path : String}

/-- A file that is opened to read from becomes a new stream. -/
theorem acquireRead_eq_ok_iff {channel : Channel ReadHandle} :
    acquireRead path world = .ok (channel, after) ↔
      Instance.containsNul path = false ∧
      ∃ description host,
        world.host.openRead world.host.directory path = .ok (description, host) ∧
        host.isDirectory description = false ∧
        channel = { path, pipe := ⟨world.sources.length⟩ } ∧
        after = { world with
          host
          sources := world.sources ++ [{ stream := some { description, capacity := bufferSize } }] } := by
  unfold acquireRead
  constructor
  · intro acquired
    split at acquired
    · cases acquired
    · rename_i speakable
      split at acquired
      · cases acquired
      · rename_i description host opened
        split at acquired
        · cases acquired
        · rename_i plain
          cases acquired
          exact ⟨Bool.eq_false_iff.2 speakable, description, host, opened, Bool.eq_false_iff.2 plain,
            rfl, rfl⟩
  · rintro ⟨speakable, description, host, opened, plain, rfl, rfl⟩
    rw [if_neg (Bool.eq_false_iff.1 speakable), opened]
    dsimp only
    rw [if_neg (Bool.eq_false_iff.1 plain)]
    rfl

/-- A file that is opened to write to becomes a new stream. -/
theorem acquireWrite_eq_ok_iff {channel : Channel WriteHandle} :
    acquireWrite path world = .ok (channel, after) ↔
      Instance.containsNul path = false ∧
      ∃ description host,
        world.host.openWrite world.host.directory path .create = .ok (description, host) ∧
        channel = { path, pipe := ⟨world.sinks.length⟩ } ∧
        after = { world with
          host
          sinks := world.sinks ++ [{ stream := some { description, capacity := bufferSize } }] } := by
  unfold acquireWrite
  constructor
  · intro acquired
    split at acquired
    · cases acquired
    · rename_i speakable
      split at acquired
      · cases acquired
      · rename_i description host opened
        cases acquired
        exact ⟨Bool.eq_false_iff.2 speakable, description, host, opened, rfl, rfl⟩
  · rintro ⟨speakable, description, host, opened, rfl, rfl⟩
    rw [if_neg (Bool.eq_false_iff.1 speakable), opened]
    rfl

end Driver

/-! ## Looking and waiting -/

namespace Instance

/-- What a look does: nothing, unless it is the first after the process has ended. -/
theorem poll_spec (i : Instance) (world : World) :
    i.poll world = (i, world) ∨
      ∃ status, world.host.HasEnded i.process status ∧
        (world.host.tryWait i.process).1 = some status ∧
        ((i.status ≠ .running ∧ i.poll world =
            ({ i with reaped := true }, { world with host := (world.host.tryWait i.process).2 })) ∨
          i.status = .running ∧ i.poll world =
            ({ i with reaped := true } : Instance).terminate (.exited status.code)
              (({ world with host := (world.host.tryWait i.process).2 } : World).record
                (.exited i.name status.code))) := by
  unfold poll
  split
  · exact .inl rfl
  · split
    · rename_i host answer
      have silent : (world.host.tryWait i.process).1 = none := congrArg Prod.fst answer
      obtain rfl : (world.host.tryWait i.process).2 = host := congrArg Prod.snd answer
      rw [Host.tryWait_of_silent silent]
      exact .inl rfl
    · rename_i status host answer
      obtain rfl : (world.host.tryWait i.process).2 = host := congrArg Prod.snd answer
      have told : (world.host.tryWait i.process).1 = some status := congrArg Prod.fst answer
      refine .inr ⟨status, Host.hasEnded_of_tryWait told, told, ?_⟩
      dsimp only
      split
      · rename_i running
        exact .inr ⟨running, rfl⟩
      · rename_i stopped
        exact .inl ⟨stopped, rfl⟩

/-- What waiting does: a signal takes effect, and the end of the process is noted unless it was
before. -/
theorem reap_spec (i : Instance) (world : World) :
    (i.reaped = true ∧ i.reap world = (i, world)) ∨
      (i.reaped = false ∧ ((world.host.deliver i.process).tryWait i.process).1 = none ∧
        i.reap world = (i, { world with host := world.host.deliver i.process })) ∨
      ∃ status, ((world.host.deliver i.process).tryWait i.process).1 = some status ∧
        ((i.status ≠ .running ∧ i.reap world = ({ i with reaped := true },
            { world with host := ((world.host.deliver i.process).tryWait i.process).2 })) ∨
          i.status = .running ∧ i.reap world =
            ({ i with reaped := true } : Instance).terminate (.exited status.code)
              { world with host := ((world.host.deliver i.process).tryWait i.process).2 }) := by
  unfold reap
  split
  · rename_i reaped
    exact .inl ⟨reaped, rfl⟩
  · rename_i unreaped
    right
    split
    · rename_i host answer
      have silent : ((world.host.deliver i.process).tryWait i.process).1 = none :=
        congrArg Prod.fst answer
      obtain rfl : ((world.host.deliver i.process).tryWait i.process).2 = host :=
        congrArg Prod.snd answer
      refine .inl ⟨Bool.eq_false_iff.2 unreaped, silent, ?_⟩
      rw [Host.tryWait_of_silent silent]
    · rename_i status host answer
      obtain rfl : ((world.host.deliver i.process).tryWait i.process).2 = host :=
        congrArg Prod.snd answer
      refine .inr ⟨status, congrArg Prod.fst answer, ?_⟩
      dsimp only
      split
      · rename_i running
        exact .inr ⟨running, rfl⟩
      · rename_i stopped
        exact .inl ⟨stopped, rfl⟩

/-- What holds whichever handles are dropped holds when an instance dropped those of its pipes. -/
theorem releasePipes_keeps (i : Instance) {P : World → Prop} (here : P world)
    (sink : ∀ after w, P after → P (after.dropSink w))
    (source : ∀ after r, P after → P (after.dropSource r)) : P (i.releasePipes world) := by
  unfold releasePipes
  dsimp only
  split <;> split
  · exact source _ _ (sink _ _ here)
  · exact source _ _ here
  · exact sink _ _ here
  · exact here

/-- What is kept by asking the host, by putting on record and by dropping handles is kept by a
look. -/
theorem poll_keeps (i : Instance) {P : World → Prop} (here : P world)
    (asked : P { world with host := (world.host.tryWait i.process).2 })
    (recorded : ∀ after entry, P after → P (after.record entry))
    (released : ∀ after, P after → P (i.releasePipes after)) : P (i.poll world).2 := by
  rcases i.poll_spec world with same | ⟨_, _, _, ⟨_, looked⟩ | ⟨_, looked⟩⟩
  · rw [same]
    exact here
  · rw [looked]
    exact asked
  · rw [looked]
    exact released _ (recorded _ _ asked)

/-- What is kept by the host and by dropping handles is kept by waiting. -/
theorem reap_keeps (i : Instance) {P : World → Prop} (here : P world)
    (delivered : P { world with host := world.host.deliver i.process })
    (asked : P { world with host := ((world.host.deliver i.process).tryWait i.process).2 })
    (released : ∀ after, P after → P (i.releasePipes after)) : P (i.reap world).2 := by
  rcases i.reap_spec world with ⟨_, same⟩ | ⟨_, _, same⟩ | ⟨_, _, ⟨_, same⟩ | ⟨_, same⟩⟩
  · rw [same]
    exact here
  · rw [same]
    exact delivered
  · rw [same]
    exact asked
  · rw [same]
    exact released _ asked

end Instance

/-! ## Asking for pipes -/

namespace Instance

variable (i : Instance) (world : World)

/-- How an instance answers: it lends its input for the first time, gives out another handle of it as
long as anybody has one, or refuses. -/
theorem inputPipe_cases :
    (∃ w, i.input = .owned w ∧ i.inputPipe world = (some w, { i with input := .lent w }, world)) ∨
    (∃ w, i.input = .lent w ∧ world.isAlive w = true ∧
      i.inputPipe world = (some w, i, world.holdSink w)) ∨
    i.inputPipe world = (none, i, world) := by
  unfold inputPipe
  cases input : i.input with
  | owned w => exact .inl ⟨w, rfl, rfl⟩
  | lent w =>
    by_cases alive : world.isAlive w = true
    · exact .inr (.inl ⟨w, rfl, alive, if_pos alive⟩)
    · exact .inr (.inr (if_neg alive))
  | released => exact .inr (.inr rfl)

/-- To the instance itself happens nothing, unless it lends its input. -/
theorem inputPipe_instance {P : Instance → Prop} (same : P i)
    (lent : ∀ w, P { i with input := .lent w }) : P (i.inputPipe world).2.1 := by
  rcases i.inputPipe_cases world with ⟨w, _, answer⟩ | ⟨w, _, _, answer⟩ | answer
  · rw [answer]
    exact lent w
  · rw [answer]
    exact same
  · rw [answer]
    exact same

theorem outputPipe_cases :
    (∃ r, i.output = some r ∧ i.outputPipe world = (some r, world.holdSource r)) ∨
      i.outputPipe world = (none, world) := by
  unfold outputPipe
  cases i.output with
  | some r => exact .inl ⟨r, rfl, rfl⟩
  | none => exact .inr rfl

end Instance

/-! ## Operations on instances -/

namespace Driver

variable {driver : Driver} {id : AlgorithmId} {i : Instance}

/-- Notes how an instance was found. -/
def note (driver : Driver) (id : AlgorithmId) (i : Instance) : Driver :=
  { driver with algorithms := driver.algorithms.set id i }

theorem status_of_none (missing : driver.algorithms.get? id = none) (world : World) :
    driver.status id world = (.notFound, driver, world) := by
  unfold status
  rw [missing]

theorem status_of_some (found : driver.algorithms.get? id = some i) (world : World) :
    driver.status id world =
      ((i.poll world).1.status, driver.note id (i.poll world).1, (i.poll world).2) := by
  unfold status
  rw [found]
  rfl

theorem kill_of_none {meanwhile : World → World} (h : driver.algorithms.get? id = none) :
    driver.kill id world meanwhile = (.error (.notFound id.text), driver, world) := by
  unfold kill
  rw [h]

/-- A kill answers as the instance does, and changes only what is noted about it. -/
theorem kill_of_some (h : driver.algorithms.get? id = some i) (world : World)
    (meanwhile : World → World) :
    (driver.kill id world meanwhile).1 = (i.kill id world meanwhile).1 ∧
      (driver.kill id world meanwhile).2.1 =
        { driver with
          algorithms := driver.algorithms.set id (i.kill id world meanwhile).2.1 } := by
  unfold kill
  rw [h]
  dsimp only
  rcases i.kill id world meanwhile with ⟨_ | _, i', world'⟩ <;> exact ⟨rfl, rfl⟩

theorem inputPipe_of_none (missing : driver.algorithms.get? id = none) (world : World) :
    driver.inputPipe id world = (none, driver, world) := by
  unfold inputPipe
  rw [missing]

theorem inputPipe_of_some (found : driver.algorithms.get? id = some i) (world : World) :
    driver.inputPipe id world =
      ((i.inputPipe world).1, driver.note id (i.inputPipe world).2.1, (i.inputPipe world).2.2) := by
  unfold inputPipe
  rw [found]
  rfl

theorem outputPipe_of_none (missing : driver.algorithms.get? id = none) (world : World) :
    driver.outputPipe id world = (none, driver, world) := by
  unfold outputPipe
  rw [missing]

theorem outputPipe_of_some (found : driver.algorithms.get? id = some i) (world : World) :
    driver.outputPipe id world = ((i.outputPipe world).1, driver, (i.outputPipe world).2) := by
  unfold outputPipe
  rw [found]

/-- To the world happens nothing, unless another handle of an input is given out. -/
theorem inputPipe_world (driver : Driver) (id : AlgorithmId) (world : World) {P : World → Prop}
    (same : P world) (held : ∀ w, P (world.holdSink w)) : P (driver.inputPipe id world).2.2 := by
  cases found : driver.algorithms.get? id with
  | none =>
    rw [inputPipe_of_none found]
    exact same
  | some i =>
    rw [inputPipe_of_some found]
    rcases i.inputPipe_cases world with ⟨w, _, answer⟩ | ⟨w, _, _, answer⟩ | answer
    · rw [answer]
      exact same
    · rw [answer]
      exact held w
    · rw [answer]
      exact same

/-- To the world happens nothing, unless a handle of an output is given out. -/
theorem outputPipe_world (driver : Driver) (id : AlgorithmId) (world : World) {P : World → Prop}
    (same : P world) (held : ∀ r, P (world.holdSource r)) : P (driver.outputPipe id world).2.2 := by
  cases found : driver.algorithms.get? id with
  | none =>
    rw [outputPipe_of_none found]
    exact same
  | some i =>
    rw [outputPipe_of_some found]
    rcases i.outputPipe_cases world with ⟨r, _, answer⟩ | answer
    · rw [answer]
      exact held r
    · rw [answer]
      exact same

theorem outputPipe_driver (driver : Driver) (id : AlgorithmId) (world : World) :
    (driver.outputPipe id world).2.1 = driver := by
  cases found : driver.algorithms.get? id with
  | none => rw [outputPipe_of_none found]
  | some i => rw [outputPipe_of_some found]

end Driver

end AlgorithmDriver

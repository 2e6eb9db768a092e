import AlgorithmDriver.Proofs.Driver.Ending

/-!
# What is put on record

Which entries the log gets by each operation, whatever the rest of the machine does meanwhile, as
long as it leaves the log alone (`World.Silent`).

* Using, copying, dropping and closing handles puts nothing on record.
* A look at an instance puts its exit on record when it is noticed (`Standing.Looks`,
  `Instance.poll_looks`), and a kill the signal that was sent (`Instance.kill_cases`).
* Ending an instance that was taken out of the table puts on record that it is ended, unless it was
  over before (`Standing.Dismissed`, `Driver.tearDownInstance_dismissed`).
-/

namespace AlgorithmDriver

/-! ## Handles -/

namespace World

/-- The log is left alone. -/
def Silent (meanwhile : World → World) : Prop := ∀ world, (meanwhile world).log = world.log

@[simp] theorem holdSource_log (world : World) (r : ReadHandle) :
    (world.holdSource r).log = world.log := by
  unfold holdSource
  split <;> rfl

@[simp] theorem closeSource_log (world : World) (r : ReadHandle) :
    (world.closeSource r).log = world.log := by
  unfold closeSource
  split <;> rfl

@[simp] theorem dropSource_log (world : World) (r : ReadHandle) :
    (world.dropSource r).log = world.log :=
  dropSource_keeps (P := fun after => after.log = world.log) rfl (closeSource_log world r) fun _ _ => id

@[simp] theorem holdSink_log (world : World) (w : WriteHandle) :
    (world.holdSink w).log = world.log := by
  unfold holdSink
  split <;> rfl

@[simp] theorem closeSink_log (world : World) (w : WriteHandle) :
    (world.closeSink w).2.log = world.log := by
  unfold closeSink
  split <;> rfl

@[simp] theorem dropSink_log (world : World) (w : WriteHandle) :
    (world.dropSink w).log = world.log :=
  dropSink_keeps (P := fun after => after.log = world.log) rfl (closeSink_log world w) fun _ _ => id

@[simp] theorem record_log (world : World) (entry : LogEntry) :
    (world.record entry).log = world.log ++ [entry] := rfl

end World

/-! ## Instances -/

/-- How an instance stands, as the driver knows it. -/
structure Standing where
  name : String
  status : Status
  deriving DecidableEq, Repr

/-- What a look puts on record, and how the instance then stands. -/
inductive Standing.Looks : Standing → List LogEntry → Standing → Prop
  | same (standing : Standing) : Looks standing [] standing
  | exited (name : String) (code : Nat) :
      Looks ⟨name, .running⟩ [.exited name code] ⟨name, .exited code⟩

/-- What ending an instance puts on record. -/
inductive Standing.Dismissed (id : AlgorithmId) : Standing → List LogEntry → Prop
  | ended {standing : Standing} (stopped : standing.status ≠ .running) : Dismissed id standing []
  /-- Its exit was not noticed before. -/
  | exited (name : String) (code : Nat) : Dismissed id ⟨name, .running⟩ [.exited name code]
  | killed (name : String) :
      Dismissed id ⟨name, .running⟩ [.killingLeftover id name, .signalled name]
  /-- It was found running, but exited before it could be killed. -/
  | escaped (name : String) (code : Nat) :
      Dismissed id ⟨name, .running⟩
        [.killingLeftover id name, .exited name code, .cannotKill id (.alreadyExited id)]

namespace Standing

variable {standing standing' : Standing} {lines : List LogEntry}

/-- An instance that was not running stands as before. -/
theorem Looks.of_stopped (looks : standing.Looks lines standing')
    (stopped : standing.status ≠ .running) : lines = [] ∧ standing' = standing := by
  cases looks with
  | same => exact ⟨rfl, rfl⟩
  | exited => exact absurd rfl stopped

/-- Nothing was noticed of an instance that is still running. -/
theorem Looks.of_running (looks : standing.Looks lines standing')
    (running : standing'.status = .running) : lines = [] ∧ standing' = standing := by
  cases looks with
  | same => exact ⟨rfl, rfl⟩
  | exited => cases running

theorem Looks.exists_code (looks : standing.Looks lines standing')
    (running : standing.status = .running) (stopped : standing'.status ≠ .running) :
    ∃ code, lines = [.exited standing.name code] := by
  cases looks with
  | same => exact absurd running stopped
  | exited name code => exact ⟨code, rfl⟩

theorem Looks.dismissed (looks : standing.Looks lines standing')
    (stopped : standing'.status ≠ .running) (id : AlgorithmId) : standing.Dismissed id lines := by
  cases looks with
  | same => exact .ended stopped
  | exited name code => exact .exited name code

end Standing

namespace Instance

/-- How an instance stands. -/
def standing (i : Instance) : Standing := ⟨i.name, i.status⟩

@[simp] theorem releasePipes_log (i : Instance) (world : World) :
    (i.releasePipes world).log = world.log :=
  i.releasePipes_keeps (P := fun after => after.log = world.log) rfl
    (fun after w same => (World.dropSink_log after w).trans same)
    fun after r same => (World.dropSource_log after r).trans same

theorem poll_looks (i : Instance) (world : World) : ∃ lines,
    (i.poll world).2.log = world.log ++ lines ∧
      i.standing.Looks lines (i.poll world).1.standing := by
  rcases i.poll_spec world with same | ⟨status, _, _, ⟨_, looked⟩ | ⟨running, looked⟩⟩
  · rw [same]
    exact ⟨[], (List.append_nil _).symm, .same _⟩
  · rw [looked]
    exact ⟨[], (List.append_nil _).symm, .same _⟩
  · rw [looked]
    refine ⟨[.exited i.name status.code], releasePipes_log _ _, ?_⟩
    unfold standing
    rw [running]
    exact .exited i.name status.code

theorem signal_log (i : Instance) (world : World) :
    (i.signal world).2.log = world.log ++ [.signalled i.name] := releasePipes_log _ _

/-- Starting a process puts nothing on record yet. -/
theorem start_log {name : String} {command : Command} {policy : ErrorPolicy} {i : Instance}
    {world after : World} (started : start name command policy world = .ok (i, after)) :
    after.log = world.log ∧ i.standing = ⟨name, .running⟩ := by
  obtain ⟨-, _, _, _, _, -, rfl, rfl⟩ := start_eq_ok_iff.1 started
  exact ⟨rfl, rfl⟩

/-- What comes of a kill: the signal is sent and put on record, or the kill comes too late, and what
the look before it showed is put on record. -/
inductive Kill (i : Instance) (id : AlgorithmId) (log : List LogEntry) :
    Except DriverError Unit × Instance × World → Prop
  | sent {i' : Instance} {after : World} (running : i.status = .running)
      (log' : after.log = log ++ [.signalled i.name]) (stands : i'.standing = ⟨i.name, .killed⟩) :
      Kill i id log (.ok (), i', after)
  | late {i' : Instance} {after : World} {lines : List LogEntry} (stopped : i'.status ≠ .running)
      (log' : after.log = log ++ lines) (looks : i.standing.Looks lines i'.standing) :
      Kill i id log (.error (.alreadyExited id), i', after)

theorem kill_cases (i : Instance) (id : AlgorithmId) (world : World) {meanwhile : World → World}
    (silent : World.Silent meanwhile) : i.Kill id world.log (i.kill id world meanwhile) := by
  obtain ⟨lines, log, looks⟩ := i.poll_looks world
  unfold kill
  generalize i.poll world = looked at log looks
  obtain ⟨j, after⟩ := looked
  dsimp only at log looks ⊢
  split
  · rename_i running
    -- The look before the signal showed nothing.
    obtain ⟨rfl, same⟩ := looks.of_running running
    have name : j.name = i.name := congrArg Standing.name same
    have status : i.status = .running := (congrArg Standing.status same).symm.trans running
    obtain ⟨more, log', looks'⟩ := (j.signal (meanwhile after)).1.poll_looks
      (meanwhile (j.signal (meanwhile after)).2)
    obtain ⟨rfl, stands⟩ := looks'.of_stopped (fun killed => nomatch killed)
    refine .sent status ?_ ?_
    · rw [log', silent, signal_log, silent, log, name, List.append_nil, List.append_nil]
    · rw [stands]
      exact congrArg (Standing.mk · Status.killed) name
  · rename_i stopped
    exact .late stopped log looks

/-- Waiting for a process that has ended puts nothing on record. -/
theorem reap_log (i : Instance) (world : World) : (i.reap world).2.log = world.log :=
  i.reap_keeps (P := fun after => after.log = world.log) rfl rfl rfl
    fun after same => (releasePipes_log i after).trans same

end Instance

namespace Driver

variable {id : AlgorithmId} {meanwhile : World → World}

theorem spawn_log {driver : Driver} {name : String} {i : Instance} {world after : World}
    (spawned : driver.spawn name world = .ok (i, after)) :
    after.log = world.log ∧ i.standing = ⟨name, .running⟩ := by
  obtain ⟨command, started⟩ := spawn_start spawned
  exact Instance.start_log started

/-- An instance that is left over is ended, or has ended. -/
theorem killLeftover_dismissed (i : Instance) (world : World) (silent : World.Silent meanwhile) :
    (killLeftover id i world meanwhile).1.status ≠ .running ∧ ∃ lines,
      (killLeftover id i world meanwhile).2.log = world.log ++ lines ∧
        i.standing.Dismissed id lines := by
  obtain ⟨lines, log, looks⟩ := i.poll_looks world
  unfold killLeftover
  generalize i.poll world = looked at log looks
  obtain ⟨j, after⟩ := looked
  dsimp only at log looks ⊢
  split
  · rename_i running
    obtain ⟨rfl, same⟩ := looks.of_running running
    have known : i.standing = ⟨j.name, .running⟩ := same ▸ congrArg (Standing.mk j.name) running
    rw [known]
    rw [List.append_nil] at log
    have killed := j.kill_cases id (meanwhile (after.record (.killingLeftover id j.name))) silent
    rw [silent, World.record_log, log] at killed
    generalize j.kill id _ _ = outcome at killed ⊢
    cases killed with
    | sent _ log' stands =>
      refine ⟨?_, _, log'.trans (List.append_assoc _ _ _), .killed j.name⟩
      exact fun running => nomatch (congrArg Standing.status stands).symm.trans running
    | late stopped log' looks' =>
      obtain ⟨code, rfl⟩ := looks'.exists_code running stopped
      refine ⟨stopped, _, ?_, .escaped j.name code⟩
      rw [World.record_log, log']
      simp only [List.append_assoc, List.cons_append, List.nil_append]
      rfl
  · rename_i stopped
    exact ⟨stopped, lines, log, looks.dismissed stopped id⟩

theorem tearDownInstance_dismissed (i : Instance) (world : World)
    (silent : World.Silent meanwhile) : ∃ lines,
    (tearDownInstance id i world meanwhile).log = world.log ++ lines ∧
      i.standing.Dismissed id lines := by
  obtain ⟨stopped, lines, log, dismissed⟩ := @killLeftover_dismissed id meanwhile i world silent
  unfold tearDownInstance
  generalize killLeftover id i world meanwhile = left at stopped log
  obtain ⟨j, after⟩ := left
  dsimp only at stopped log ⊢
  obtain ⟨more, log', looks⟩ := j.poll_looks (meanwhile after)
  obtain ⟨rfl, _⟩ := looks.of_stopped stopped
  refine ⟨lines, ?_, dismissed⟩
  rw [Instance.releasePipes_log]
  split
  · rw [Instance.reap_log, silent, log', List.append_nil, silent, log]
  · rw [log', List.append_nil, silent, log]

/-! ## Channels -/

/-- A channel that is not registered yet is not on record. -/
theorem acquireRead_log {path : String} {channel : Channel ReadHandle} {world after : World}
    (acquired : acquireRead path world = .ok (channel, after)) :
    after.log = world.log ∧ channel.path = path := by
  obtain ⟨-, _, _, _, _, rfl, rfl⟩ := acquireRead_eq_ok_iff.1 acquired
  exact ⟨rfl, rfl⟩

theorem acquireWrite_log {path : String} {channel : Channel WriteHandle} {world after : World}
    (acquired : acquireWrite path world = .ok (channel, after)) :
    after.log = world.log ∧ channel.path = path := by
  obtain ⟨-, _, _, _, rfl, rfl⟩ := acquireWrite_eq_ok_iff.1 acquired
  exact ⟨rfl, rfl⟩

theorem tearDownRead_log (id : ReadFileId) (channel : Channel ReadHandle) (world : World) :
    (tearDownRead id channel world).log =
      world.log ++ [.closingLeftover (.read id) channel.path] := by
  unfold tearDownRead
  rw [World.dropSource_log, World.closeSource_log]
  rfl

/-- What is put on record when what is pending in a channel cannot be flushed. -/
def flaw (id : WriteFileId) : Except StreamError Unit → List LogEntry
  | .ok () => []
  | .error e => [.cannotFlush id e]

theorem tearDownWrite_log (id : WriteFileId) (channel : Channel WriteHandle) (world : World) :
    ∃ r, (tearDownWrite id channel world).log =
      world.log ++ .closingLeftover (.write id) channel.path :: flaw id r := by
  have log := World.closeSink_log (world.record (.closingLeftover (.write id) channel.path))
    channel.pipe
  rcases closed : (world.record (.closingLeftover (.write id) channel.path)).closeSink channel.pipe
    with ⟨r, after⟩
  rw [closed] at log
  refine ⟨r, ?_⟩
  unfold tearDownWrite
  simp only [closed, World.dropSink_log]
  cases r with
  | ok _ => exact log
  | error e =>
    rw [World.record_log, log, World.record_log, List.append_assoc]
    rfl

end Driver

end AlgorithmDriver

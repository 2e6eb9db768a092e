import AlgorithmDriver.Proofs.Driver.Managing
import AlgorithmDriver.Proofs.Driver.TearDown

/-!
# A driver that is given up

A driver that is torn down leaves no process behind, and up to then it leaves processes alone.

* `Driver.tearDownInstance_waited` and `Driver.closeAll_waited`: the process of an instance has ended
  and has been waited for when the instance was torn down.
* Closing streams and opening files leaves all processes as they are (`World.closeSink_processes`,
  `Driver.acquireRead_processes` and the like).
-/

namespace AlgorithmDriver

/-! ## Processes that were waited for -/

/-- The process has ended, and somebody has waited for it. -/
def Host.Waited (host : Host) (number : Nat) : Prop :=
  ∃ p, host.process? number = some p ∧ p.reaped = true ∧ ∃ status, p.activity = .ended status

theorem World.Ahead.waited {world after : World} {number : Nat} (ahead : world.Ahead after)
    (waited : world.host.Waited number) : after.host.Waited number := by
  obtain ⟨p, found, told, status, ended⟩ := waited
  obtain ⟨q, found', kept⟩ := ahead.onward.processes number p found
  obtain ⟨_, found'', ended'⟩ := ahead.later number status ⟨p, found, ended⟩
  obtain rfl := Option.some.inj (found'.symm.trans found'')
  exact ⟨q, found', kept.reaped told, status, ended'⟩

namespace Instance

variable {i : Instance} {world : World} {deeds : List Deed} {id : AlgorithmId}

/-- Whatever comes of a kill, the instance is not running any more. -/
theorem Killed.stopped {i' : Instance} {r : Except DriverError Unit}
    (killed : Killed world id i r i') : i'.status ≠ .running := by
  cases killed with
  | refused _ stopped => exact stopped
  | done _ _ noted => exact noted ▸ Status.noConfusion

namespace Accounted

theorem record (accounted : i.Accounted world deeds) (entry : LogEntry) :
    i.Accounted (world.record entry) deeds :=
  accounted.ahead ⟨World.record_later world entry, World.record_onward world entry⟩

/-- An instance that was killed is accounted for, and not running any more. -/
theorem kill (accounted : i.Accounted world deeds) (id : AlgorithmId) :
    ∃ more, (i.kill id world).2.1.Accounted (i.kill id world).2.2 more ∧
      (i.kill id world).2.1.process = i.process := by
  have looked := accounted.poll
  have process := i.poll_process world
  unfold Instance.kill
  dsimp only
  split
  · rename_i running
    have signalled := looked.signal running
    exact ⟨_, signalled.poll, (Instance.poll_process _ _).trans process⟩
  · exact ⟨deeds, looked, process⟩

/-- No instance is left running. -/
theorem killLeftover (accounted : i.Accounted world deeds) (id : AlgorithmId) :
    ∃ more, (Driver.killLeftover id i world).1.Accounted (Driver.killLeftover id i world).2 more ∧
      (Driver.killLeftover id i world).1.process = i.process ∧
      (Driver.killLeftover id i world).1.status ≠ .running := by
  have looked := accounted.poll
  have process := i.poll_process world
  unfold Driver.killLeftover
  dsimp only
  split
  · obtain ⟨more, killed, same⟩ := (looked.record (.killingLeftover id (i.poll world).1.name)).kill id
    have gone := ((i.poll world).1.kill_killed id
      ((i.poll world).2.record (.killingLeftover id (i.poll world).1.name)) fun world => world).stopped
    split
    · rename_i outcome
      rw [outcome] at killed same gone
      exact ⟨more, killed, same.trans process, gone⟩
    · rename_i outcome
      rw [outcome] at killed same gone
      exact ⟨more, killed.record _, same.trans process, gone⟩
  · rename_i stopped
    exact ⟨deeds, looked, process, stopped⟩

theorem terminal (accounted : i.Accounted world deeds) (stopped : i.status ≠ .running) :
    i.status.isTerminal = true := by
  have known := accounted.known
  cases status : i.status with
  | running => exact absurd status stopped
  | notFound => exact absurd status known
  | exited => rfl
  | killed => rfl

end Accounted

end Instance

namespace Driver

variable {driver : Driver} {i : Instance} {world : World} {deeds : List Deed}

/-- Whoever tears an instance down waits for its process. -/
theorem tearDownInstance_waited (accounted : i.Accounted world deeds) (id : AlgorithmId) :
    (tearDownInstance id i world).host.Waited i.process := by
  obtain ⟨more, killed, process, stopped⟩ := accounted.killLeftover id
  unfold tearDownInstance
  generalize killLeftover id i world = left at killed process stopped ⊢
  obtain ⟨j, between⟩ := left
  have looked := killed.poll
  have still : (j.poll between).1.status ≠ .running :=
    (j.poll_looked between).status_of_stopped stopped ▸ stopped
  obtain ⟨reaped, told, _⟩ := looked.reap still
  have same : ((j.poll between).1.reap (j.poll between).2).1.process = i.process :=
    (Instance.reap_since _ _).process.trans ((j.poll_process between).trans process)
  have waited := reaped.waited told
  rw [same] at waited
  dsimp only
  rw [if_pos (looked.terminal still)]
  exact World.Ahead.waited ⟨Instance.releasePipes_later _ _, Instance.releasePipes_onward _ _⟩ waited

theorem closeAll_later (driver : Driver) (world : World) :
    world.Later (driver.closeAll world).2 := by
  have ended : world.Later (driver.drainAlgorithms world).2 := by
    refine foldl_later ?_ _ world
    rintro world ⟨id, i⟩
    exact tearDownInstance_later id i world World.progress_nothing
  exact ended.trans ((drainReads_aside _ _).later.trans (drainWrites_aside _ _).later)

/-- A driver with a single instance leaves no process behind. -/
theorem closeAll_waited {raw : Nat} (single : driver.algorithms.entries = [(raw, i)])
    (accounted : i.Accounted world deeds) :
    (driver.closeAll world).2.host.Waited i.process := by
  let taken := driver.drainAlgorithms world
  let read := taken.1.drainReads taken.2
  have ended : taken.2.host.Waited i.process := by
    show ((driver.algorithms.entries.map _).foldl _ world).host.Waited i.process
    rw [single]
    exact tearDownInstance_waited accounted _
  have reads : taken.2.Ahead read.2 :=
    ⟨(drainReads_aside taken.1 taken.2).later,
      (foldl_manages (fun _ _ => tearDownRead_manages _ _ _) _ _).spares.onward⟩
  have writes : read.2.Ahead (driver.closeAll world).2 :=
    ⟨(drainWrites_aside read.1 read.2).later,
      (foldl_manages (fun _ _ => tearDownWrite_manages _ _ _) _ _).spares.onward⟩
  exact (reads.trans writes).waited ended

end Driver

/-! ## Processes that are left alone -/

namespace World

theorem closeSource_processes (world : World) (r : ReadHandle) :
    (world.closeSource r).host.processes = world.host.processes := by
  rcases world.closeSource_host r with same | ⟨source, _, same⟩
  · rw [same]
  · rw [same, Host.release_processes]

theorem dropSource_processes (world : World) (r : ReadHandle) :
    (world.dropSource r).host.processes = world.host.processes := by
  rcases world.dropSource_host r with same | ⟨source, _, same⟩
  · rw [same]
  · rw [same, Host.release_processes]

theorem closeSink_processes (world : World) (w : WriteHandle) :
    (world.closeSink w).2.host.processes = world.host.processes := by
  cases isOpen : world.openSink? w with
  | none => rw [closeSink_of_shut isOpen]
  | some sink => rw [(closeSink_of_open isOpen).2, Host.release_processes, Sink.flush_processes]

theorem dropSink_processes (world : World) (w : WriteHandle) :
    (world.dropSink w).host.processes = world.host.processes := by
  cases found : world.sink? w with
  | none =>
    rw [dropSink_of_none found]
  | some shared =>
    by_cases last : shared.holders ≤ 1
    · have closed : (world.closeSink w).2.sink? w = some { shared with stream := none } :=
        sink?_of_set_self found (closeSink_sinks found)
      rw [dropSink_of_last found last closed]
      exact world.closeSink_processes w
    · rw [dropSink_of_more found (Nat.lt_of_not_le last)]
      rfl

theorem holdSource_processes (world : World) (r : ReadHandle) :
    (world.holdSource r).host.processes = world.host.processes := by
  unfold holdSource
  split <;> rfl

theorem holdSink_processes (world : World) (w : WriteHandle) :
    (world.holdSink w).host.processes = world.host.processes := by
  unfold holdSink
  split <;> rfl

end World

namespace Driver

variable {world after : World} {path : String}

theorem acquireRead_processes {channel : Channel ReadHandle}
    (opened : acquireRead path world = .ok (channel, after)) :
    after.host.processes = world.host.processes := by
  obtain ⟨-, _, _, made, _, _, rfl⟩ := acquireRead_eq_ok_iff.1 opened
  exact (Host.openRead_adds made).processes

theorem acquireWrite_processes {channel : Channel WriteHandle}
    (opened : acquireWrite path world = .ok (channel, after)) :
    after.host.processes = world.host.processes := by
  obtain ⟨-, _, _, made, _, rfl⟩ := acquireWrite_eq_ok_iff.1 opened
  exact (Host.openWrite_adds made).processes

theorem closeRead_processes (driver : Driver) (id : ReadFileId) (world : World) :
    (driver.closeRead id world).2.2.host.processes = world.host.processes := by
  unfold closeRead
  split
  · rfl
  · exact (World.dropSource_processes _ _).trans (World.closeSource_processes world _)

theorem closeWrite_processes (driver : Driver) (id : WriteFileId) (world : World) :
    (driver.closeWrite id world).2.2.host.processes = world.host.processes := by
  unfold closeWrite
  split
  · rfl
  · rename_i channel _
    have released := (World.dropSink_processes _ channel.pipe).trans
      (world.closeSink_processes channel.pipe)
    dsimp only
    split <;> exact released

end Driver

end AlgorithmDriver

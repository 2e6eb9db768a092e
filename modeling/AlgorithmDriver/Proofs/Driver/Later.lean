import AlgorithmDriver.Driver.Wait
import AlgorithmDriver.Proofs.Driver.Access
import AlgorithmDriver.Proofs.Driver.Outcomes
import AlgorithmDriver.Proofs.Host.Later

/-!
# What time does to the world of drivers

What callers do with streams, channels and instances never brings back a process that has ended, nor
changes how it ended: every operation leads to a later world.  Together with the same fact about the
steps of processes, this is all that an instance relies on about the rest of the machine.

* Streams: reading, writing, closing and dropping handles (`read_later`, `write_later`,
  `dropSource_later`, `dropSink_later`), also when this takes waiting (`waitFor_later`).
* Instances: starting, polling, signalling, killing and reaping (`Instance.start_later`,
  `Instance.poll_later`, `Instance.kill_later`, `Instance.reap_later`).
-/

namespace AlgorithmDriver

/-! ## Streams -/

theorem Source.read_processes {source source' : Source} {host after : Host} {count : Nat}
    {r : Except StreamError Bytes} (h : source.read host count = some (r, source', after)) :
    after.processes = host.processes := by
  rcases Source.read_through h with rfl | ⟨_, _, read⟩
  · rfl
  · exact Host.read_processes read

namespace Sink

theorem flush_processes (sink : Sink) (host : Host) :
    (sink.flush host).2.2.processes = host.processes := by
  rcases sink.flush_through host with same | ⟨_, written⟩
  · rw [same]
  · exact Host.write_processes written

theorem write_processes {sink sink' : Sink} {host after : Host} {data : Bytes}
    {r : Except StreamError Nat} (h : sink.write host data = some (r, sink', after)) :
    after.processes = host.processes :=
  write_through (R := fun before after => after.processes = before.processes) (fun _ => rfl)
    (fun first second => second.trans first) Host.write_processes h

end Sink

namespace World

/-- Every process that has ended `before` has ended in the same way `after`. -/
def Later (before after : World) : Prop := before.host.Later after.host

theorem Later.refl (world : World) : world.Later world := Host.Later.refl world.host

theorem Later.trans {a b c : World} (hab : a.Later b) (hbc : b.Later c) : a.Later c :=
  Host.Later.trans hab hbc

/-- What leaves the processes alone leads to a later world. -/
theorem Later.of_processes {before after : World}
    (h : after.host.processes = before.host.processes) : before.Later after :=
  Host.Later.of_processes h

/-- What happens meanwhile, whatever it is, only leads to later worlds. -/
def Progress (meanwhile : World → World) : Prop := ∀ world : World, world.Later (meanwhile world)

theorem progress_nothing : Progress fun world => world := Later.refl

theorem record_later (world : World) (entry : LogEntry) : world.Later (world.record entry) :=
  .of_processes rfl

theorem settle_later (world : World) : world.Later world.settle := Host.settle_later world.host

theorem advance_later (world : World) : world.Later world.advance :=
  Host.advance_later world.host

/-! ## Streams to read from -/

theorem holdSource_later (world : World) (handle : ReadHandle) :
    world.Later (world.holdSource handle) := by
  unfold holdSource
  split
  · exact .refl world
  · exact .of_processes rfl

theorem closeSource_later (world : World) (handle : ReadHandle) :
    world.Later (world.closeSource handle) := by
  unfold closeSource
  split
  · exact .of_processes (Host.release_processes _ _)
  · exact .refl world

theorem dropSource_later (world : World) (handle : ReadHandle) :
    world.Later (world.dropSource handle) :=
  dropSource_keeps (P := world.Later) (.refl world) (closeSource_later world handle)
    fun _ _ later => later.trans (.of_processes rfl)

theorem read_later {world after : World} {handle : ReadHandle} {count : Nat}
    {r : Except StreamError Bytes} (h : world.read handle count = some (r, after)) :
    world.Later after := by
  rcases read_outcome h with ⟨-, -, rfl⟩ | ⟨_, _, _, _, -, done, rfl⟩
  · exact .refl _
  · exact .of_processes (Source.read_processes done)

/-! ## Streams to write to -/

theorem holdSink_later (world : World) (handle : WriteHandle) :
    world.Later (world.holdSink handle) := by
  unfold holdSink
  split
  · exact .refl world
  · exact .of_processes rfl

theorem closeSink_later (world : World) (handle : WriteHandle) :
    world.Later (world.closeSink handle).2 := by
  unfold closeSink
  split
  · refine .of_processes ((Host.release_processes _ _).trans ?_)
    exact Sink.flush_processes _ _
  · exact .refl world

theorem dropSink_later (world : World) (handle : WriteHandle) :
    world.Later (world.dropSink handle) :=
  dropSink_keeps (P := world.Later) (.refl world) (closeSink_later world handle)
    fun _ _ later => later.trans (.of_processes rfl)

theorem write_later {world after : World} {handle : WriteHandle} {data : Bytes}
    {r : Except StreamError Nat} (h : world.write handle data = some (r, after)) :
    world.Later after := by
  rcases write_outcome h with ⟨-, -, rfl⟩ | ⟨_, _, _, _, -, done, rfl⟩
  · exact .refl _
  · exact .of_processes (Sink.write_processes done)

theorem flush_later (world : World) (handle : WriteHandle) :
    world.Later (world.flush handle).2 := by
  unfold flush
  split
  · exact .of_processes (Sink.flush_processes _ _)
  · exact .refl world

/-! ## Operations that wait -/

/-- Trying again and again leads to a later world if each try does. -/
theorem waitFor_later {α : Type} {attempt : World → Option (α × World)}
    (each : ∀ {world after : World} {r : α}, attempt world = some (r, after) → world.Later after)
    (otherwise : α) (tries : Nat) (world : World) :
    world.Later (waitFor attempt otherwise tries world).2 := by
  induction tries generalizing world with
  | zero => exact .refl world
  | succ tries ih =>
    rw [waitFor]
    split
    · rename_i outcome
      exact each outcome
    · dsimp only
      split
      · exact .refl world
      · exact (advance_later world).trans (ih _)

theorem readOnce_later (world : World) (handle : ReadHandle) (count : Nat) :
    world.Later (world.readOnce handle count).2 :=
  waitFor_later read_later _ _ world

theorem readExact_go_later (handle : ReadHandle) (fuel count : Nat) (chunks : List Bytes)
    (world : World) : world.Later (readExact.go handle fuel count chunks world).2 := by
  induction fuel generalizing count chunks world with
  | zero => exact .refl world
  | succ fuel ih =>
    have once := readOnce_later world handle count
    rw [readExact.go]
    split
    · exact .refl world
    · split <;> rename_i outcome <;> rw [outcome] at once
      · exact once
      · exact once
      · exact once.trans (ih _ _ _)

theorem readExact_later (world : World) (handle : ReadHandle) (count : Nat) :
    world.Later (world.readExact handle count).2 :=
  readExact_go_later handle loopLimit count [] world

theorem readLine_go_later (handle : ReadHandle) (fuel : Nat) (line : Bytes) (world : World) :
    world.Later (readLine.go handle fuel line world).2 := by
  induction fuel generalizing line world with
  | zero => exact .refl world
  | succ fuel ih =>
    have once := readOnce_later world handle 1
    rw [readLine.go]
    split <;> rename_i outcome <;> rw [outcome] at once
    · exact once
    · split
      · exact once
      · exact once.trans (ih _ _)
    · exact once

theorem readLine_later (world : World) (handle : ReadHandle) :
    world.Later (world.readLine handle).2 :=
  readLine_go_later handle loopLimit [] world

theorem readAll_go_later (handle : ReadHandle) (fuel : Nat) (chunks : List Bytes)
    (world : World) : world.Later (readAll.go handle fuel chunks world).2 := by
  induction fuel generalizing chunks world with
  | zero => exact .refl world
  | succ fuel ih =>
    have once := readOnce_later world handle bufferSize
    rw [readAll.go]
    split <;> rename_i outcome <;> rw [outcome] at once
    · exact once
    · exact once
    · exact once.trans (ih _ _)

theorem readAll_later (world : World) (handle : ReadHandle) :
    world.Later (world.readAll handle).2 :=
  readAll_go_later handle loopLimit [] world

theorem writeOnce_go_later {attempt : Bytes → World → Except StreamError Nat × World}
    (each : ∀ (data : Bytes) (world : World), world.Later (attempt data world).2)
    (fuel written : Nat) (data : Bytes)
    (world : World) : world.Later (writeOnce.go attempt fuel written data world).2 := by
  induction fuel generalizing written data world with
  | zero => exact .refl world
  | succ fuel ih =>
    have once := each data world
    rw [writeOnce.go]
    split
    · exact .refl world
    · split <;> rename_i outcome <;> rw [outcome] at once
      · exact once
      · exact once.trans (ih _ _ _)

theorem writeOnce_later (world : World) (handle : WriteHandle) (data : Bytes) :
    world.Later (world.writeOnce handle data).2 := by
  have each : ∀ (data : Bytes) (world : World), world.Later
      (waitFor (fun world => world.write handle data) (.ok data.length) patience world).2 :=
    fun data world => waitFor_later write_later _ _ world
  unfold writeOnce
  dsimp only
  split
  · exact each data world
  · exact writeOnce_go_later each _ 0 data world

theorem writeAll_go_later (handle : WriteHandle) (fuel : Nat) (data : Bytes) (world : World) :
    world.Later (writeAll.go handle fuel data world).2 := by
  induction fuel generalizing data world with
  | zero => exact .refl world
  | succ fuel ih =>
    have once := writeOnce_later world handle data
    rw [writeAll.go]
    split
    · exact .refl world
    · split <;> rename_i outcome <;> rw [outcome] at once
      · exact once
      · exact once.trans (ih _ _)

theorem writeAll_later (world : World) (handle : WriteHandle) (data : Bytes) :
    world.Later (world.writeAll handle data).2 :=
  writeAll_go_later handle _ data world

theorem copy_go_later (source : ReadHandle) (sink : WriteHandle) (fuel copied : Nat)
    (world : World) : world.Later (copy.go source sink fuel copied world).2 := by
  induction fuel generalizing copied world with
  | zero => exact .refl world
  | succ fuel ih =>
    have once := readOnce_later world source bufferSize
    rw [copy.go]
    split <;> rename_i outcome <;> rw [outcome] at once
    · exact once
    · exact once
    · rename_i bytes between _
      have written := once.trans (writeAll_later between sink bytes)
      split <;> rename_i outcome <;> rw [outcome] at written
      · exact written
      · exact written.trans (ih _ _)

theorem copy_later (world : World) (source : ReadHandle) (sink : WriteHandle) :
    world.Later (world.copy source sink).2 :=
  copy_go_later source sink loopLimit 0 world

end World

/-! ## Instances -/

namespace Instance

theorem openErrors_later {policy : ErrorPolicy} {world : World} {errors : Nat} {host : Host}
    (h : openErrors policy world = .ok (errors, host)) : world.host.Later host := by
  unfold openErrors at h
  split at h
  · cases h
    exact .of_processes (Host.hold_processes _ _)
  · exact .of_processes (Host.openWrite_adds h).processes

/-- A started instance is running and was not waited for; the processes that ended earlier stay so.
-/
theorem start_later {name : String} {command : Command} {policy : ErrorPolicy}
    {world after : World} {i : Instance}
    (h : start name command policy world = .ok (i, after)) :
    world.Later after ∧ i.status = .running ∧ i.reaped = false := by
  obtain ⟨-, errors, host, program, opened, -, rfl, rfl⟩ := start_eq_ok_iff.1 h
  refine ⟨Host.Later.trans (openErrors_later opened) ?_, rfl, rfl⟩
  exact Host.Later.trans (.of_processes rfl) (Host.start_later _ _ _ _ _)

theorem releasePipes_later (i : Instance) (world : World) :
    world.Later (i.releasePipes world) :=
  i.releasePipes_keeps (P := world.Later) (.refl world)
    (fun after w later => later.trans (World.dropSink_later after w))
    fun after r later => later.trans (World.dropSource_later after r)

theorem poll_later (i : Instance) (world : World) : world.Later (i.poll world).2 :=
  i.poll_keeps (P := world.Later) (.refl world)
    (Host.tryWait_sameActivities world.host i.process).later
    (fun after entry later => later.trans (World.record_later after entry))
    fun after later => later.trans (releasePipes_later i after)

theorem signal_later (i : Instance) (world : World) : world.Later (i.signal world).2 := by
  have sent : world.Later { world with host := world.host.send i.process Signal.kill } :=
    (Host.send_sameActivities _ _ _).later
  exact sent.trans ((World.record_later _ _).trans (releasePipes_later i _))

theorem kill_later (i : Instance) (id : AlgorithmId) (world : World)
    {meanwhile : World → World} (progress : World.Progress meanwhile) :
    world.Later (i.kill id world meanwhile).2.2 := by
  unfold kill
  dsimp only
  split
  · refine (poll_later i world).trans ((progress _).trans ?_)
    exact (signal_later _ _).trans ((progress _).trans (poll_later _ _))
  · exact poll_later i world

theorem reap_later (i : Instance) (world : World) : world.Later (i.reap world).2 := by
  have delivered := Host.deliver_later world.host i.process
  have asked := Host.tryWait_sameActivities (world.host.deliver i.process) i.process
  exact i.reap_keeps (P := world.Later) (.refl world) delivered (delivered.trans asked.later)
    fun after later => later.trans (releasePipes_later i after)

end Instance

end AlgorithmDriver

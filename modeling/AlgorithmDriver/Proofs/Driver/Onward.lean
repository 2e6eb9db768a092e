import AlgorithmDriver.Proofs.Driver.Operations
import AlgorithmDriver.Proofs.Host.Onward

/-!
# What callers never take back

Whatever callers do with streams, channels and instances, no process and no description is lost, and
what is known of a process stays known: every operation leads onward, as every step of a process
does.
-/

namespace AlgorithmDriver

/-! ## Streams -/

theorem Source.read_onward {source source' : Source} {host after : Host} {count : Nat}
    {r : Except StreamError Bytes} (h : source.read host count = some (r, source', after)) :
    host.Onward after := by
  rcases Source.read_through h with rfl | ⟨_, _, read⟩
  · exact .refl _
  · exact Host.read_onward read

namespace Sink

theorem flush_onward (sink : Sink) (host : Host) : host.Onward (sink.flush host).2.2 := by
  rcases sink.flush_through host with same | ⟨_, written⟩
  · rw [same]
    exact .refl host
  · exact Host.write_onward written

theorem write_onward {sink sink' : Sink} {host after : Host} {data : Bytes}
    {r : Except StreamError Nat} (h : sink.write host data = some (r, sink', after)) :
    host.Onward after :=
  write_through Host.Onward.refl (fun first second => first.trans second) Host.write_onward h

end Sink

namespace World

/-- No process and no description is lost, nor what is known of a process. -/
def Onward (before after : World) : Prop := before.host.Onward after.host

variable {world after : World}

theorem Onward.refl (world : World) : world.Onward world := Host.Onward.refl world.host

theorem Onward.trans {a b c : World} (hab : a.Onward b) (hbc : b.Onward c) : a.Onward c :=
  Host.Onward.trans hab hbc

theorem record_onward (world : World) (entry : LogEntry) : world.Onward (world.record entry) :=
  .refl world

theorem holdSource_onward (world : World) (r : ReadHandle) : world.Onward (world.holdSource r) := by
  unfold holdSource
  split <;> exact .refl world

theorem closeSource_onward (world : World) (r : ReadHandle) :
    world.Onward (world.closeSource r) := by
  unfold closeSource
  split
  · exact Host.release_onward _ _
  · exact .refl world

theorem dropSource_onward (world : World) (r : ReadHandle) : world.Onward (world.dropSource r) :=
  dropSource_keeps (P := world.Onward) (.refl world) (closeSource_onward world r) fun _ _ => id

theorem read_onward {r : ReadHandle} {count : Nat} {result : Except StreamError Bytes}
    (h : world.read r count = some (result, after)) : world.Onward after := by
  rcases read_outcome h with ⟨-, -, rfl⟩ | ⟨_, _, _, _, -, done, rfl⟩
  · exact .refl _
  · exact Source.read_onward done

theorem holdSink_onward (world : World) (w : WriteHandle) : world.Onward (world.holdSink w) := by
  unfold holdSink
  split <;> exact .refl world

theorem closeSink_onward (world : World) (w : WriteHandle) :
    world.Onward (world.closeSink w).2 := by
  unfold closeSink
  split
  · exact Host.Onward.trans (Sink.flush_onward _ _) (Host.release_onward _ _)
  · exact .refl world

theorem dropSink_onward (world : World) (w : WriteHandle) : world.Onward (world.dropSink w) :=
  dropSink_keeps (P := world.Onward) (.refl world) (closeSink_onward world w) fun _ _ => id

theorem write_onward {w : WriteHandle} {data : Bytes} {result : Except StreamError Nat}
    (h : world.write w data = some (result, after)) : world.Onward after := by
  rcases write_outcome h with ⟨-, -, rfl⟩ | ⟨_, _, _, _, -, done, rfl⟩
  · exact .refl _
  · exact Sink.write_onward done

theorem flush_onward (world : World) (w : WriteHandle) : world.Onward (world.flush w).2 := by
  unfold flush
  split
  · exact Sink.flush_onward _ _
  · exact .refl world

end World

/-! ## Instances and channels -/

namespace Instance

theorem openErrors_onward {policy : ErrorPolicy} {world : World} {errors : Nat} {host : Host}
    (h : openErrors policy world = .ok (errors, host)) : world.host.Onward host := by
  unfold openErrors at h
  split at h
  · cases h
    exact Host.hold_onward _ _
  · exact (Host.openWrite_adds h).onward

theorem start_onward {name : String} {command : Command} {policy : ErrorPolicy}
    {world after : World} {i : Instance} (h : start name command policy world = .ok (i, after)) :
    world.Onward after := by
  obtain ⟨-, errors, host, program, opened, -, rfl, rfl⟩ := start_eq_ok_iff.1 h
  exact (((openErrors_onward opened).trans (Host.makePipe_onward _)).trans
    (Host.makePipe_onward _)).trans (Host.start_onward _ _ _ _ _)

theorem releasePipes_onward (i : Instance) (world : World) :
    world.Onward (i.releasePipes world) :=
  i.releasePipes_keeps (P := world.Onward) (.refl world)
    (fun after w onward => onward.trans (World.dropSink_onward after w))
    fun after r onward => onward.trans (World.dropSource_onward after r)

theorem poll_onward (i : Instance) (world : World) : world.Onward (i.poll world).2 :=
  i.poll_keeps (P := world.Onward) (.refl world) (Host.tryWait_onward world.host i.process)
    (fun _ _ => id) fun after onward => onward.trans (releasePipes_onward i after)

theorem signal_onward (i : Instance) (world : World) : world.Onward (i.signal world).2 := by
  have sent := Host.send_onward world.host i.process Signal.kill
  exact Host.Onward.trans sent (releasePipes_onward i (World.record { world with host := _ } _))

theorem reap_onward (i : Instance) (world : World) : world.Onward (i.reap world).2 := by
  have delivered := Host.deliver_onward world.host i.process
  exact i.reap_keeps (P := world.Onward) (.refl world) delivered
    (delivered.trans (Host.tryWait_onward (world.host.deliver i.process) i.process))
    fun after onward => onward.trans (releasePipes_onward i after)

end Instance

namespace Driver

variable {world after : World}

theorem acquireRead_onward {path : String} {channel : Channel ReadHandle}
    (h : acquireRead path world = .ok (channel, after)) : world.Onward after := by
  obtain ⟨-, description, host, opened, -, -, rfl⟩ := acquireRead_eq_ok_iff.1 h
  exact (Host.openRead_adds opened).onward

theorem acquireWrite_onward {path : String} {channel : Channel WriteHandle}
    (h : acquireWrite path world = .ok (channel, after)) : world.Onward after := by
  obtain ⟨-, description, host, opened, -, rfl⟩ := acquireWrite_eq_ok_iff.1 h
  exact (Host.openWrite_adds opened).onward

end Driver

end AlgorithmDriver

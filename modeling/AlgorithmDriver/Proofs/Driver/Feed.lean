import AlgorithmDriver.Proofs.Driver.Access
import AlgorithmDriver.Proofs.Host.WriteEnd

/-!
# A stream that feeds a process

The driver writes to the input of a process through a stream without a buffer, which callers may
hold handles of.  This module follows one such stream, whatever is done with its handles.

* `Feeds` says how often the stream is held and whether it is open.  Copying, dropping and closing
  handles changes this as it should (`Feeds.holdSink`, `Feeds.dropSink`, `Feeds.closeSink`): the
  stream is closed by closing any handle, or by dropping the last.
* `Exclusive` says that the driver has the write end of the pipe to itself and holds it exactly as
  long as the stream is open.  So the pipe has a writer as long as the stream is open
  (`Exclusive.hasWriter_iff`).
-/

namespace AlgorithmDriver.World

variable {world after : World} {w : WriteHandle} {d pipe holders : Nat} {isOpen : Prop}

/-! ## Sinks and sources -/

theorem sink?_setSink_self {old new : Shared Sink} (found : world.sink? w = some old) :
    (world.setSink w new).sink? w = some new :=
  List.getElem?_set_self (List.getElem?_eq_some_iff.1 found).1

theorem closeSource_sinks (world : World) (r : ReadHandle) :
    (world.closeSource r).sinks = world.sinks := by
  unfold closeSource
  split <;> rfl

theorem dropSource_sinks (world : World) (r : ReadHandle) :
    (world.dropSource r).sinks = world.sinks :=
  dropSource_keeps (P := fun after => after.sinks = world.sinks) rfl (closeSource_sinks world r)
    fun _ _ => id

/-! ## The stream -/

/-- The stream of `w` writes to the description `d` as it gets the data.  It is held `holders`
times, and it is open or was closed. -/
inductive Feeds (world : World) (w : WriteHandle) (d : Nat) (isOpen : Prop) (holders : Nat) : Prop
  | flowing (flows : isOpen)
      (sink : world.sink? w = some { stream := some { description := d, capacity := 0 }, holders })
  | ended (ends : ¬ isOpen) (sink : world.sink? w = some { stream := none, holders })

namespace Feeds

theorem of_iff {isOpen' : Prop} (feeds : world.Feeds w d isOpen holders)
    (same : isOpen ↔ isOpen') : world.Feeds w d isOpen' holders := by
  cases feeds with
  | flowing flows sink => exact .flowing (same.1 flows) sink
  | ended ends sink => exact .ended (fun h => ends (same.2 h)) sink

/-- Only the sinks matter. -/
theorem of_sinks (feeds : world.Feeds w d isOpen holders) (same : after.sinks = world.sinks) :
    after.Feeds w d isOpen holders := by
  have found : after.sink? w = world.sink? w := congrArg (·[w.number]?) same
  cases feeds with
  | flowing flows sink => exact .flowing flows (found.trans sink)
  | ended ends sink => exact .ended ends (found.trans sink)

theorem isWritable_iff (feeds : world.Feeds w d isOpen holders) :
    world.isWritable w = true ↔ isOpen := by
  unfold isWritable
  cases feeds with
  | flowing flows sink =>
    rw [sink]
    exact ⟨fun _ => flows, fun _ => rfl⟩
  | ended ends sink =>
    rw [sink]
    exact ⟨fun h => (nomatch h), fun h => absurd h ends⟩

theorem isAlive_iff (feeds : world.Feeds w d isOpen holders) :
    world.isAlive w = true ↔ 0 < holders := by
  unfold isAlive
  cases feeds with
  | flowing _ sink =>
    rw [sink]
    exact decide_eq_true_iff
  | ended _ sink =>
    rw [sink]
    exact decide_eq_true_iff

theorem holdSink (feeds : world.Feeds w d isOpen holders) :
    (world.holdSink w).Feeds w d isOpen (holders + 1) := by
  unfold World.holdSink
  cases feeds with
  | flowing flows sink =>
    rw [sink]
    exact .flowing flows (sink?_setSink_self sink)
  | ended ends sink =>
    rw [sink]
    exact .ended ends (sink?_setSink_self sink)

end Feeds

/-! ## Closing -/

theorem closeSink_of_flowing
    (sink : world.sink? w = some { stream := some { description := d, capacity := 0 }, holders }) :
    (world.closeSink w).2 =
      { world with host := world.host.release d }.setSink w { stream := none, holders } := by
  unfold closeSink
  rw [sink]
  rfl

theorem closeSink_of_ended (sink : world.sink? w = some { stream := none, holders }) :
    (world.closeSink w).2 = world := by
  unfold closeSink
  rw [sink]

theorem Feeds.closeSink (feeds : world.Feeds w d isOpen holders) :
    (world.closeSink w).2.Feeds w d False holders := by
  cases feeds with
  | flowing _ sink =>
    rw [closeSink_of_flowing sink]
    exact .ended id (sink?_setSink_self sink)
  | ended _ sink =>
    rw [closeSink_of_ended sink]
    exact .ended id sink

/-- Dropping a handle closes the stream if it was the last one, and counts one less. -/
theorem dropSink_of_last {shared : Shared Sink} (sink : world.sink? w = some shared)
    (last : shared.holders ≤ 1) {closed : Shared Sink}
    (found : (world.closeSink w).2.sink? w = some closed) :
    world.dropSink w =
      (world.closeSink w).2.setSink w { closed with holders := closed.holders - 1 } := by
  unfold dropSink
  rw [sink]
  dsimp only
  rw [if_pos last, found]

theorem dropSink_of_more {shared : Shared Sink} (sink : world.sink? w = some shared)
    (more : 1 < shared.holders) :
    world.dropSink w = world.setSink w { shared with holders := shared.holders - 1 } := by
  unfold dropSink
  rw [sink]
  dsimp only
  rw [if_neg (Nat.not_le_of_gt more), sink]

theorem Feeds.dropSink (feeds : world.Feeds w d isOpen holders) :
    (world.dropSink w).Feeds w d (isOpen ∧ 1 < holders) (holders - 1) := by
  rcases Nat.lt_or_ge 1 holders with more | last
  · cases feeds with
    | flowing flows sink =>
      rw [dropSink_of_more sink more]
      exact .flowing ⟨flows, more⟩ (sink?_setSink_self sink)
    | ended ends sink =>
      rw [dropSink_of_more sink more]
      exact .ended (fun h => ends h.1) (sink?_setSink_self sink)
  · have apart : ¬ (isOpen ∧ 1 < holders) := fun h => Nat.not_lt_of_ge last h.2
    have held : ∃ shared, world.sink? w = some shared ∧ shared.holders ≤ 1 := by
      cases feeds with
      | flowing _ sink => exact ⟨_, sink, last⟩
      | ended _ sink => exact ⟨_, sink, last⟩
    obtain ⟨shared, sink, last⟩ := held
    cases feeds.closeSink with
    | flowing flows _ => exact flows.elim
    | ended _ closed =>
      rw [dropSink_of_last sink last closed]
      exact .ended apart (sink?_setSink_self closed)

/-! ## Writing -/

theorem Feeds.write (feeds : world.Feeds w d isOpen holders) {data : Bytes}
    {r : Except StreamError Nat} (h : world.write w data = some (r, after)) :
    after.Feeds w d isOpen holders := by
  unfold World.write at h
  cases feeds with
  | flowing flows sink =>
    rw [sink] at h
    obtain ⟨⟨answer, sink', host⟩, written, answered⟩ := Option.map_eq_some_iff.1 h
    obtain ⟨⟨answer', host'⟩, direct, outcome⟩ := Option.map_eq_some_iff.1 written
    cases answer' <;> cases outcome <;> cases answered <;>
      exact .flowing flows (sink?_setSink_self sink)
  | ended ends sink =>
    rw [sink] at h
    cases h
    exact .ended ends sink

theorem Feeds.flush (feeds : world.Feeds w d isOpen holders) :
    (world.flush w).2.Feeds w d isOpen holders := by
  unfold World.flush
  cases feeds with
  | flowing flows sink =>
    rw [sink]
    exact .flowing flows (sink?_setSink_self sink)
  | ended ends sink =>
    rw [sink]
    exact .ended ends sink

/-! ## The write end -/

/-- The driver has the write end of the pipe to itself, and holds it as long as the stream is open.
No source reads from it. -/
structure Exclusive (world : World) (w : WriteHandle) (d pipe : Nat) : Prop where
  host : world.host.SoleWriter d pipe (world.isWritable w).toNat
  sources : ∀ shared ∈ world.sources, ∀ source, shared.stream = some source →
    source.description ≠ d

namespace Exclusive

theorem hasWriter_iff (exclusive : world.Exclusive w d pipe) :
    world.host.hasWriter pipe = true ↔ world.isWritable w = true := by
  rw [exclusive.host.hasWriter_iff]
  cases world.isWritable w <;> decide

/-- The stream and the sources stay, and so does whoever has the write end. -/
theorem of_streams (exclusive : world.Exclusive w d pipe) (sinks : after.sinks = world.sinks)
    (sources : after.sources = world.sources)
    (host : ∀ holders, world.host.SoleWriter d pipe holders →
      after.host.SoleWriter d pipe holders) : after.Exclusive w d pipe where
  host := by
    have same : after.isWritable w = world.isWritable w := by
      unfold isWritable sink?
      rw [sinks]
    rw [same]
    exact host _ exclusive.host
  sources := sources ▸ exclusive.sources

/-- The stream stays as open as it was. -/
theorem setSink (exclusive : world.Exclusive w d pipe) {host : Host} {old new : Shared Sink}
    (kept : ∀ holders, world.host.SoleWriter d pipe holders → host.SoleWriter d pipe holders)
    (found : world.sink? w = some old) (same : new.stream.isSome = old.stream.isSome) :
    ({ world with host }.setSink w new).Exclusive w d pipe where
  host := by
    have open' (shared : Shared Sink) {world : World} (h : world.sink? w = some shared) :
        world.isWritable w = shared.stream.isSome := by
      unfold isWritable
      rw [h]
      obtain ⟨_ | _, _⟩ := shared <;> rfl
    have after : ({ world with host }.setSink w new).sink? w = some new := sink?_setSink_self found
    rw [open' new after, same, ← open' old found]
    exact kept _ exclusive.host
  sources := exclusive.sources

theorem holdSink (exclusive : world.Exclusive w d pipe) :
    (world.holdSink w).Exclusive w d pipe := by
  unfold World.holdSink
  split
  · exact exclusive
  · rename_i found
    exact exclusive.setSink (fun _ kept => kept) found rfl

theorem closeSink (exclusive : world.Exclusive w d pipe)
    (feeds : world.Feeds w d isOpen holders) : (world.closeSink w).2.Exclusive w d pipe := by
  have shut : (world.closeSink w).2.isWritable w = false :=
    Bool.eq_false_iff.2 fun h => (feeds.closeSink.isWritable_iff.1 h).elim
  cases feeds with
  | flowing flows sink =>
    have was : world.isWritable w = true := (Feeds.flowing flows sink).isWritable_iff.2 flows
    have host := exclusive.host
    rw [was] at host
    refine ⟨?_, ?_⟩
    · rw [shut, closeSink_of_flowing sink]
      exact host.release_self
    · rw [closeSink_of_flowing sink]
      exact exclusive.sources
  | ended _ sink =>
    rw [closeSink_of_ended sink]
    exact exclusive

theorem dropSink (exclusive : world.Exclusive w d pipe)
    (feeds : world.Feeds w d isOpen holders) : (world.dropSink w).Exclusive w d pipe := by
  have held : ∃ shared, world.sink? w = some shared := by
    cases feeds with
    | flowing _ sink => exact ⟨_, sink⟩
    | ended _ sink => exact ⟨_, sink⟩
  obtain ⟨shared, sink⟩ := held
  rcases Nat.lt_or_ge 1 shared.holders with more | last
  · rw [dropSink_of_more sink more]
    exact exclusive.setSink (fun _ kept => kept) sink rfl
  · have closed := exclusive.closeSink feeds
    cases feeds.closeSink with
    | flowing flows _ => exact flows.elim
    | ended _ found =>
      rw [dropSink_of_last sink last found]
      exact closed.setSink (fun _ kept => kept) found rfl

theorem write (exclusive : world.Exclusive w d pipe) (feeds : world.Feeds w d isOpen holders)
    {data : Bytes} {r : Except StreamError Nat} (h : world.write w data = some (r, after)) :
    after.Exclusive w d pipe := by
  unfold World.write at h
  cases feeds with
  | flowing flows sink =>
    rw [sink] at h
    obtain ⟨⟨answer, sink', host⟩, written, answered⟩ := Option.map_eq_some_iff.1 h
    obtain ⟨⟨answer', host'⟩, direct, outcome⟩ := Option.map_eq_some_iff.1 written
    cases answer' <;> cases outcome <;> cases answered <;>
      exact exclusive.setSink (fun _ kept => kept.write direct) sink rfl
  | ended ends sink =>
    rw [sink] at h
    cases h
    exact exclusive

theorem flush (exclusive : world.Exclusive w d pipe) (feeds : world.Feeds w d isOpen holders) :
    (world.flush w).2.Exclusive w d pipe := by
  unfold World.flush
  cases feeds with
  | flowing flows sink =>
    rw [sink]
    exact exclusive.setSink (fun _ kept => kept) sink rfl
  | ended ends sink =>
    rw [sink]
    exact exclusive

/-! ## Sources -/

theorem setSource (exclusive : world.Exclusive w d pipe) {r : ReadHandle} {shared : Shared Source}
    (apart : ∀ source, shared.stream = some source → source.description ≠ d) :
    (world.setSource r shared).Exclusive w d pipe where
  host := exclusive.host
  sources other mem := by
    rcases List.mem_or_eq_of_mem_set mem with old | rfl
    · exact exclusive.sources other old
    · exact apart

theorem closeSource (exclusive : world.Exclusive w d pipe) (r : ReadHandle) :
    (world.closeSource r).Exclusive w d pipe := by
  unfold World.closeSource
  split
  · rename_i source holders found
    have apart := exclusive.sources _ (List.mem_of_getElem? found) source rfl
    have released : { world with host := world.host.release source.description }.Exclusive w d
        pipe := exclusive.of_streams rfl rfl fun _ kept => kept.release apart
    exact released.setSource fun _ h => nomatch h
  · exact exclusive

theorem dropSource (exclusive : world.Exclusive w d pipe) (r : ReadHandle) :
    (world.dropSource r).Exclusive w d pipe := by
  unfold World.dropSource
  split
  · exact exclusive
  · rename_i shared _
    have closed : (if shared.holders ≤ 1 then world.closeSource r else world).Exclusive w d
        pipe := by
      split
      · exact exclusive.closeSource r
      · exact exclusive
    dsimp only
    split
    · exact closed
    · rename_i kept found
      have apart := closed.sources kept (List.mem_of_getElem? found)
      exact closed.setSource apart

end Exclusive

end AlgorithmDriver.World

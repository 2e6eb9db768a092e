import AlgorithmDriver.Driver.Instance

/-!
# What streams do

All that can become of the host and of the world when a stream is read, written, flushed or dropped.

* A stream stays that of its description (`Source.Same`, `Sink.Same`), and through it the host is only
  read or written (`Source.read_through`, `Sink.flush_through`, `Sink.write_through`).
* `World.read_outcome`, `World.write_outcome`, `World.flush_outcome` — a handle whose stream is closed is of
  no use; otherwise its stream is used, and nothing else in the world is.
* `World.dropSource_keeps`, `World.dropSink_keeps` — dropping a handle closes its stream and counts, or
  only counts.
-/

namespace AlgorithmDriver

/-! ## Streams and what they are connected to -/

/-- A source stays that of its description. -/
structure Source.Same (source source' : Source) : Prop where
  description : source'.description = source.description
  capacity : source'.capacity = source.capacity

/-- A sink stays that of its description. -/
structure Sink.Same (sink sink' : Sink) : Prop where
  description : sink'.description = sink.description
  capacity : sink'.capacity = sink.capacity

theorem Source.Same.refl (source : Source) : source.Same source := ⟨rfl, rfl⟩

theorem Sink.Same.refl (sink : Sink) : sink.Same sink := ⟨rfl, rfl⟩

theorem Source.read_same {source source' : Source} {host after : Host} {count : Nat}
    {r : Except StreamError Bytes} (h : source.read host count = some (r, source', after)) :
    source.Same source' := by
  unfold read readDirect at h
  split at h
  · obtain ⟨⟨answer, _⟩, _, answered⟩ := Option.map_eq_some_iff.1 h
    cases answer <;> cases answered <;> exact ⟨rfl, rfl⟩
  · split at h
    · obtain ⟨⟨answer, _⟩, _, answered⟩ := Option.map_eq_some_iff.1 h
      cases answer <;> cases answered <;> exact ⟨rfl, rfl⟩
    · cases h
      exact ⟨rfl, rfl⟩

namespace Sink

variable {sink sink' : Sink} {host after : Host} {data : Bytes} {r : Except StreamError Nat}

theorem flush_same (sink : Sink) (host : Host) : sink.Same (sink.flush host).2.1 := by
  unfold flush
  split
  · exact ⟨rfl, rfl⟩
  · split <;> exact ⟨rfl, rfl⟩

theorem writeDirect_same {sink sink' : Sink} {host after : Host} {data : Bytes}
    {r : Except StreamError Nat} (h : sink.writeDirect host data = some (r, sink', after)) :
    sink' = sink := by
  obtain ⟨⟨answer, _⟩, _, answered⟩ := Option.map_eq_some_iff.1 h
  cases answer <;> cases answered <;> rfl

theorem write_same {sink sink' : Sink} {host after : Host} {data : Bytes}
    {r : Except StreamError Nat} (h : sink.write host data = some (r, sink', after)) :
    sink.Same sink' := by
  unfold write at h
  split at h
  · rw [writeDirect_same h]
    exact ⟨rfl, rfl⟩
  · dsimp only at h
    split at h
    · cases h
      exact ⟨rfl, rfl⟩
    · have flushed : sink.Same (if data.length > sink.capacity - sink.pending.length then
          sink.flush host else (.ok (), sink, host)).2.1 := by
        split
        · exact flush_same sink host
        · exact ⟨rfl, rfl⟩
      split at h
      · rename_i outcome
        rw [outcome] at flushed
        cases h
        exact flushed
      · rename_i outcome
        rw [outcome] at flushed
        split at h
        · rw [writeDirect_same h]
          exact flushed
        · cases h
          exact ⟨flushed.description, flushed.capacity⟩

/-! ## Streams and the host -/

/-- A flush writes to the description, or does nothing. -/
theorem flush_through (sink : Sink) (host : Host) : (sink.flush host).2.2 = host ∨
    ∃ r, host.write sink.description sink.pending = some (r, (sink.flush host).2.2) := by
  unfold flush
  split
  · exact .inl rfl
  · split
    · exact .inl rfl
    · exact .inr ⟨_, by assumption⟩
    · exact .inr ⟨_, by assumption⟩

theorem writeDirect_through (h : sink.writeDirect host data = some (r, sink', after)) :
    sink' = sink ∧ ((∃ e, r = .error (.refused e) ∧
        host.write sink.description data = some (.error e, after)) ∨
      ∃ m, r = .ok m ∧ host.write sink.description data = some (.ok m, after)) := by
  obtain ⟨⟨answer, host'⟩, written, answered⟩ := Option.map_eq_some_iff.1 h
  cases answer with
  | error e =>
    cases answered
    exact ⟨rfl, .inl ⟨e, rfl, written⟩⟩
  | ok m =>
    cases answered
    exact ⟨rfl, .inr ⟨m, rfl, written⟩⟩

/-- What comes of each write to the description comes of a write to the stream. -/
theorem write_through {R : Host → Host → Prop} (refl : ∀ host, R host host)
    (trans : ∀ {a b c : Host}, R a b → R b c → R a c)
    (each : ∀ {before after : Host} {data : Bytes} {r : Except Errno Nat},
      before.write sink.description data = some (r, after) → R before after)
    (h : sink.write host data = some (r, sink', after)) : R host after := by
  have direct {sink₁ sink₂ : Sink} {host₁ host₂ : Host} (same : sink₁.description = sink.description)
      (written : sink₁.writeDirect host₁ data = some (r, sink₂, host₂)) : R host₁ host₂ := by
    rcases (writeDirect_through written).2 with ⟨_, _, written⟩ | ⟨_, _, written⟩
    · exact each (same ▸ written)
    · exact each (same ▸ written)
  have flushed : R host (sink.flush host).2.2 := by
    rcases sink.flush_through host with same | ⟨_, written⟩
    · rw [same]
      exact refl host
    · exact each written
  have same := (sink.flush_same host).description
  unfold write at h
  split at h
  · exact direct rfl h
  · dsimp only at h
    split at h
    · cases h
      exact refl host
    · by_cases tight : data.length > sink.capacity - sink.pending.length
      · rw [if_pos tight] at h
        split at h
        · rename_i outcome
          rw [outcome] at flushed
          cases h
          exact flushed
        · rename_i outcome
          rw [outcome] at flushed same
          split at h
          · exact trans flushed (direct same h)
          · cases h
            exact flushed
      · rw [if_neg tight] at h
        dsimp only at h
        split at h
        · exact direct rfl h
        · cases h
          exact refl host

end Sink

/-- A read reads from the description, or does nothing. -/
theorem Source.read_through {source source' : Source} {host after : Host} {count : Nat}
    {r : Except StreamError Bytes} (h : source.read host count = some (r, source', after)) : after = host ∨
    ∃ answer count, host.read source.description count = some (answer, after) := by
  have direct {count : Nat} {f : Except Errno Bytes × Host → Except StreamError Bytes × Source × Host}
      (kept : ∀ outcome, (f outcome).2.2 = outcome.2)
      (read : (host.read source.description count).map f = some (r, source', after)) :
      ∃ answer count, host.read source.description count = some (answer, after) := by
    obtain ⟨outcome, read, answered⟩ := Option.map_eq_some_iff.1 read
    have same := (kept outcome).symm.trans (congrArg (fun answer => answer.2.2) answered)
    exact ⟨outcome.1, count, read.trans (congrArg some (Prod.ext rfl same))⟩
  unfold read at h
  split at h
  · refine .inr (direct (fun outcome => ?_) h)
    rcases outcome with ⟨_ | _, _⟩ <;> rfl
  · split at h
    · refine .inr (direct (fun outcome => ?_) h)
      rcases outcome with ⟨_ | _, _⟩ <;> rfl
    · cases h
      exact .inl rfl

/-! ## Handles -/

namespace World

variable {world after : World} {r : ReadHandle} {w : WriteHandle}

theorem holdSource_of_none (missing : world.source? r = none) : world.holdSource r = world := by
  unfold holdSource
  rw [missing]

theorem closeSource_of_none (missing : world.source? r = none) : world.closeSource r = world := by
  unfold closeSource
  rw [missing]

theorem dropSource_of_none (missing : world.source? r = none) : world.dropSource r = world := by
  unfold dropSource
  rw [missing]

theorem holdSink_of_none (missing : world.sink? w = none) : world.holdSink w = world := by
  unfold holdSink
  rw [missing]

theorem closeSink_of_none (missing : world.sink? w = none) :
    world.closeSink w = (.ok (), world) := by
  unfold closeSink
  rw [missing]

theorem dropSink_of_none (missing : world.sink? w = none) : world.dropSink w = world := by
  unfold dropSink
  rw [missing]

/-- What comes of reading through a handle. -/
theorem read_outcome {count : Nat} {result : Except StreamError Bytes}
    (h : world.read r count = some (result, after)) :
    ((∀ source holders, world.source? r ≠ some { stream := some source, holders }) ∧
        result = .error .closed ∧ after = world) ∨
      ∃ source source' holders host, world.source? r = some { stream := some source, holders } ∧
        source.read world.host count = some (result, source', host) ∧
        after = { world with host }.setSource r { stream := some source', holders } := by
  unfold read at h
  split at h
  · rename_i source holders found
    obtain ⟨⟨answer, source', host⟩, done, h⟩ := Option.map_eq_some_iff.1 h
    cases h
    exact .inr ⟨source, source', holders, host, found, done, rfl⟩
  · rename_i shut
    cases h
    exact .inl ⟨shut, rfl, rfl⟩

/-- What comes of writing through a handle. -/
theorem write_outcome {data : Bytes} {result : Except StreamError Nat}
    (h : world.write w data = some (result, after)) :
    ((∀ sink holders, world.sink? w ≠ some { stream := some sink, holders }) ∧
        result = .error .closed ∧ after = world) ∨
      ∃ sink sink' holders host, world.sink? w = some { stream := some sink, holders } ∧
        sink.write world.host data = some (result, sink', host) ∧
        after = { world with host }.setSink w { stream := some sink', holders } := by
  unfold write at h
  split at h
  · rename_i sink holders found
    obtain ⟨⟨answer, sink', host⟩, done, h⟩ := Option.map_eq_some_iff.1 h
    cases h
    exact .inr ⟨sink, sink', holders, host, found, done, rfl⟩
  · rename_i shut
    cases h
    exact .inl ⟨shut, rfl, rfl⟩

/-- What comes of a flush. -/
theorem flush_outcome (world : World) (w : WriteHandle) :
    ((∀ sink holders, world.sink? w ≠ some { stream := some sink, holders }) ∧
        world.flush w = (.error .closed, world)) ∨
      ∃ sink holders, world.sink? w = some { stream := some sink, holders } ∧
        world.flush w = ((sink.flush world.host).1,
          { world with host := (sink.flush world.host).2.2 }.setSink w
            { stream := some (sink.flush world.host).2.1, holders }) := by
  unfold flush
  split
  · rename_i sink holders found
    exact .inr ⟨sink, holders, found, rfl⟩
  · rename_i shut
    exact .inl ⟨shut, rfl⟩

/-- What holds whether a source is closed or not, and however its handles are counted, holds when a
handle was dropped. -/
theorem dropSource_keeps {P : World → Prop} (here : P world) (closed : P (world.closeSource r))
    (counted : ∀ (after : World) (shared : Shared Source), P after → P (after.setSource r shared)) :
    P (world.dropSource r) := by
  unfold dropSource
  split
  · exact here
  · rename_i shared _
    have closes : P (if shared.holders ≤ 1 then world.closeSource r else world) := by
      split
      · exact closed
      · exact here
    dsimp only
    split
    · exact closes
    · exact counted _ _ closes

/-- What holds whether a sink is closed or not, and however its handles are counted, holds when a
handle was dropped. -/
theorem dropSink_keeps {P : World → Prop} (here : P world) (closed : P (world.closeSink w).2)
    (counted : ∀ (after : World) (shared : Shared Sink), P after → P (after.setSink w shared)) :
    P (world.dropSink w) := by
  unfold dropSink
  split
  · exact here
  · rename_i shared _
    have closes : P (if shared.holders ≤ 1 then (world.closeSink w).2 else world) := by
      split
      · exact closed
      · exact here
    dsimp only
    split
    · exact closes
    · exact counted _ _ closes

end World

end AlgorithmDriver

import AlgorithmDriver.Proofs.Driver.FileChannel

/-!
# Streams at the ends of a pipe

The driver has one end of each pipe that it shares with a process, and a stream for it.

* `World.Piped` says what is in a pipe, and which streams write to it and read from it.  What is read
  is taken from the beginning of that (`Piped.read_self`), and what is written is added at its end
  (`Piped.write_self`).  Nothing else that is done with streams matters (`Piped.manages`,
  `Piped.read_ne`, `Piped.write_ne` and the like).
* `World.Supplies` says that a stream is open, and so the process does not see the end of the pipe.
  The stream is only closed through one of its own handles (`Supplies.dropSink_ne`,
  `Supplies.closeSink_ne`).
* `World.Unwritten` says that a file is as it was and that nobody has it open to write to it.
-/

namespace AlgorithmDriver

/-! ## What streams do to the host -/

namespace Sink

variable {sink sink' : Sink} {host after : Host} {data : Bytes} {r : Except StreamError Nat}

theorem flush_of_idle (idle : sink.pending = []) (host : Host) :
    sink.flush host = (.ok (), sink, host) := by
  unfold flush
  rw [idle]
  rfl

theorem write_of_unbuffered (unbuffered : sink.capacity = 0) (host : Host) (data : Bytes) :
    sink.write host data = sink.writeDirect host data := by
  unfold write
  rw [if_pos unbuffered]

theorem flush_uses (sink : Sink) (host : Host) : host.Uses (sink.flush host).2.2 := by
  rcases sink.flush_through host with same | ⟨_, written⟩
  · rw [same]
    exact .refl host
  · exact Host.write_uses written

theorem write_uses (h : sink.write host data = some (r, sink', after)) : host.Uses after :=
  write_through Host.Uses.refl (fun first second => first.trans second) Host.write_uses h

/-- What is left alone by whoever writes elsewhere. -/
structure Aside (n k : Nat) (before after : Host) : Prop where
  onward : before.Onward after
  pipe : n < before.descriptions.length → ¬ before.Denotes n (.writeEnd k) →
    after.pipes[k]? = before.pipes[k]?

theorem Aside.refl (n k : Nat) (host : Host) : Aside n k host host := ⟨.refl host, fun _ _ => rfl⟩

theorem Aside.trans {n k : Nat} {a b c : Host} (hab : Aside n k a b) (hbc : Aside n k b c) :
    Aside n k a c where
  onward := hab.onward.trans hbc.onward
  pipe bound apart := by
    have later := Nat.lt_of_lt_of_le bound hab.onward.length_le
    have first := hab.pipe bound apart
    have second := hbc.pipe later fun denotes => apart (denotes.of_onward hab.onward bound)
    exact second.trans first

theorem Aside.of_write {n k : Nat} {r : Except Errno Nat}
    (h : host.write n data = some (r, after)) : Aside n k host after :=
  ⟨Host.write_onward h, fun _ apart => Host.write_pipes_ne h apart⟩

/-- A pipe that the stream does not write to is left alone. -/
theorem write_pipes_ne {k : Nat} (h : sink.write host data = some (r, sink', after))
    (bound : sink.description < host.descriptions.length)
    (apart : ¬ host.Denotes sink.description (.writeEnd k)) :
    after.pipes[k]? = host.pipes[k]? := by
  have aside : Aside sink.description k host after :=
    write_through (Aside.refl _ k) (fun first second => first.trans second) Aside.of_write h
  exact aside.pipe bound apart

theorem flush_pipes_ne {k : Nat} (apart : ¬ host.Denotes sink.description (.writeEnd k)) :
    (sink.flush host).2.2.pipes[k]? = host.pipes[k]? := by
  rcases sink.flush_through host with same | ⟨_, written⟩
  · rw [same]
  · exact Host.write_pipes_ne written apart

end Sink

namespace Source

variable {source source' : Source} {host after : Host} {count : Nat} {r : Except StreamError Bytes}

theorem read_uses (h : source.read host count = some (r, source', after)) : host.Uses after := by
  rcases read_through h with rfl | ⟨_, _, read⟩
  · exact .refl _
  · exact Host.read_uses read

theorem read_files (h : source.read host count = some (r, source', after)) :
    after.files = host.files ∧ after.directory = host.directory := by
  rcases read_through h with rfl | ⟨_, _, read⟩
  · exact ⟨rfl, rfl⟩
  · exact Host.read_files read

/-- A pipe that the stream does not read from is left alone. -/
theorem read_pipes_ne {k : Nat} (h : source.read host count = some (r, source', after))
    (apart : ¬ host.Denotes source.description (.readEnd k)) :
    after.pipes[k]? = host.pipes[k]? := by
  rcases read_through h with rfl | ⟨_, _, read⟩
  · rfl
  · exact Host.read_pipes_ne read apart

theorem read_of_unbuffered (unbuffered : source.capacity = 0) (empty : source.pending = [])
    (h : source.read host count = some (r, source', after)) : source' = source ∧
      ((∃ e, r = .error (.refused e) ∧
          host.read source.description count = some (.error e, after)) ∨
        ∃ bytes, r = .ok bytes ∧ host.read source.description count = some (.ok bytes, after)) := by
  unfold read at h
  rw [unbuffered, empty, if_pos (by simp)] at h
  obtain ⟨⟨answer, host'⟩, read, answered⟩ := Option.map_eq_some_iff.1 h
  cases answer with
  | error e =>
    cases answered
    exact ⟨rfl, .inl ⟨e, rfl, read⟩⟩
  | ok bytes =>
    cases answered
    exact ⟨rfl, .inr ⟨bytes, rfl, read⟩⟩

end Source

namespace World

variable {world after : World} {k count : Nat} {writer : Option WriteHandle}
  {reader : Option ReadHandle} {held : Bytes} {w : WriteHandle} {r : ReadHandle} {data : Bytes}

/-! ## What is in a pipe -/

/-- There are the bytes `held` in the pipe `k`.  Of the open streams only that of `writer` writes to
it, and only that of `reader` reads from it, both without a buffer. -/
structure Piped (world : World) (k : Nat) (writer : Option WriteHandle) (reader : Option ReadHandle)
    (held : Bytes) : Prop where
  grounded : world.Grounded
  held : world.host.pipes[k]? = some held
  sinks : ∀ w sink, world.openSink? w = some sink →
    (writer = some w ↔ world.host.Denotes sink.description (.writeEnd k)) ∧
      (writer = some w → sink.capacity = 0 ∧ sink.pending = [])
  sources : ∀ r source, world.openSource? r = some source →
    (reader = some r ↔ world.host.Denotes source.description (.readEnd k)) ∧
      (reader = some r → source.capacity = 0 ∧ source.pending = [])

namespace Piped

/-- A sink that was open before writes to the pipe if it did. -/
theorem sink_onward {sink sink' : Sink} (piped : world.Piped k writer reader held)
    (onward : world.host.Onward after.host) (was : world.openSink? w = some sink)
    (same : sink'.description = sink.description) (kept : writer = some w → sink' = sink) :
    (writer = some w ↔ after.host.Denotes sink'.description (.writeEnd k)) ∧
      (writer = some w → sink'.capacity = 0 ∧ sink'.pending = []) := by
  obtain ⟨writes, plain⟩ := piped.sinks w sink was
  have bound := piped.grounded.sinks w sink was
  refine ⟨?_, fun own => kept own ▸ plain own⟩
  rw [same, writes]
  exact ⟨fun denotes => denotes.onward onward, fun denotes => denotes.of_onward onward bound⟩

theorem source_onward {source source' : Source} (piped : world.Piped k writer reader held)
    (onward : world.host.Onward after.host) (was : world.openSource? r = some source)
    (same : source'.description = source.description) (kept : reader = some r → source' = source) :
    (reader = some r ↔ after.host.Denotes source'.description (.readEnd k)) ∧
      (reader = some r → source'.capacity = 0 ∧ source'.pending = []) := by
  obtain ⟨reads, plain⟩ := piped.sources r source was
  have bound := piped.grounded.sources r source was
  refine ⟨?_, fun own => kept own ▸ plain own⟩
  rw [same, reads]
  exact ⟨fun denotes => denotes.onward onward, fun denotes => denotes.of_onward onward bound⟩

/-- The streams that are open were open before, and those of the pipe are as they were. -/
theorem of_origin {more : Bytes} (piped : world.Piped k writer reader held)
    (onward : world.host.Onward after.host) (pipe : after.host.pipes[k]? = some more)
    (sinks : ∀ w sink', after.openSink? w = some sink' →
      ∃ sink, world.openSink? w = some sink ∧ sink'.description = sink.description ∧
        (writer = some w → sink' = sink))
    (sources : ∀ r source', after.openSource? r = some source' →
      ∃ source, world.openSource? r = some source ∧ source'.description = source.description ∧
        (reader = some r → source' = source)) : after.Piped k writer reader more where
  grounded := by
    refine ⟨fun r source' isOpen => ?_, fun w sink' isOpen => ?_⟩
    · obtain ⟨source, was, same, _⟩ := sources r source' isOpen
      exact same ▸ Nat.lt_of_lt_of_le (piped.grounded.sources r source was) onward.length_le
    · obtain ⟨sink, was, same, _⟩ := sinks w sink' isOpen
      exact same ▸ Nat.lt_of_lt_of_le (piped.grounded.sinks w sink was) onward.length_le
  held := pipe
  sinks w sink' isOpen := by
    obtain ⟨sink, was, same, kept⟩ := sinks w sink' isOpen
    exact piped.sink_onward onward was same kept
  sources r source' isOpen := by
    obtain ⟨source, was, same, kept⟩ := sources r source' isOpen
    exact piped.source_onward onward was same kept

/-- The streams are the same. -/
theorem of_streams {more : Bytes} (piped : world.Piped k writer reader held)
    (onward : world.host.Onward after.host) (pipe : after.host.pipes[k]? = some more)
    (sinks : after.sinks = world.sinks) (sources : after.sources = world.sources) :
    after.Piped k writer reader more :=
  piped.of_origin onward pipe
    (fun w sink isOpen => ⟨sink, (openSink?_of_sinks sinks w).symm.trans isOpen, rfl, fun _ => rfl⟩)
    fun r source isOpen =>
      ⟨source, (openSource?_of_sources sources r).symm.trans isOpen, rfl, fun _ => rfl⟩

theorem quiet (piped : world.Piped k writer reader held) (quiet : world.Quiet after) :
    after.Piped k writer reader held :=
  piped.of_origin quiet.host.onward ((congrArg (·[k]?) quiet.muted.pipes).trans piped.held)
    (fun w sink isOpen => ⟨sink, (quiet.sinks w).symm.trans isOpen, rfl, fun _ => rfl⟩)
    fun r source isOpen => ⟨source, quiet.sources r source isOpen, rfl, fun _ => rfl⟩

theorem shuts {sink : Sink} (piped : world.Piped k writer reader held)
    (shuts : world.Shuts w sink after) : after.Piped k writer reader held := by
  have onward := (sink.flush_onward world.host).trans shuts.host.onward
  obtain ⟨writes, plain⟩ := piped.sinks w sink shuts.found
  have flushed : (sink.flush world.host).2.2.pipes[k]? = world.host.pipes[k]? := by
    by_cases own : writer = some w
    · rw [Sink.flush_of_idle (plain own).2]
    · exact Sink.flush_pipes_ne (mt writes.2 own)
  refine piped.of_origin onward ?_ (fun w' sink' isOpen => ?_)
    fun r source isOpen =>
      ⟨source, (openSource?_of_sources shuts.sources r).symm.trans isOpen, rfl, fun _ => rfl⟩
  · rw [shuts.muted.pipes, flushed]
    exact piped.held
  · by_cases here : w' = w
    · subst here
      cases shuts.shut.symm.trans isOpen
    · exact ⟨sink', (shuts.others w' here).symm.trans isOpen, rfl, fun _ => rfl⟩

/-- Whatever is done with handles, the pipe is left alone. -/
theorem manages (piped : world.Piped k writer reader held) (manages : world.Manages after) :
    after.Piped k writer reader held := by
  induction manages with
  | refl => exact piped
  | quiet _ quiet ih => exact ih.quiet quiet
  | shut _ shuts ih => exact ih.shuts shuts

/-! ### Reading -/

theorem of_read {source source' : Source} {more : Bytes} {result : Except StreamError Bytes}
    (piped : world.Piped k writer reader held)
    (read : source.read world.host count = some (result, source', after.host))
    (uses : UsesSource r source source' world after) (pipe : after.host.pipes[k]? = some more)
    (plain : reader = some r → source' = source) : after.Piped k writer reader more := by
  refine piped.of_origin (Source.read_onward read) pipe
    (fun w sink isOpen =>
      ⟨sink, (openSink?_of_sinks uses.sinks w).symm.trans isOpen, rfl, fun _ => rfl⟩)
    fun r' other isOpen => ?_
  by_cases here : r' = r
  · subst here
    obtain rfl := Option.some.inj (uses.now.symm.trans isOpen)
    exact ⟨source, uses.found, (Source.read_same read).description, plain⟩
  · exact ⟨other, (uses.others r' here).symm.trans isOpen, rfl, fun _ => rfl⟩

/-- Something else is read. -/
theorem read_ne {result : Except StreamError Bytes} (piped : world.Piped k writer reader held)
    (h : world.read r count = some (result, after)) (apart : reader ≠ some r) :
    after.Piped k writer reader held := by
  rcases read_cases h with ⟨_, _, rfl⟩ | ⟨source, source', read, uses⟩
  · exact piped
  · have aside := mt (piped.sources r source uses.found).1.2 apart
    exact piped.of_read read uses ((Source.read_pipes_ne read aside).trans piped.held)
      fun own => absurd own apart

/-- What is read was at the beginning of the pipe, and nothing is read only at its end. -/
theorem read_self {result : Except StreamError Bytes}
    (piped : world.Piped k writer (some r) held) (h : world.read r count = some (result, after)) :
    (world.openSource? r = none ∧ result = .error .closed ∧ after = world) ∨
      ∃ bytes rest, result = .ok bytes ∧ held = bytes ++ rest ∧ after.Piped k writer (some r) rest ∧
        (bytes = [] → 0 < count → held = [] ∧ world.host.hasWriter k = false) := by
  rcases read_cases h with shut | ⟨source, source', read, uses⟩
  · exact .inl shut
  · obtain ⟨reads, plain⟩ := piped.sources r source uses.found
    obtain ⟨unbuffered, empty⟩ := plain rfl
    have denotes := reads.1 rfl
    obtain ⟨same, ⟨e, _, answered⟩ | ⟨bytes, rfl, answered⟩⟩ :=
      Source.read_of_unbuffered unbuffered empty read
    · obtain ⟨_, _, given, _⟩ := Host.read_pipe answered denotes piped.held
      cases given
    · obtain ⟨_, rest, given, split, pipe, ended⟩ := Host.read_pipe answered denotes piped.held
      cases given
      exact .inr ⟨bytes, rest, rfl, split, piped.of_read read uses pipe fun _ => same, ended⟩

/-- As long as the stream is open, something is read. -/
theorem read_of_open {result : Except StreamError Bytes}
    (piped : world.Piped k writer (some r) held) (h : world.read r count = some (result, after))
    (isOpen : (world.openSource? r).isSome = true) :
    ∃ bytes rest, result = .ok bytes ∧ held = bytes ++ rest ∧ after.Piped k writer (some r) rest ∧
      (bytes = [] → 0 < count → held = [] ∧ world.host.hasWriter k = false) := by
  rcases piped.read_self h with ⟨shut, _, _⟩ | read
  · rw [shut] at isOpen
    cases isOpen
  · exact read

/-! ### Writing -/

theorem of_write {sink sink' : Sink} {more : Bytes} {result : Except StreamError Nat}
    (piped : world.Piped k writer reader held)
    (written : sink.write world.host data = some (result, sink', after.host))
    (uses : UsesSink w sink sink' world after) (pipe : after.host.pipes[k]? = some more)
    (plain : writer = some w → sink' = sink) : after.Piped k writer reader more := by
  refine piped.of_origin (Sink.write_onward written) pipe (fun w' other isOpen => ?_)
    fun r source isOpen =>
      ⟨source, (openSource?_of_sources uses.sources r).symm.trans isOpen, rfl, fun _ => rfl⟩
  by_cases here : w' = w
  · subst here
    obtain rfl := Option.some.inj (uses.now.symm.trans isOpen)
    exact ⟨sink, uses.found, (Sink.write_same written).description, plain⟩
  · exact ⟨other, (uses.others w' here).symm.trans isOpen, rfl, fun _ => rfl⟩

/-- Something is written elsewhere. -/
theorem write_ne {result : Except StreamError Nat} (piped : world.Piped k writer reader held)
    (h : world.write w data = some (result, after)) (apart : writer ≠ some w) :
    after.Piped k writer reader held := by
  rcases write_cases h with ⟨_, _, rfl⟩ | ⟨sink, sink', written, uses⟩
  · exact piped
  · have aside := mt (piped.sinks w sink uses.found).1.2 apart
    have bound := piped.grounded.sinks w sink uses.found
    exact piped.of_write written uses ((Sink.write_pipes_ne written bound aside).trans piped.held)
      fun own => absurd own apart

/-- What is accepted is added at the end of the pipe, and files are left alone. -/
theorem write_self {result : Except StreamError Nat} (piped : world.Piped k (some w) reader held)
    (h : world.write w data = some (result, after)) :
    (after.host.files = world.host.files ∧ after.host.directory = world.host.directory) ∧
      ((∃ e, result = .error e ∧ after.Piped k (some w) reader held) ∨
        ∃ m, result = .ok m ∧ after.Piped k (some w) reader (held ++ data.take m)) := by
  rcases write_cases h with ⟨_, rfl, rfl⟩ | ⟨sink, sink', written, uses⟩
  · exact ⟨⟨rfl, rfl⟩, .inl ⟨_, rfl, piped⟩⟩
  · obtain ⟨writes, plain⟩ := piped.sinks w sink uses.found
    have denotes := writes.1 rfl
    have direct := written
    rw [Sink.write_of_unbuffered (plain rfl).1] at direct
    obtain ⟨same, ⟨e, rfl, answered⟩ | ⟨m, rfl, answered⟩⟩ := Sink.writeDirect_through direct
    · obtain ⟨files, ⟨_, _, pipe⟩ | ⟨_, taken, _⟩⟩ := Host.write_pipe answered denotes piped.held
      · exact ⟨files, .inl ⟨_, rfl, piped.of_write written uses pipe fun _ => same⟩⟩
      · cases taken
    · obtain ⟨files, ⟨_, refused, _⟩ | ⟨_, taken, pipe⟩⟩ :=
        Host.write_pipe answered denotes piped.held
      · cases refused
      · cases taken
        exact ⟨files, .inr ⟨m, rfl, piped.of_write written uses pipe fun _ => same⟩⟩

end Piped

/-! ## A stream that is open -/

/-- The stream of `w` is open, and so the pipe `k` has a writer.  Nobody else has its description. -/
structure Supplies (world : World) (w : WriteHandle) (d k : Nat) : Prop where
  isOpen : world.openSink? w = some { description := d, capacity := 0 }
  own : world.Own d (· = w) fun _ => False
  holds : world.host.Holds d (.writeEnd k)

namespace Supplies

variable {d : Nat} {w' : WriteHandle} {r' : ReadHandle}

theorem hasWriter (supplies : world.Supplies w d k) : world.host.hasWriter k = true :=
  supplies.holds.hasWriter

theorem known (supplies : world.Supplies w d k) : d < world.host.descriptions.length :=
  supplies.holds.elim fun _ holds => (List.getElem?_eq_some_iff.1 holds.1).1

/-- Only handles are counted, or a source is closed. -/
theorem quiet (supplies : world.Supplies w d k) (quiet : world.Quiet after)
    (host : after.host = world.host ∨ ∃ r source, world.openSource? r = some source ∧
      after.host = world.host.release source.description) : after.Supplies w d k where
  isOpen := (quiet.sinks w).trans supplies.isOpen
  own := supplies.own.quiet quiet
  holds := by
    rcases host with same | ⟨r, source, isOpen, same⟩
    · exact same ▸ supplies.holds
    · rw [same]
      exact supplies.holds.release fun here => supplies.own.sources r source isOpen here

theorem holdSource (supplies : world.Supplies w d k) (r : ReadHandle) :
    (world.holdSource r).Supplies w d k := by
  refine supplies.quiet (holdSource_quiet world r) (.inl ?_)
  unfold World.holdSource
  split <;> rfl

theorem holdSink (supplies : world.Supplies w d k) (w' : WriteHandle) :
    (world.holdSink w').Supplies w d k := by
  refine supplies.quiet (holdSink_quiet world w') (.inl ?_)
  unfold World.holdSink
  split <;> rfl

theorem record (supplies : world.Supplies w d k) (entry : LogEntry) :
    (world.record entry).Supplies w d k :=
  supplies.quiet (record_quiet world entry) (.inl rfl)

/-- Another sink is closed. -/
theorem closeSink_ne (supplies : world.Supplies w d k) (different : w' ≠ w) :
    (world.closeSink w').2.Supplies w d k := by
  cases isOpen : world.openSink? w' with
  | none =>
    rw [closeSink_of_shut isOpen]
    exact supplies
  | some sink =>
    have shuts := closeSink_shuts isOpen
    refine ⟨(shuts.others w (Ne.symm different)).trans supplies.isOpen, supplies.own.shuts shuts, ?_⟩
    rw [(closeSink_of_open isOpen).2]
    exact (supplies.holds.same (sink.flush_uses world.host).holds).release fun here =>
      different (supplies.own.sinks w' sink isOpen here)

theorem dropSink_ne (supplies : world.Supplies w d k) (different : w' ≠ w) :
    (world.dropSink w').Supplies w d k := by
  cases found : world.sink? w' with
  | none =>
    unfold World.dropSink
    rw [found]
    exact supplies
  | some shared =>
    by_cases last : shared.holders ≤ 1
    · have closed : (world.closeSink w').2.sink? w' = some { shared with stream := none } :=
        sink?_of_set_self found (closeSink_sinks found)
      rw [dropSink_of_last found last closed]
      exact (supplies.closeSink_ne different).quiet (.of_holders closed _) (.inl rfl)
    · rw [dropSink_of_more found (Nat.lt_of_not_le last)]
      exact supplies.quiet (.of_holders found _) (.inl rfl)

theorem read {result : Except StreamError Bytes} (supplies : world.Supplies w d k)
    (h : world.read r count = some (result, after)) : after.Supplies w d k := by
  rcases read_cases h with ⟨_, _, rfl⟩ | ⟨source, source', read, uses⟩
  · exact supplies
  · exact ⟨(openSink?_of_sinks uses.sinks w).trans supplies.isOpen,
      uses.own (Source.read_same read) supplies.own,
      supplies.holds.same (Source.read_uses read).holds⟩

theorem write {result : Except StreamError Nat} (supplies : world.Supplies w d k)
    (h : world.write w' data = some (result, after)) : after.Supplies w d k := by
  rcases write_cases h with ⟨_, _, rfl⟩ | ⟨sink, sink', written, uses⟩
  · exact supplies
  · refine ⟨?_, uses.own (Sink.write_same written) supplies.own,
      supplies.holds.same (Sink.write_uses written).holds⟩
    by_cases here : w = w'
    · subst here
      obtain rfl := Option.some.inj (uses.found.symm.trans supplies.isOpen)
      have direct := written
      rw [Sink.write_of_unbuffered rfl] at direct
      rw [uses.now, (Sink.writeDirect_through direct).1]
    · exact (uses.others w here).trans supplies.isOpen

end Supplies

/-! ## A file that nobody writes -/

/-- The file `node` has the given content, and no open stream writes to it. -/
structure Unwritten (world : World) (node : Nat) (content : Bytes) : Prop where
  grounded : world.Grounded
  file : world.host.files.bytes? node = some content
  aside : ∀ w sink, world.openSink? w = some sink → ¬ world.host.Leads sink.description node

namespace Unwritten

variable {node : Nat} {content : Bytes}

/-- The streams that are open were open before. -/
theorem of_origin (unwritten : world.Unwritten node content) (grounded : after.Grounded)
    (onward : world.host.Onward after.host) (file : after.host.files.bytes? node = some content)
    (sinks : ∀ w sink', after.openSink? w = some sink' →
      ∃ sink, world.openSink? w = some sink ∧ sink'.description = sink.description) :
    after.Unwritten node content where
  grounded := grounded
  file := file
  aside w sink' isOpen leads := by
    obtain ⟨sink, was, same⟩ := sinks w sink' isOpen
    rw [same] at leads
    exact unwritten.aside w sink was (leads.of_onward onward (unwritten.grounded.sinks w sink was))

theorem quiet (unwritten : world.Unwritten node content) (quiet : world.Quiet after) :
    after.Unwritten node content :=
  unwritten.of_origin (quiet.manages.grounded unwritten.grounded) quiet.host.onward
    (quiet.host.files node content id unwritten.file)
    fun w sink isOpen => ⟨sink, (quiet.sinks w).symm.trans isOpen, rfl⟩

theorem shuts {sink : Sink} (unwritten : world.Unwritten node content)
    (shuts : world.Shuts w sink after) : after.Unwritten node content := by
  have flushed := (sink.flush_spares world.host).files node content
    (unwritten.aside w sink shuts.found) unwritten.file
  refine unwritten.of_origin ((Manages.shut .refl shuts).grounded unwritten.grounded)
    ((sink.flush_onward world.host).trans shuts.host.onward)
    (shuts.host.files node content id flushed) fun w' sink' isOpen => ?_
  by_cases here : w' = w
  · subst here
    cases shuts.shut.symm.trans isOpen
  · exact ⟨sink', (shuts.others w' here).symm.trans isOpen, rfl⟩

theorem manages (unwritten : world.Unwritten node content) (manages : world.Manages after) :
    after.Unwritten node content := by
  induction manages with
  | refl => exact unwritten
  | quiet _ quiet ih => exact ih.quiet quiet
  | shut _ shuts ih => exact ih.shuts shuts

theorem read {result : Except StreamError Bytes} (unwritten : world.Unwritten node content)
    (h : world.read r count = some (result, after)) : after.Unwritten node content := by
  rcases read_cases h with ⟨_, _, rfl⟩ | ⟨source, source', read, uses⟩
  · exact unwritten
  · have onward := Source.read_onward read
    refine unwritten.of_origin (uses.grounded (Source.read_same read) onward unwritten.grounded)
      onward ?_ fun w sink isOpen =>
        ⟨sink, (openSink?_of_sinks uses.sinks w).symm.trans isOpen, rfl⟩
    rw [(Source.read_files read).1]
    exact unwritten.file

/-- Whatever is written, it is written elsewhere. -/
theorem write {result : Except StreamError Nat} (unwritten : world.Unwritten node content)
    (h : world.write w data = some (result, after)) : after.Unwritten node content := by
  rcases write_cases h with ⟨_, _, rfl⟩ | ⟨sink, sink', written, uses⟩
  · exact unwritten
  · have same := Sink.write_same written
    have onward := Sink.write_onward written
    exact unwritten.of_origin (uses.grounded same onward unwritten.grounded) onward
      ((Sink.write_spares written).files node content (unwritten.aside w sink uses.found)
        unwritten.file) fun _ _ isOpen => uses.origin same isOpen

end Unwritten

/-! ## Opening files -/

/-- The file `node` is opened to read from it, as a new stream. -/
structure OpensRead (path : String) (node : Nat) (source : Source) (before after : World) : Prop
    extends AddsSource source before after where
  found : before.host.files.find before.host.directory path = .ok node
  plain : ∀ parent entries, before.host.files.get? node ≠ some (.directory parent entries)
  denotes : after.host.Denotes source.description (.node node)
  untouched : before.host.Untouched after.host
  files : after.host.files = before.host.files
  directory : after.host.directory = before.host.directory
  pipes : after.host.pipes = before.host.pipes
  uses : before.host.Uses after.host
  balanced : before.host.Balanced after.host

/-- The file `node` is opened to write to it, as a new stream. -/
structure OpensWrite (path : String) (node : Nat) (sink : Sink) (before after : World) : Prop
    extends AddsSink sink before after where
  found : after.host.files.find after.host.directory path = .ok node
  denotes : after.host.Denotes sink.description (.node node)
  spares : before.host.Spares (fun _ => False) (· = node) after.host
  /-- The file was there before, or it is new. -/
  place : (before.host.files.find before.host.directory path = .ok node ∧
      (before.host.files.bytes? node ≠ none → after.host.files.bytes? node ≠ none)) ∨
    (before.host.files.get? node = none ∧ after.host.files.bytes? node = some [])
  pipes : after.host.pipes = before.host.pipes
  uses : before.host.Uses after.host
  balanced : before.host.Balanced after.host

end World

namespace Driver

variable {world after : World} {path : String}

theorem acquireRead_opens {channel : Channel ReadHandle}
    (opened : acquireRead path world = .ok (channel, after)) :
    channel = { path, pipe := ⟨world.sources.length⟩ } ∧
      ∃ node source, World.OpensRead path node source world after := by
  obtain ⟨-, description, host, made, plain, rfl, rfl⟩ := acquireRead_eq_ok_iff.1 opened
  refine ⟨rfl, ?_⟩
  have opens := Host.openRead_adds made
  have untouched : world.host.Untouched host := Host.openRead_spares made
  obtain ⟨node, found, rfl, rfl⟩ := Host.openRead_eq_ok_iff.1 made
  exact ⟨node, { description := world.host.descriptions.length, capacity := bufferSize },
    { onward := opens.onward, sources := rfl, sinks := rfl, made := opens.made, found, untouched
      balanced := opens.balanced
      plain := fun parent entries isDirectory => by
        simp [Host.isDirectory, Host.describe, isDirectory] at plain
      denotes := ⟨_, List.getElem?_concat_length, rfl⟩
      files := rfl, directory := rfl, pipes := opens.pipes.1, uses := opens.pipes.2 }⟩

theorem acquireWrite_opens {channel : Channel WriteHandle}
    (opened : acquireWrite path world = .ok (channel, after)) :
    channel = { path, pipe := ⟨world.sinks.length⟩ } ∧
      ∃ node sink, World.OpensWrite path node sink world after := by
  obtain ⟨-, description, host, made, rfl, rfl⟩ := acquireWrite_eq_ok_iff.1 opened
  obtain ⟨node, opening, spares⟩ := @Host.openWrite_spares (fun _ => False) _ _ _ _ _ _ made
  have found := opening.found
  rw [← opening.directory] at found
  have opens := Host.openWrite_adds made
  refine ⟨rfl, node, { description, capacity := bufferSize },
    { onward := opens.onward, sinks := rfl, sources := rfl, made := opens.made, found
      denotes := ?_
      spares := spares.mono (fun _ => id) fun _ here => here.2
      place := Host.openWrite_place made opening
      pipes := opens.pipes.1, uses := opens.pipes.2, balanced := opens.balanced }⟩
  refine ⟨{ object := .node node, appends := OpenMode.create == .append }, ?_, rfl⟩
  show host.descriptions[description]? = _
  rw [opening.description, opening.number, List.getElem?_concat_length]

end Driver

namespace World

variable {world after : World} {k : Nat} {writer : Option WriteHandle}
  {reader : Option ReadHandle} {held : Bytes} {w : WriteHandle} {path : String} {node : Nat}

theorem AddsSource.grounded {source : Source} (adds : AddsSource source world after)
    (grounded : world.Grounded) : after.Grounded where
  sources r another isOpen := by
    rcases adds.origin isOpen with ⟨_, rfl⟩ | was
    · exact adds.made.2
    · exact Nat.lt_of_lt_of_le (grounded.sources r another was) adds.onward.length_le
  sinks w sink isOpen := by
    have was := (openSink?_of_sinks adds.sinks w).symm.trans isOpen
    exact Nat.lt_of_lt_of_le (grounded.sinks w sink was) adds.onward.length_le

/-- The new source does not have a description that was there before. -/
theorem AddsSource.others {source : Source} {n : Nat} {sinks : WriteHandle → Prop}
    {sources : ReadHandle → Prop} (adds : AddsSource source world after)
    (own : world.Own n sinks sources) (known : n < world.host.descriptions.length) :
    after.Own n sinks sources where
  sinks w sink isOpen := own.sinks w sink ((openSink?_of_sinks adds.sinks w).symm.trans isOpen)
  sources r another isOpen here := by
    rcases adds.origin isOpen with ⟨_, rfl⟩ | was
    · exact absurd (here ▸ adds.made.1) (Nat.not_le.2 known)
    · exact own.sources r another was here

theorem AddsSink.others {sink : Sink} {n : Nat} {sinks : WriteHandle → Prop}
    {sources : ReadHandle → Prop} (adds : AddsSink sink world after)
    (own : world.Own n sinks sources) (known : n < world.host.descriptions.length) :
    after.Own n sinks sources where
  sinks w another isOpen here := by
    rcases adds.origin isOpen with ⟨_, rfl⟩ | was
    · exact absurd (here ▸ adds.made.1) (Nat.not_le.2 known)
    · exact own.sinks w another was here
  sources r source isOpen :=
    own.sources r source ((openSource?_of_sources adds.sources r).symm.trans isOpen)

theorem Piped.opensRead {source : Source} (piped : world.Piped k writer reader held)
    (opens : OpensRead path node source world after)
    (known : ∀ r, reader = some r → r.number < world.sources.length) :
    after.Piped k writer reader held where
  grounded := opens.toAddsSource.grounded piped.grounded
  held := opens.pipes ▸ piped.held
  sinks w sink isOpen := by
    have was := (openSink?_of_sinks opens.sinks w).symm.trans isOpen
    exact piped.sink_onward opens.onward was rfl fun _ => rfl
  sources r another isOpen := by
    rcases opens.toAddsSource.origin isOpen with ⟨rfl, rfl⟩ | was
    · have other : reader ≠ some ⟨world.sources.length⟩ := fun own =>
        Nat.lt_irrefl _ (known _ own)
      refine ⟨⟨fun own => absurd own other, fun denotes => ?_⟩, fun own => absurd own other⟩
      cases denotes.unique opens.denotes
    · exact piped.source_onward opens.onward was rfl fun _ => rfl

theorem Piped.opensWrite {sink : Sink} (piped : world.Piped k writer reader held)
    (opens : OpensWrite path node sink world after)
    (known : ∀ w, writer = some w → w.number < world.sinks.length) :
    after.Piped k writer reader held where
  grounded := opens.toAddsSink.grounded piped.grounded
  held := opens.pipes ▸ piped.held
  sinks w other isOpen := by
    rcases opens.toAddsSink.origin isOpen with ⟨rfl, rfl⟩ | was
    · have other : writer ≠ some ⟨world.sinks.length⟩ := fun own => Nat.lt_irrefl _ (known _ own)
      refine ⟨⟨fun own => absurd own other, fun denotes => ?_⟩, fun own => absurd own other⟩
      cases denotes.unique opens.denotes
    · exact piped.sink_onward opens.onward was rfl fun _ => rfl
  sources r source isOpen := by
    have was := (openSource?_of_sources opens.sources r).symm.trans isOpen
    exact piped.source_onward opens.onward was rfl fun _ => rfl

theorem Supplies.opensRead {source : Source} {d : Nat} (supplies : world.Supplies w d k)
    (opens : OpensRead path node source world after) : after.Supplies w d k where
  isOpen := (openSink?_of_sinks opens.sinks w).trans supplies.isOpen
  own := opens.toAddsSource.others supplies.own supplies.known
  holds := supplies.holds.same opens.uses.holds

theorem Supplies.opensWrite {sink : Sink} {d : Nat} (supplies : world.Supplies w d k)
    (opens : OpensWrite path node sink world after) : after.Supplies w d k where
  isOpen := by
    obtain ⟨shared, found, _⟩ := Option.bind_eq_some_iff.1 supplies.isOpen
    have known := (List.getElem?_eq_some_iff.1 found).1
    exact (openSink?_of_extended ⟨_, opens.sinks.symm⟩ known).trans supplies.isOpen
  own := opens.toAddsSink.others supplies.own supplies.known
  holds := supplies.holds.same opens.uses.holds

/-- Another file is opened to write to it. -/
theorem Unwritten.opensWrite {sink : Sink} {other : Nat} {content : Bytes}
    (unwritten : world.Unwritten node content) (opens : OpensWrite path other sink world after)
    (different : other ≠ node) : after.Unwritten node content where
  grounded := opens.toAddsSink.grounded unwritten.grounded
  file := opens.spares.files node content (Ne.symm different) unwritten.file
  aside w another isOpen leads := by
    rcases opens.toAddsSink.origin isOpen with ⟨rfl, rfl⟩ | was
    · cases leads.denotes.unique opens.denotes
      exact different rfl
    · exact unwritten.aside w another was
        (leads.of_onward opens.onward (unwritten.grounded.sinks w another was))

theorem Unwritten.opensRead {source : Source} {other : Nat} {content : Bytes}
    (unwritten : world.Unwritten node content) (opens : OpensRead path other source world after) :
    after.Unwritten node content :=
  unwritten.of_origin (opens.toAddsSource.grounded unwritten.grounded) opens.onward
    (opens.files ▸ unwritten.file) fun w sink isOpen =>
      ⟨sink, (openSink?_of_sinks opens.sinks w).symm.trans isOpen, rfl⟩

end World

end AlgorithmDriver

import AlgorithmDriver.Proofs.Driver.Tending

/-!
# Handles of one stream

Callers and the driver may have many handles of one stream.  All of them are told the same, and what
is done with one of them is done to the stream.

* What is tried through a handle of a closed stream fails and changes nothing
  (`World.write_of_shut`, `World.flush_of_shut`, `World.readExact_of_shut` and the like).
* A stream is released with its last handle (`World.dropSource_last`, `World.dropSink_last`).
* `Stage.OneSource` and `Stage.OneSink` tell what that comes to for those who have the handles, and
  `Stage.Run.handles_together` is the result.
-/

namespace AlgorithmDriver

open Table (Change)

/-! ## Through a closed handle -/

/-- Whether a failure counts as a broken pipe: nobody reads from it, or the handle is closed. -/
def StreamError.isBrokenPipe : StreamError → Bool
  | refused .brokenPipe | closed => true
  | _ => false

namespace World

theorem waitFor_of_some {α : Type} {attempt : World → Option (α × World)} {otherwise : α}
    {tries : Nat} {world : World} {outcome : α × World} (positive : 0 < tries)
    (done : attempt world = some outcome) : waitFor attempt otherwise tries world = outcome := by
  obtain ⟨tries, rfl⟩ := Nat.exists_eq_succ_of_ne_zero (Nat.pos_iff_ne_zero.1 positive)
  rw [waitFor, done]

/-- There is at least one step in a loop over a stream. -/
theorem exists_loopLimit_eq : ∃ fuel, loopLimit = fuel + 1 := ⟨99999999, rfl⟩

section Sources

variable {world : World} {r : ReadHandle}

theorem closeSource_of_shut (shut : world.openSource? r = none) : world.closeSource r = world := by
  unfold openSource? at shut
  unfold closeSource
  split
  · rename_i found
    rw [found] at shut
    cases shut
  · rfl

theorem readOnce_of_shut (shut : world.openSource? r = none) (count : Nat) :
    world.readOnce r count = (.error .closed, world) :=
  waitFor_of_some (by decide) (read_of_shut shut)

theorem readExact_zero (world : World) (r : ReadHandle) :
    world.readExact r 0 = (.ok [], world) := by
  obtain ⟨fuel, limit⟩ := exists_loopLimit_eq
  rw [readExact, limit, readExact.go, if_pos rfl]
  rfl

theorem readExact_of_shut (shut : world.openSource? r = none) (count : Nat) :
    world.readExact r (count + 1) = (.error .closed, world) := by
  obtain ⟨fuel, limit⟩ := exists_loopLimit_eq
  rw [readExact, limit, readExact.go, if_neg (Nat.succ_ne_zero count), readOnce_of_shut shut]

theorem readAll_of_shut (shut : world.openSource? r = none) :
    world.readAll r = (.error .closed, world) := by
  obtain ⟨fuel, limit⟩ := exists_loopLimit_eq
  rw [readAll, limit, readAll.go, readOnce_of_shut shut]

/-- The last handle to read with is dropped: the stream is released. -/
theorem dropSource_last {shared : Shared Source} {source : Source}
    (found : world.source? r = some shared) (isOpen : shared.stream = some source)
    (last : shared.holders = 1) :
    (world.dropSource r).openSource? r = none ∧
      (world.dropSource r).host = world.host.release source.description := by
  constructor
  · rw [openSource?_of_set_self found (dropSource_sources found), if_pos (Nat.le_of_eq last)]
  · obtain ⟨_, holders⟩ := shared
    obtain rfl := isOpen
    obtain rfl := last
    unfold dropSource closeSource
    rw [found]
    simp only [Nat.le_refl, if_true]
    split <;> rfl

/-- Other handles are left: the stream stays. -/
theorem dropSource_more {shared : Shared Source} (found : world.source? r = some shared)
    (more : 1 < shared.holders) :
    (world.dropSource r).openSource? r = world.openSource? r ∧
      (world.dropSource r).host = world.host := by
  constructor
  · rw [openSource?_of_set_self found (dropSource_sources found), if_neg (Nat.not_le.2 more)]
    exact (congrArg (Option.bind · Shared.stream) found).symm
  · unfold dropSource
    rw [found]
    simp only [if_neg (Nat.not_le.2 more), found]
    rfl

end Sources

section Sinks

variable {world : World} {w : WriteHandle}

theorem write_of_shut (shut : world.openSink? w = none) (data : Bytes) :
    world.write w data = some (.error .closed, world) := by
  unfold openSink? at shut
  unfold write
  split
  · rename_i found
    rw [found] at shut
    cases shut
  · rfl

theorem flush_of_shut (shut : world.openSink? w = none) :
    world.flush w = (.error .closed, world) := by
  unfold openSink? at shut
  unfold flush
  split
  · rename_i found
    rw [found] at shut
    cases shut
  · rfl

theorem writeOnce_of_shut (shut : world.openSink? w = none) (data : Bytes) :
    world.writeOnce w data = (.error .closed, world) := by
  have attempt (otherwise : Except StreamError Nat) :
      waitFor (fun world => world.write w data) otherwise patience world =
        (.error .closed, world) :=
    waitFor_of_some (by decide) (write_of_shut shut data)
  unfold writeOnce
  dsimp only
  split
  · exact attempt _
  · rename_i buffered
    rw [Bool.or_eq_true, not_or] at buffered
    rw [writeOnce.go, if_neg buffered.2, attempt]
    rfl

theorem writeAll_of_shut (shut : world.openSink? w = none) (b : UInt8) (data : Bytes) :
    world.writeAll w (b :: data) = (.error .closed, world) := by
  rw [writeAll, writeAll.go, if_neg (show ¬ (b :: data).isEmpty = true from Bool.false_ne_true),
    writeOnce_of_shut shut]

/-- The last handle to write with is dropped: what is pending is flushed, and the stream is
released. -/
theorem dropSink_last {shared : Shared Sink} {sink : Sink} (found : world.sink? w = some shared)
    (isOpen : shared.stream = some sink) (last : shared.holders = 1) :
    (world.dropSink w).openSink? w = none ∧
      (world.dropSink w).host = (sink.flush world.host).2.2.release sink.description := by
  have closed : (world.closeSink w).2.sink? w = some { shared with stream := none } :=
    sink?_of_set_self found (closeSink_sinks found)
  constructor
  · rw [openSink?_of_set_self found (dropSink_sinks found), if_pos (Nat.le_of_eq last)]
  · rw [dropSink_of_last found (Nat.le_of_eq last) closed]
    exact (closeSink_of_open (Option.bind_eq_some_iff.2 ⟨shared, found, isOpen⟩)).2

theorem dropSink_more {shared : Shared Sink} (found : world.sink? w = some shared)
    (more : 1 < shared.holders) :
    (world.dropSink w).openSink? w = world.openSink? w ∧
      (world.dropSink w).host = world.host := by
  constructor
  · rw [openSink?_of_set_self found (dropSink_sinks found), if_neg (Nat.not_le.2 more)]
    exact (congrArg (Option.bind · Shared.stream) found).symm
  · rw [dropSink_of_more found more]
    rfl

end Sinks

end World

/-! ## All handles of a stream -/

namespace Stage

variable {start s t u : Stage} {deed : Deed} {deeds more before after : List Deed} {n : Nat}

/-- What the handles of the stream to read from with the number `n` have in common at a moment. -/
structure OneSource (deeds : List Deed) (s : Stage) (n : Nat) : Prop where
  /-- The stream is there as long as somebody has a handle of it, be it a caller or the driver, and
  it was not closed. -/
  present : (s.world.openSource? ⟨n⟩).isSome = true ↔
    n ∈ s.holdings.readRefs ∧ ¬ SourceShut deeds n
  /-- All who have a handle of it are told the same. -/
  isOpen : ∀ r : ReadHandle, r.number = n → n ∈ s.holdings.readRefs →
    (s.world.isReadable r = true ↔ ¬ SourceShut deeds n)
  forGood : SourceShut deeds n → ∀ more t, Run s more t → ∀ r : ReadHandle, r.number = n →
    t.world.isReadable r = false
  closeRead : ∀ id channel, s.driver.readFiles.get? id = some channel → channel.pipe.number = n →
    ∀ r : ReadHandle, r.number = n → (s.driver.closeRead id s.world).2.2.isReadable r = false
  closeAll : ∀ id channel, s.driver.readFiles.get? id = some channel → channel.pipe.number = n →
    ∀ r : ReadHandle, r.number = n → (s.driver.closeAll s.world).2.isReadable r = false
  /-- Once it is closed, every read fails and changes nothing. -/
  read : SourceShut deeds n → ∀ r : ReadHandle, r.number = n → ∀ count,
    s.world.read r count = some (.error .closed, s.world)
  readExact : SourceShut deeds n → ∀ r : ReadHandle, r.number = n → ∀ count,
    s.world.readExact r (count + 1) = (.error .closed, s.world)
  readAll : SourceShut deeds n → ∀ r : ReadHandle, r.number = n →
    s.world.readAll r = (.error .closed, s.world)
  /-- Who asks for nothing does not read. -/
  readNothing : ∀ r : ReadHandle, r.number = n → s.world.readExact r 0 = (.ok [], s.world)
  close : SourceShut deeds n → ∀ r : ReadHandle, r.number = n → s.world.closeSource r = s.world
  /-- When one of many handles is dropped the stream stays. -/
  dropMore : ∀ r : ReadHandle, r.number = n → 1 < s.holdings.readRefs.count n →
    (s.world.dropSource r).openSource? r = s.world.openSource? r ∧
      (s.world.dropSource r).host = s.world.host
  /-- With its last handle the stream is released. -/
  dropLast : ∀ r : ReadHandle, r.number = n → s.holdings.readRefs.count n = 1 →
    ∀ source, s.world.openSource? r = some source →
      (s.world.dropSource r).openSource? r = none ∧
        (s.world.dropSource r).host = s.world.host.release source.description
  unheld : n < s.world.sources.length → n ∉ s.holdings.readRefs → ∀ more t, Run s more t →
    n ∉ t.holdings.readRefs

/-- The deed closes the stream to write to with the number `n`, with the given result: through one
of its handles, or with its channel. -/
def ClosesWith (before : List Deed) (deed : Deed) (n : Nat) (r : Except StreamError Unit) : Prop :=
  (∃ w : WriteHandle, w.number = n ∧ deed = .closedSink w r) ∨
    ∃ id channel closer, .issued id channel ∈ Notice.writeFiles (notices before) ∧
      channel.pipe.number = n ∧ deed = .releasedWrite closer id r

/-- What closing an open stream to write to does: what is pending is flushed, which tells the
result, and the stream is released whatever that is. -/
inductive FirstClose (t u : Stage) (n : Nat) : Except StreamError Unit → Prop
  | flushed {sink : Sink} (isOpen : t.world.openSink? ⟨n⟩ = some sink)
      (host : u.world.host = (sink.flush t.world.host).2.2.release sink.description)
      (shut : u.world.openSink? ⟨n⟩ = none) : FirstClose t u n (sink.flush t.world.host).1

/-- What the handles of the stream to write to with the number `n` have in common at a moment. -/
structure OneSink (start : Stage) (deeds : List Deed) (s : Stage) (n : Nat) : Prop where
  present : (s.world.openSink? ⟨n⟩).isSome = true ↔ n ∈ s.holdings.writeRefs ∧ ¬ SinkShut deeds n
  isOpen : ∀ w : WriteHandle, w.number = n → n ∈ s.holdings.writeRefs →
    (s.world.isWritable w = true ↔ ¬ SinkShut deeds n)
  forGood : SinkShut deeds n → ∀ more t, Run s more t → ∀ w : WriteHandle, w.number = n →
    t.world.isWritable w = false
  closeWrite : ∀ id channel, s.driver.writeFiles.get? id = some channel → channel.pipe.number = n →
    ∀ w : WriteHandle, w.number = n → (s.driver.closeWrite id s.world).2.2.isWritable w = false
  closeAll : ∀ id channel, s.driver.writeFiles.get? id = some channel → channel.pipe.number = n →
    ∀ w : WriteHandle, w.number = n → (s.driver.closeAll s.world).2.isWritable w = false
  write : SinkShut deeds n → ∀ w : WriteHandle, w.number = n → ∀ data,
    s.world.write w data = some (.error .closed, s.world)
  flush : SinkShut deeds n → ∀ w : WriteHandle, w.number = n →
    s.world.flush w = (.error .closed, s.world)
  writeAll : SinkShut deeds n → ∀ w : WriteHandle, w.number = n → ∀ b data,
    s.world.writeAll w (b :: data) = (.error .closed, s.world)
  writeNothing : ∀ w : WriteHandle, w.number = n → s.world.writeAll w [] = (.ok (), s.world)
  close : SinkShut deeds n → ∀ w : WriteHandle, w.number = n →
    s.world.closeSink w = (.ok (), s.world)
  /-- Only the first of all closes flushes. -/
  firstClose : ∀ before deed after r, deeds = before ++ deed :: after → ClosesWith before deed n r →
    ¬ SinkShut before n →
      ∃ t u, Run start before t ∧ Step t deed u ∧ Run u after s ∧ FirstClose t u n r
  laterClose : ∀ before deed after r, deeds = before ++ deed :: after → ClosesWith before deed n r →
    SinkShut before n → r = .ok () ∧
      ∃ t u, Run start before t ∧ Step t deed u ∧ Run u after s ∧ u.world.host = t.world.host
  dropMore : ∀ w : WriteHandle, w.number = n → 1 < s.holdings.writeRefs.count n →
    (s.world.dropSink w).openSink? w = s.world.openSink? w ∧
      (s.world.dropSink w).host = s.world.host
  dropLast : ∀ w : WriteHandle, w.number = n → s.holdings.writeRefs.count n = 1 →
    ∀ sink, s.world.openSink? w = some sink →
      (s.world.dropSink w).openSink? w = none ∧
        (s.world.dropSink w).host = (sink.flush s.world.host).2.2.release sink.description
  unheld : n < s.world.sinks.length → n ∉ s.holdings.writeRefs → ∀ more t, Run s more t →
    n ∉ t.holdings.writeRefs

theorem not_isReadable {world : World} {r : ReadHandle} (shut : world.openSource? r = none) :
    world.isReadable r = false := by
  rw [Bool.eq_false_iff, Ne, World.isReadable_iff, shut]
  exact Bool.false_ne_true

theorem not_isWritable {world : World} {w : WriteHandle} (shut : world.openSink? w = none) :
    world.isWritable w = false := by
  rw [Bool.eq_false_iff, Ne, World.isWritable_iff, shut]
  exact Bool.false_ne_true

/-- A channel that is known was registered. -/
theorem Sound.issued_read (sound : s.Sound start.world deeds) {id : ReadFileId}
    {channel : Channel ReadHandle} (found : s.driver.readFiles.get? id = some channel) :
    .issued id channel ∈ Notice.readFiles (notices deeds) := by
  obtain ⟨_, live, rfl⟩ := sound.follows.readFiles.found id channel found
  exact live.mem

theorem Sound.issued_write (sound : s.Sound start.world deeds) {id : WriteFileId}
    {channel : Channel WriteHandle} (found : s.driver.writeFiles.get? id = some channel) :
    .issued id channel ∈ Notice.writeFiles (notices deeds) := by
  obtain ⟨_, live, rfl⟩ := sound.follows.writeFiles.found id channel found
  exact live.mem

theorem Run.oneSource (new : start.New) (run : Run start deeds s)
    (since : start.world.sources.length ≤ n) : OneSource deeds s n where
  present := run.source_open_iff new since
  isOpen r same held := by
    subst same
    rw [World.isReadable_iff, run.source_open_iff new since]
    exact and_iff_right held
  forGood shut more t rest r same := by
    subst same
    exact not_isReadable ((run.append rest).source_closed new (shut.append more))
  closeRead id channel found own r same := by
    subst same
    have later := run.append (s.run_closeRead found)
    refine not_isReadable (later.source_closed new (.inr ⟨id, channel, .caller, ?_, own, ?_⟩))
    · exact mem_readFiles_append ((run.sound new).issued_read found) _
    · exact List.mem_append_right _ (List.mem_cons_of_mem _ List.mem_cons_self)
  closeAll id channel found own r same := by
    subst same
    obtain ⟨more, rest, _, released, _⟩ := s.run_closeAll
    refine not_isReadable ((run.append rest).source_closed new
      (.inr ⟨id, channel, .everything, ?_, own, ?_⟩))
    · exact mem_readFiles_append ((run.sound new).issued_read found) _
    · exact List.mem_append_right _ (released id channel found)
  read shut r same count := by
    subst same
    exact World.read_of_shut (run.source_closed new shut)
  readExact shut r same count := by
    subst same
    exact World.readExact_of_shut (run.source_closed new shut) count
  readAll shut r same := by
    subst same
    exact World.readAll_of_shut (run.source_closed new shut)
  readNothing r _ := World.readExact_zero s.world r
  close shut r same := by
    subst same
    exact World.closeSource_of_shut (run.source_closed new shut)
  dropMore r same more := by
    subst same
    obtain ⟨shared, found, holders⟩ := (run.sound new).holdings.sources.exists_of_mem
      (List.count_pos_iff.1 (Nat.zero_lt_of_lt more))
    exact World.dropSource_more found (Nat.lt_of_lt_of_eq more holders.symm)
  dropLast r same last source isOpen := by
    subst same
    obtain ⟨shared, found, is⟩ := Option.bind_eq_some_iff.1 isOpen
    have held := (run.sound new).holdings.sources.holders _ since
    rw [last] at held
    exact World.dropSource_last found is ((Shared.holdersAt_of_some found).symm.trans held)
  unheld known unheld more t rest := run.unheld_to_read new rest known unheld

/-- A stream that is held and was not closed is open, and the first close flushes it. -/
theorem Step.firstClose (new : start.New) (run : Run start before t) (step : Step t deed u)
    (since : start.world.sinks.length ≤ n) {r : Except StreamError Unit}
    (closes : ClosesWith before deed n r) (unshut : ¬ SinkShut before n) : FirstClose t u n r := by
  have sound := run.sound new
  have isOpen (held : n ∈ t.holdings.writeRefs) : ∃ sink, t.world.openSink? ⟨n⟩ = some sink :=
    Option.isSome_iff_exists.1 ((run.sink_open_iff new since).2 ⟨held, unshut⟩)
  rcases closes with ⟨w, rfl, shows⟩ | ⟨id, channel, closer, issued, rfl, shows⟩
  · obtain ⟨holds, rfl, world⟩ := step.closedSink shows
    obtain ⟨sink, isOpen⟩ := isOpen (Holdings.Sound.mem_writeRefs holds)
    obtain ⟨result, host⟩ := World.closeSink_of_open isOpen
    rw [result]
    exact .flushed isOpen (world ▸ host) (world ▸ World.openSink?_closeSink t.world w)
  · obtain ⟨channel', closing, rfl, world⟩ := step.releasedWrite shows
    obtain rfl := sound.follows.writeFiles.numbered.issued_unique issued
      ((run.known new).writes _ closing)
    have mem : channel ∈ t.writes := List.mem_append_right _
      (List.mem_append_right _ (List.mem_map_of_mem closing))
    obtain ⟨sink, isOpen⟩ := isOpen
      (List.mem_append_right _ (List.mem_append_left _ (List.mem_map_of_mem mem)))
    obtain ⟨result, host⟩ := World.closeSink_of_open isOpen
    obtain ⟨shared, found, _⟩ := Option.bind_eq_some_iff.1 isOpen
    rw [result]
    refine .flushed isOpen ?_ ?_
    · rw [world, World.dropSink_host_of_shut (World.openSink?_closeSink t.world _)]
      exact host
    · rw [world]
      exact World.openSink?_of_set_self found (World.releaseSink_sinks found)

/-- Closing what is closed does nothing. -/
theorem Step.laterClose (new : start.New) (run : Run start before t) (step : Step t deed u)
    {r : Except StreamError Unit} (closes : ClosesWith before deed n r) (shut : SinkShut before n) :
    r = .ok () ∧ u.world.host = t.world.host := by
  have shut := run.sink_closed new shut
  rcases closes with ⟨w, rfl, shows⟩ | ⟨id, channel, closer, issued, rfl, shows⟩
  · obtain ⟨_, rfl, world⟩ := step.closedSink shows
    rw [world, World.closeSink_of_shut (w := w) shut]
    exact ⟨rfl, rfl⟩
  · obtain ⟨channel', closing, rfl, world⟩ := step.releasedWrite shows
    obtain rfl := (run.sound new).follows.writeFiles.numbered.issued_unique issued
      ((run.known new).writes _ closing)
    rw [world, World.closeSink_of_shut (w := channel.pipe) shut]
    exact ⟨rfl, World.dropSink_host_of_shut shut⟩

theorem Run.oneSink (new : start.New) (run : Run start deeds s)
    (since : start.world.sinks.length ≤ n) : OneSink start deeds s n where
  present := run.sink_open_iff new since
  isOpen w same held := by
    subst same
    rw [World.isWritable_iff, run.sink_open_iff new since]
    exact and_iff_right held
  forGood shut more t rest w same := by
    subst same
    exact not_isWritable ((run.append rest).sink_closed new (shut.append more))
  closeWrite id channel found own w same := by
    subst same
    obtain ⟨more, rest, released⟩ := s.run_closeWrite found
    refine not_isWritable ((run.append rest).sink_closed new
      (.inr ⟨id, channel, .caller, _, ?_, own, List.mem_append_right _ released⟩))
    exact mem_writeFiles_append ((run.sound new).issued_write found) _
  closeAll id channel found own w same := by
    subst same
    obtain ⟨more, rest, _, _, released⟩ := s.run_closeAll
    obtain ⟨r, released⟩ := released id channel found
    refine not_isWritable ((run.append rest).sink_closed new
      (.inr ⟨id, channel, .everything, r, ?_, own, List.mem_append_right _ released⟩))
    exact mem_writeFiles_append ((run.sound new).issued_write found) _
  write shut w same data := by
    subst same
    exact World.write_of_shut (run.sink_closed new shut) data
  flush shut w same := by
    subst same
    exact World.flush_of_shut (run.sink_closed new shut)
  writeAll shut w same b data := by
    subst same
    exact World.writeAll_of_shut (run.sink_closed new shut) b data
  writeNothing _ _ := rfl
  close shut w same := by
    subst same
    exact World.closeSink_of_shut (run.sink_closed new shut)
  firstClose before deed after r split closes unshut := by
    obtain ⟨t, u, first, step, rest⟩ := run.split split
    exact ⟨t, u, first, step, rest, step.firstClose new first since closes unshut⟩
  laterClose before deed after r split closes shut := by
    obtain ⟨t, u, first, step, rest⟩ := run.split split
    obtain ⟨result, host⟩ := step.laterClose new first closes shut
    exact ⟨result, t, u, first, step, rest, host⟩
  dropMore w same more := by
    subst same
    obtain ⟨shared, found, holders⟩ := (run.sound new).holdings.sinks.exists_of_mem
      (List.count_pos_iff.1 (Nat.zero_lt_of_lt more))
    exact World.dropSink_more found (Nat.lt_of_lt_of_eq more holders.symm)
  dropLast w same last sink isOpen := by
    subst same
    obtain ⟨shared, found, is⟩ := Option.bind_eq_some_iff.1 isOpen
    have held := (run.sound new).holdings.sinks.holders _ since
    rw [last] at held
    exact World.dropSink_last found is ((Shared.holdersAt_of_some found).symm.trans held)
  unheld known unheld more t rest := run.unheld_to_write new rest known unheld

/-- What all handles have in common at a moment. -/
structure Together (start : Stage) (deeds : List Deed) (s : Stage) : Prop where
  /-- How operations with closed handles fail. -/
  failure : StreamError.closed.isBrokenPipe = true ∧ StreamError.closed.message = "pipe is closed"
  /-- The streams that somebody has handles of were made since the start. -/
  readers : ∀ n ∈ s.holdings.readRefs, start.world.sources.length ≤ n
  writers : ∀ n ∈ s.holdings.writeRefs, start.world.sinks.length ≤ n
  sources : ∀ n, start.world.sources.length ≤ n → OneSource deeds s n
  sinks : ∀ n, start.world.sinks.length ≤ n → OneSink start deeds s n

/-- **Handles of one stream open and close together**, whatever callers do with their handles, with
channels and with instances:

* A stream is open until it is closed through any of its handles, or its channel is.  From then on
  it is closed for all of them.
* Every operation with a closed handle fails and changes nothing, but for closing it, which does
  nothing.
* Only the first of all closes flushes, and releases the stream whatever comes of that.
* A stream that is not closed is released with its last handle, those of the driver included. -/
theorem Run.handles_together (new : start.New) (run : Run start deeds s) :
    Together start deeds s where
  failure := ⟨rfl, rfl⟩
  readers := (run.sound new).holdings.sources.own
  writers := (run.sound new).holdings.sinks.own
  sources _ since := run.oneSource new since
  sinks _ since := run.oneSink new since

/-- A caller closes a handle of a channel that the driver still has.  The driver's handle is closed
as well. -/
theorem Run.handles_together_notes : sampleNotes.New ∧ ∃ s deeds, Run sampleNotes deeds s ∧
    s.driver.writeFiles.get? ⟨1⟩ = some { path := "/notes", pipe := ⟨0⟩ } ∧
    s.world.isWritable ⟨0⟩ = false ∧ s.world.write ⟨0⟩ [8] = some (.error .closed, s.world) := by
  have new : sampleNotes.New := ⟨rfl, rfl, rfl, rfl, rfl, rfl, rfl, rfl, rfl, rfl, rfl⟩
  have opened := (@Run.nil sampleNotes).snoc (.acquireWrite sampleNotes_acquireWrite)
  have registered := opened.snoc (.registerWrite List.mem_cons_self)
  have lent := registered.snoc (@Step.lendWrite _ ⟨1⟩ _ rfl)
  have run := lent.snoc (@Step.closeSink _ ⟨0⟩ List.mem_cons_self)
  have together := (Run.handles_together new run).sinks 0 (Nat.zero_le _)
  have shut {deeds : List Deed} {r : Except StreamError Unit} :
      SinkShut (deeds ++ [.closedSink ⟨0⟩ r]) 0 :=
    .inl ⟨⟨0⟩, r, rfl, List.mem_append_right _ (List.mem_singleton_self _)⟩
  exact ⟨new, _, _, run, rfl, together.forGood shut [] _ .nil ⟨0⟩ rfl,
    together.write shut ⟨0⟩ rfl [8]⟩

end Stage

end AlgorithmDriver

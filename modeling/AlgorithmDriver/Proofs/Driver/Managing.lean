import AlgorithmDriver.Proofs.Driver.Buffers
import AlgorithmDriver.Proofs.Driver.Staging
import AlgorithmDriver.Proofs.Host.Holders
import AlgorithmDriver.Proofs.Host.Pipes

/-!
# What is done with handles

Apart from starting instances, opening files, reading and writing, a driver copies, drops and closes
handles.

* `World.Quiet` says that meanwhile nothing is read or written and no sink is closed, and
  `World.Shuts` that one sink is flushed and closed.  `World.Manages` is any number of these.
* Each operation of a driver that opens nothing manages handles (`closeSink_manages`,
  `Instance.poll_manages`, `Driver.closeAll_manages` and the like).
* `Stage.Effect` says what a step on stage may do to the world (`Stage.Step.effect`).
-/

namespace AlgorithmDriver

namespace World

/-- An open stream has the description. -/
def Describes (world : World) (n : Nat) : Prop :=
  (∃ w sink, world.openSink? w = some sink ∧ sink.description = n) ∨
    ∃ r source, world.openSource? r = some source ∧ source.description = n

/-- Nothing is read or written, no stream is opened and no sink is closed. -/
structure Quiet (before after : World) : Prop where
  host : before.host.Untouched after.host
  muted : before.host.Muted after.host
  frees : before.host.Frees before.Describes after.host
  sources : ∀ r source, after.openSource? r = some source → before.openSource? r = some source
  sinks : ∀ w, after.openSink? w = before.openSink? w
  sourceCount : after.sources.length = before.sources.length
  sinkCount : after.sinks.length = before.sinks.length

/-- One sink is flushed and closed. -/
structure Shuts (w : WriteHandle) (sink : Sink) (before after : World) : Prop where
  found : before.openSink? w = some sink
  host : (sink.flush before.host).2.2.Untouched after.host
  muted : (sink.flush before.host).2.2.Muted after.host
  frees : (sink.flush before.host).2.2.Frees (· = sink.description) after.host
  shut : after.openSink? w = none
  others : ∀ w', w' ≠ w → after.openSink? w' = before.openSink? w'
  sources : after.sources = before.sources
  sinkCount : after.sinks.length = before.sinks.length

/-- Handles are copied, dropped and closed. -/
inductive Manages (start : World) : World → Prop
  | refl : Manages start start
  | quiet {world after : World} (manages : Manages start world) (quiet : world.Quiet after) :
      Manages start after
  | shut {world after : World} {w : WriteHandle} {sink : Sink} (manages : Manages start world)
      (shuts : world.Shuts w sink after) : Manages start after

variable {world after : World}

theorem Manages.trans {a b c : World} (first : a.Manages b) (second : b.Manages c) :
    a.Manages c := by
  induction second with
  | refl => exact first
  | quiet _ quiet ih => exact ih.quiet quiet
  | shut _ shuts ih => exact ih.shut shuts

theorem Quiet.manages (quiet : world.Quiet after) : world.Manages after := .quiet .refl quiet

/-- Handles are managed without anything being lost. -/
theorem Manages.spares (manages : world.Manages after) :
    world.host.Spares (fun _ => True) (fun _ => True) after.host := by
  induction manages with
  | refl => exact .refl _
  | quiet _ quiet ih => exact ih.trans (quiet.host.mono (fun _ _ => trivial) fun _ _ => trivial)
  | @shut _ _ _ sink _ shuts ih =>
    have flushed := (sink.flush_spares _).trans
      (shuts.host.mono (fun _ => False.elim) fun _ => False.elim)
    exact ih.trans (flushed.mono (fun _ _ => trivial) fun _ _ => trivial)

/-- A sink that is open was open before, and is as it was. -/
theorem Manages.sink_origin {w : WriteHandle} {sink : Sink} (manages : world.Manages after)
    (isOpen : after.openSink? w = some sink) : world.openSink? w = some sink := by
  induction manages with
  | refl => exact isOpen
  | quiet _ quiet ih => exact ih ((quiet.sinks w).symm.trans isOpen)
  | @shut _ _ w' _ _ shuts ih =>
    by_cases here : w = w'
    · subst here
      cases shuts.shut.symm.trans isOpen
    · exact ih ((shuts.others w here).symm.trans isOpen)

/-- What is closed stays closed. -/
theorem Manages.openSink?_eq_none {w : WriteHandle} (manages : world.Manages after)
    (isShut : world.openSink? w = none) : after.openSink? w = none :=
  Option.eq_none_iff_forall_ne_some.2 fun _ isOpen =>
    Option.some_ne_none _ ((manages.sink_origin isOpen).symm.trans isShut)

/-- What is done with handles changes no number of streams. -/
theorem Manages.counts (manages : world.Manages after) :
    after.sources.length = world.sources.length ∧ after.sinks.length = world.sinks.length := by
  induction manages with
  | refl => exact ⟨rfl, rfl⟩
  | quiet _ quiet ih => exact ⟨quiet.sourceCount.trans ih.1, quiet.sinkCount.trans ih.2⟩
  | shut _ shuts ih =>
    exact ⟨(congrArg List.length shuts.sources).trans ih.1, shuts.sinkCount.trans ih.2⟩

/-- Only the host goes on, and spares everything. -/
theorem Quiet.of_host
    (host : world.host.Untouched after.host) (muted : world.host.Muted after.host)
    (balanced : world.host.Balanced after.host) (sources : after.sources = world.sources)
    (sinks : after.sinks = world.sinks) : world.Quiet after where
  host := host
  muted := muted
  frees := balanced.mono fun _ => False.elim
  sources r _ isOpen := (openSource?_of_sources sources r).symm.trans isOpen
  sinks w := openSink?_of_sinks sinks w
  sourceCount := congrArg List.length sources
  sinkCount := congrArg List.length sinks

theorem Quiet.refl (world : World) : world.Quiet world :=
  .of_host (.refl _) (.refl _) (.refl _) rfl rfl

/-! ## Sources -/

section Sources

variable {r : ReadHandle} {shared : Shared Source}

/-- A source is held, given up or closed. -/
theorem Quiet.of_source {new : Shared Source} (found : world.source? r = some shared)
    (sources : after.sources = world.sources.set r.number new)
    (closes : new.stream = none ∨ new.stream = shared.stream)
    (host : world.host.Untouched after.host) (muted : world.host.Muted after.host)
    (frees : world.host.Frees world.Describes after.host) (sinks : after.sinks = world.sinks) :
    world.Quiet after where
  host := host
  muted := muted
  frees := frees
  sources r' source isOpen := by
    by_cases here : r' = r ∧ new.stream = none
    · obtain ⟨rfl, closed⟩ := here
      rw [openSource?_of_set_self found sources, closed] at isOpen
      cases isOpen
    · refine (openSource?_of_set found sources fun same => ?_).symm.trans isOpen
      exact closes.resolve_left fun closed => here ⟨same, closed⟩
  sinks w := openSink?_of_sinks sinks w
  sourceCount := (congrArg List.length sources).trans List.length_set
  sinkCount := congrArg List.length sinks

/-- Closing a source gives up its description. -/
theorem closeSource_host (world : World) (r : ReadHandle) :
    (world.closeSource r).host = world.host ∨ ∃ source, world.openSource? r = some source ∧
      (world.closeSource r).host = world.host.release source.description := by
  unfold closeSource
  split
  · rename_i source _ found
    refine .inr ⟨source, ?_, rfl⟩
    unfold openSource?
    rw [found]
    rfl
  · exact .inl rfl

theorem dropSource_host (world : World) (r : ReadHandle) :
    (world.dropSource r).host = world.host ∨ ∃ source, world.openSource? r = some source ∧
      (world.dropSource r).host = world.host.release source.description :=
  dropSource_keeps
    (P := fun after => after.host = world.host ∨ ∃ source, world.openSource? r = some source ∧
      after.host = world.host.release source.description)
    (.inl rfl) (closeSource_host world r) fun _ _ => id

/-- A description is given up, or not even that. -/
theorem untouched_of_release {host : Host} {freed : Nat → Prop}
    (released : after.host = host ∨ ∃ n, freed n ∧ after.host = host.release n) :
    host.Untouched after.host ∧ host.Muted after.host ∧ host.Frees freed after.host := by
  rcases released with same | ⟨n, isFreed, same⟩
  · rw [same]
    exact ⟨.refl _, .refl _, .refl _⟩
  · rw [same]
    exact ⟨Host.release_spares _ _, Host.release_muted _ _,
      (Host.release_frees _ _).mono fun _ here => here ▸ isFreed⟩

/-- A source is given up, or not even that. -/
theorem untouched_of_source {host : Host}
    (released : host = world.host ∨ ∃ source, world.openSource? r = some source ∧
      host = world.host.release source.description) :
    world.host.Untouched host ∧ world.host.Muted host ∧ world.host.Frees world.Describes host := by
  refine @untouched_of_release { world with host } world.host world.Describes
    (released.imp_right ?_)
  rintro ⟨source, isOpen, same⟩
  exact ⟨_, .inr ⟨r, source, isOpen, rfl⟩, same⟩

theorem holdSource_quiet (world : World) (r : ReadHandle) : world.Quiet (world.holdSource r) := by
  cases found : world.source? r with
  | none =>
    rw [holdSource_of_none found]
    exact .refl world
  | some shared =>
    have same : (world.holdSource r).host = world.host := by
      unfold holdSource
      rw [found]
      rfl
    obtain ⟨host, muted, frees⟩ := untouched_of_release (.inl same)
    exact .of_source found (holdSource_sources found) (.inr rfl) host muted frees
      (holdSource_sinks world r)

theorem closeSource_quiet (world : World) (r : ReadHandle) :
    world.Quiet (world.closeSource r) := by
  cases found : world.source? r with
  | none =>
    rw [closeSource_of_none found]
    exact .refl world
  | some shared =>
    obtain ⟨host, muted, frees⟩ := untouched_of_source (closeSource_host world r)
    exact .of_source found (closeSource_sources found) (.inl rfl) host muted frees
      (closeSource_sinks world r)

theorem dropSource_quiet (world : World) (r : ReadHandle) : world.Quiet (world.dropSource r) := by
  cases found : world.source? r with
  | none =>
    rw [dropSource_of_none found]
    exact .refl world
  | some shared =>
    obtain ⟨host, muted, frees⟩ := untouched_of_source (dropSource_host world r)
    refine .of_source found (dropSource_sources found) ?_ host muted frees (dropSource_sinks world r)
    dsimp only
    split
    · exact .inl rfl
    · exact .inr rfl

end Sources

/-! ## Sinks -/

section Sinks

variable {w : WriteHandle} {shared : Shared Sink}

/-- It is only counted how often a sink is held. -/
theorem Quiet.of_holders (found : world.sink? w = some shared) (holders : Nat) :
    world.Quiet (world.setSink w { shared with holders }) where
  host := .refl _
  muted := .refl _
  frees := .refl _
  sources _ _ isOpen := isOpen
  sinks _ := @openSink?_of_set world (world.setSink w { shared with holders }) w shared { shared with holders }
    found rfl _ fun _ => rfl
  sourceCount := rfl
  sinkCount := List.length_set

theorem holdSink_quiet (world : World) (w : WriteHandle) : world.Quiet (world.holdSink w) := by
  unfold holdSink
  split
  · exact .refl world
  · rename_i found
    exact .of_holders found _

theorem closeSink_shuts {sink : Sink} (isOpen : world.openSink? w = some sink) :
    world.Shuts w sink (world.closeSink w).2 := by
  obtain ⟨shared, found, _⟩ := Option.bind_eq_some_iff.1 isOpen
  have sinks := closeSink_sinks found
  obtain ⟨host, muted, frees⟩ := @untouched_of_release (world.closeSink w).2 _
    (· = sink.description) (.inr ⟨_, rfl, (closeSink_of_open isOpen).2⟩)
  refine ⟨isOpen, host, muted, frees, openSink?_closeSink world w, fun w' other => ?_,
    closeSink_sources world w, ?_⟩
  · exact openSink?_of_set found sinks fun same => absurd same other
  · rw [sinks, List.length_set]

theorem closeSink_manages (world : World) (w : WriteHandle) :
    world.Manages (world.closeSink w).2 := by
  cases isOpen : world.openSink? w with
  | none =>
    rw [closeSink_of_shut isOpen]
    exact .refl
  | some sink => exact .shut .refl (closeSink_shuts isOpen)

theorem dropSink_manages (world : World) (w : WriteHandle) :
    world.Manages (world.dropSink w) := by
  cases found : world.sink? w with
  | none =>
    rw [dropSink_of_none found]
    exact .refl
  | some shared =>
    by_cases last : shared.holders ≤ 1
    · have closed : (world.closeSink w).2.sink? w = some { shared with stream := none } :=
        sink?_of_set_self found (closeSink_sinks found)
      rw [dropSink_of_last found last closed]
      exact (closeSink_manages world w).quiet (.of_holders closed _)
    · rw [dropSink_of_more found (Nat.lt_of_not_le last)]
      exact (Quiet.of_holders found _).manages

end Sinks

end World

/-! ## Instances -/

namespace Instance

theorem releasePipes_manages (i : Instance) (world : World) :
    world.Manages (i.releasePipes world) :=
  i.releasePipes_keeps (P := world.Manages) .refl
    (fun after w manages => manages.trans (World.dropSink_manages after w))
    fun after r manages => manages.quiet (World.dropSource_quiet after r)

theorem poll_manages (i : Instance) (world : World) : world.Manages (i.poll world).2 := by
  have asked : world.Quiet { world with host := (world.host.tryWait i.process).2 } :=
    .of_host (Host.tryWait_spares _ _) (Host.tryWait_muted _ _) (Host.tryWait_balanced _ _) rfl rfl
  refine i.poll_keeps (P := world.Manages) .refl asked.manages (fun after entry manages => ?_)
    fun after manages => manages.trans (i.releasePipes_manages after)
  exact manages.quiet (.of_host (.refl _) (.refl _) (.refl _) rfl rfl)

theorem signal_manages (i : Instance) (world : World) : world.Manages (i.signal world).2 := by
  let host := world.host.send i.process Signal.kill
  have sent : world.Quiet (({ world with host } : World).record (.signalled i.name)) :=
    .of_host (Host.send_spares world.host i.process Signal.kill)
      (Host.send_muted world.host i.process Signal.kill)
      (Host.send_balanced world.host i.process Signal.kill) rfl rfl
  exact sent.manages.trans (i.releasePipes_manages _)

theorem reap_manages (i : Instance) (world : World) : world.Manages (i.reap world).2 := by
  have delivered : world.Quiet { world with host := world.host.deliver i.process } :=
    .of_host (Host.deliver_spares _ _) (Host.deliver_muted _ _) (Host.deliver_balanced _ _) rfl rfl
  have asked : world.Quiet
      { world with host := ((world.host.deliver i.process).tryWait i.process).2 } :=
    .of_host ((Host.deliver_spares _ _).trans (Host.tryWait_spares _ _))
      ((Host.deliver_muted _ _).trans (Host.tryWait_muted _ _))
      ((Host.deliver_balanced _ _).trans (Host.tryWait_balanced _ _)) rfl rfl
  exact i.reap_keeps (P := world.Manages) .refl delivered.manages asked.manages
    fun after manages => manages.trans (i.releasePipes_manages after)

theorem kill_manages (i : Instance) (id : AlgorithmId) (world : World) :
    world.Manages (i.kill id world).2.2 := by
  unfold kill
  dsimp only
  split
  · exact ((i.poll_manages world).trans (signal_manages _ _)).trans (poll_manages _ _)
  · exact i.poll_manages world

end Instance

theorem Departure.next_manages (d : Departure) (world : World) :
    world.Manages (d.next world).2 := by
  rcases d.next_cases world with ⟨_, next⟩ | ⟨_, next⟩
  · rw [next]
    exact d.i.releasePipes_manages world
  · rw [next]
    unfold settle
    split
    · exact d.i.signal_manages world
    · exact d.i.reap_manages world
    · exact d.i.poll_manages world

/-! ## Drivers -/

theorem World.record_quiet (world : World) (entry : LogEntry) : world.Quiet (world.record entry) :=
  .of_host (.refl _) (.refl _) (.refl _) rfl rfl

theorem World.releaseSource_manages (world : World) (r : ReadHandle) :
    world.Manages ((world.closeSource r).dropSource r) :=
  (closeSource_quiet world r).manages.quiet (dropSource_quiet _ r)

theorem World.releaseSink_manages (world : World) (w : WriteHandle) :
    world.Manages ((world.closeSink w).2.dropSink w) :=
  (closeSink_manages world w).trans (dropSink_manages _ w)

namespace Driver

theorem inputPipe_manages (driver : Driver) (id : AlgorithmId) (world : World) :
    world.Manages (driver.inputPipe id world).2.2 :=
  driver.inputPipe_world id world .refl fun w => (World.holdSink_quiet world w).manages

theorem outputPipe_manages (driver : Driver) (id : AlgorithmId) (world : World) :
    world.Manages (driver.outputPipe id world).2.2 :=
  driver.outputPipe_world id world .refl fun r => (World.holdSource_quiet world r).manages

theorem closeWrite_manages (driver : Driver) (id : WriteFileId) (world : World) :
    world.Manages (driver.closeWrite id world).2.2 := by
  unfold closeWrite
  split
  · exact .refl
  · rename_i channel _
    have released := world.releaseSink_manages channel.pipe
    dsimp only
    split
    · exact released
    · exact released.quiet (World.record_quiet _ _)

theorem closeRead_manages (driver : Driver) (id : ReadFileId) (world : World) :
    world.Manages (driver.closeRead id world).2.2 := by
  unfold closeRead
  split
  · exact .refl
  · exact (World.releaseSource_manages world _).trans (World.record_quiet _ _).manages

theorem tearDownInstance_manages (id : AlgorithmId) (i : Instance) (world : World) :
    world.Manages (tearDownInstance id i world) := by
  have killed : world.Manages (killLeftover id i world).2 := by
    have looked := i.poll_manages world
    unfold killLeftover
    dsimp only
    split
    · have recorded := looked.quiet (World.record_quiet _ (.killingLeftover id (i.poll world).1.name))
      have killed := recorded.trans ((i.poll world).1.kill_manages id _)
      split
      · rename_i outcome
        rw [outcome] at killed
        exact killed
      · rename_i outcome
        rw [outcome] at killed
        exact killed.quiet (World.record_quiet _ _)
    · exact looked
  have looked := killed.trans ((killLeftover id i world).1.poll_manages _)
  unfold tearDownInstance
  dsimp only
  refine World.Manages.trans ?_ (Instance.releasePipes_manages _ _)
  split
  · exact looked.trans (Instance.reap_manages _ _)
  · exact looked

theorem tearDownRead_manages (id : ReadFileId) (channel : Channel ReadHandle) (world : World) :
    world.Manages (tearDownRead id channel world) :=
  (World.record_quiet world _).manages.trans (World.releaseSource_manages _ _)

theorem tearDownWrite_manages (id : WriteFileId) (channel : Channel WriteHandle) (world : World) :
    world.Manages (tearDownWrite id channel world) := by
  have closed := (World.record_quiet world (.closingLeftover (.write id) channel.path)).manages.trans
    (World.closeSink_manages _ channel.pipe)
  unfold tearDownWrite
  dsimp only
  refine World.Manages.trans ?_ (World.dropSink_manages _ _)
  split
  · exact closed
  · exact closed.quiet (World.record_quiet _ _)

theorem foldl_manages {α : Type} {f : World → α → World}
    (manages : ∀ (world : World) (a : α), world.Manages (f world a)) (entries : List α) (world : World) :
    world.Manages (entries.foldl f world) := by
  induction entries generalizing world with
  | nil => exact .refl
  | cons a rest ih => exact (manages world a).trans (ih _)

theorem closeAll_manages (driver : Driver) (world : World) :
    world.Manages (driver.closeAll world).2 := by
  unfold closeAll drainAlgorithms drainReads drainWrites
  dsimp only
  refine (foldl_manages (fun _ _ => ?_) _ _).trans
    ((foldl_manages (fun _ _ => ?_) _ _).trans (foldl_manages (fun _ _ => ?_) _ _))
  · exact tearDownInstance_manages _ _ _
  · exact tearDownRead_manages _ _ _
  · exact tearDownWrite_manages _ _ _

/-! A channel to write to that is closed is closed for all its handles. -/

variable {driver : Driver} {id : WriteFileId} {channel : Channel WriteHandle}

theorem closeWrite_shuts (found : driver.writeFiles.get? id = some channel) (world : World) :
    (driver.closeWrite id world).2.2.openSink? channel.pipe = none := by
  have released := (World.dropSink_manages _ channel.pipe).openSink?_eq_none
    (World.openSink?_closeSink world channel.pipe)
  unfold closeWrite
  rw [found]
  dsimp only
  split
  · exact released
  · exact released

theorem tearDownWrite_shuts (id : WriteFileId) (channel : Channel WriteHandle) (world : World) :
    (tearDownWrite id channel world).openSink? channel.pipe = none := by
  have closed := World.openSink?_closeSink
    (world.record (.closingLeftover (.write id) channel.path)) channel.pipe
  unfold tearDownWrite
  dsimp only
  refine (World.dropSink_manages _ _).openSink?_eq_none ?_
  split
  · exact closed
  · exact closed

theorem foldl_shuts {entries : List (WriteFileId × Channel WriteHandle)}
    (mem : (id, channel) ∈ entries) (world : World) :
    (entries.foldl (fun world entry => tearDownWrite entry.1 entry.2 world) world).openSink?
      channel.pipe = none := by
  obtain ⟨before, after, rfl⟩ := List.append_of_mem mem
  rw [List.foldl_append, List.foldl_cons]
  exact (foldl_manages (fun _ _ => tearDownWrite_manages _ _ _) after _).openSink?_eq_none
    (tearDownWrite_shuts id channel _)

theorem closeAll_shuts (found : driver.writeFiles.get? id = some channel) (world : World) :
    (driver.closeAll world).2.openSink? channel.pipe = none := by
  have mem : (id, channel) ∈ driver.writeFiles.toList := by
    obtain ⟨before, after, entries, _⟩ := List.lookup_eq_some_iff.1 found
    refine List.mem_map.2 ⟨(id.raw, channel), ?_, rfl⟩
    rw [entries]
    exact List.mem_append_right _ List.mem_cons_self
  unfold closeAll drainAlgorithms drainReads drainWrites
  exact foldl_shuts mem _

end Driver

/-! ## On a stage -/

/-- What a caller wrote through a handle and was told to be accepted. -/
def Deed.accepted (w : WriteHandle) : Deed → Bytes
  | .wrote w' data (.ok m) => if w' = w then data.take m else []
  | _ => []

/-- What a caller was given when reading through a handle. -/
def Deed.given (r : ReadHandle) : Deed → Bytes
  | .read r' _ (.ok bytes) => if r' = r then bytes else []
  | _ => []

namespace Stage

variable {s t : Stage} {deed : Deed}

/-- What a step does to the world. -/
inductive Effect (s : Stage) : Deed → World → Prop
  | manages {deed : Deed} {world : World} (manages : s.world.Manages world)
      (unwritten : ∀ w, deed.accepted w = []) (unread : ∀ r, deed.given r = []) :
      Effect s deed world
  | spawn {name : String} {i : Instance} {world : World}
      (spawned : s.driver.spawn name s.world = .ok (i, world)) : Effect s .silent world
  | acquireRead {path : String} {channel : Channel ReadHandle} {world : World}
      (opened : Driver.acquireRead path s.world = .ok (channel, world)) : Effect s .silent world
  | acquireWrite {path : String} {channel : Channel WriteHandle} {world : World}
      (opened : Driver.acquireWrite path s.world = .ok (channel, world)) : Effect s .silent world
  | read {r : ReadHandle} {count : Nat} {result : Except StreamError Bytes} {world : World}
      (done : s.world.read r count = some (result, world)) : Effect s (.read r count result) world
  | write {w : WriteHandle} {data : Bytes} {result : Except StreamError Nat} {world : World}
      (done : s.world.write w data = some (result, world)) : Effect s (.wrote w data result) world
  | flush (w : WriteHandle) : Effect s (.flushed w (s.world.flush w).1) (s.world.flush w).2
  | elsewhere {world : World} (elsewhere : s.world.Elsewhere world) : Effect s .elsewhere world

theorem Step.effect (step : Step s deed t) : s.Effect deed t.world := by
  cases step with
  | spawn spawned => exact .spawn spawned
  | @look id i _ => exact .manages (i.poll_manages _) (fun _ => rfl) fun _ => rfl
  | @signal id i _ _ => exact .manages (i.signal_manages _) (fun _ => rfl) fun _ => rfl
  | inputPipe id =>
    exact .manages (s.driver.inputPipe_manages id s.world) (fun _ => rfl) fun _ => rfl
  | outputPipe id =>
    exact .manages (s.driver.outputPipe_manages id s.world) (fun _ => rfl) fun _ => rfl
  | @depart d _ _ _ =>
    refine .manages (d.next_manages _) (fun _ => ?_) fun _ => ?_
    all_goals split <;> rfl
  | @depose d _ _ => exact .manages (d.next_manages _) (fun _ => rfl) fun _ => rfl
  | acquireRead opened => exact .acquireRead opened
  | acquireWrite opened => exact .acquireWrite opened
  | @releaseRead c _ =>
    exact .manages (World.releaseSource_manages _ c.value.pipe) (fun _ => rfl) fun _ => rfl
  | @releaseWrite c _ =>
    exact .manages (World.releaseSink_manages _ c.value.pipe) (fun _ => rfl) fun _ => rfl
  | lendRead _ | holdSource _ =>
    exact .manages (World.holdSource_quiet _ _).manages (fun _ => rfl) fun _ => rfl
  | lendWrite _ | holdSink _ =>
    exact .manages (World.holdSink_quiet _ _).manages (fun _ => rfl) fun _ => rfl
  | dropSource _ => exact .manages (World.dropSource_quiet _ _).manages (fun _ => rfl) fun _ => rfl
  | closeSource _ => exact .manages (World.closeSource_quiet _ _).manages (fun _ => rfl) fun _ => rfl
  | dropSink _ => exact .manages (World.dropSink_manages _ _) (fun _ => rfl) fun _ => rfl
  | closeSink _ => exact .manages (World.closeSink_manages _ _) (fun _ => rfl) fun _ => rfl
  | read _ done => exact .read done
  | write _ done => exact .write done
  | flush _ => exact .flush _
  | elsewhere elsewhere => exact .elsewhere elsewhere
  | register _ | registerRead _ | registerWrite _ | record _ =>
    exact .manages (World.record_quiet s.world _).manages (fun _ => rfl) fun _ => rfl
  | takeInstances | takeRead _ | takeReads | takeWrite _ | takeWrites =>
    exact .manages .refl (fun _ => rfl) fun _ => rfl

end Stage

end AlgorithmDriver

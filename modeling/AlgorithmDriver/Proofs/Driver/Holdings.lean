import AlgorithmDriver.Proofs.Driver.Custody
import AlgorithmDriver.Proofs.Driver.Registry
import AlgorithmDriver.Proofs.Driver.Streams
import Mathlib.Data.List.Perm.Basic

/-!
# Who holds which stream

Handles are held by the callers of a driver, by its channels, and by its instances as long as they
have not lent or released them.  A channel or an instance may be on its way into its table or out of
it; it holds its handles all the same.

* `Holdings` are all of these at some moment.  They are `Sound` if every stream has exactly the
  handles that are held, and every channel and every instance has its streams to itself.
* What is done with handles, channels and instances keeps this (`Sound.lendSink`, `Sound.dropSink`,
  `Sound.settle`, `Sound.addInstance`, `Sound.releaseRead` and the like).
* Hence a stream that a caller holds a handle of outlives whatever an instance releases
  (`Sound.openSource?_of_settles`,
  `Sound.openSink?_of_settles`).
-/

namespace AlgorithmDriver

/-! ## Streams of instances -/

namespace Instance

/-- The stream of the input, as long as the instance itself holds it. -/
def keptInput (i : Instance) : List Nat :=
  match i.input with
  | .owned pipe => [pipe.number]
  | _ => []

/-- The stream of the input, held by the instance or lent. -/
def inputStream (i : Instance) : List Nat := (i.input.pipe?.map WriteHandle.number).toList

/-- The stream of the output. -/
def outputStream (i : Instance) : List Nat := (i.output.map ReadHandle.number).toList

theorem keptInput_sublist (i : Instance) : i.keptInput.Sublist i.inputStream := by
  unfold keptInput inputStream Input.pipe?
  cases i.input with
  | owned pipe => exact .refl _
  | lent pipe => exact List.nil_sublist _
  | released => exact .slnil

/-- What becomes of an instance when it is looked at, signalled or waited for: it keeps its pipes,
or it has ended and drops its handles. -/
inductive Settles (i : Instance) (world : World) : Instance → World → Prop
  | kept {i' : Instance} {after : World} (input : i'.input = i.input) (output : i'.output = i.output)
      (sources : after.sources = world.sources) (sinks : after.sinks = world.sinks) :
      Settles i world i' after
  | ended {i' : Instance} (between : World) (input : i'.input = .released)
      (output : i'.output = none) (sources : between.sources = world.sources)
      (sinks : between.sinks = world.sinks) : Settles i world i' (i.releasePipes between)

theorem poll_settles (i : Instance) (world : World) :
    i.Settles world (i.poll world).1 (i.poll world).2 := by
  rcases Custody.poll_cases i world with ⟨host, reaped, _, looked⟩ | ⟨status, _, looked⟩
  · rw [looked]
    exact .kept rfl rfl rfl rfl
  · rw [looked]
    exact .ended (({ world with host := _ } : World).record _) rfl rfl rfl rfl

theorem signal_settles (i : Instance) (world : World) :
    i.Settles world (i.signal world).1 (i.signal world).2 :=
  .ended (({ world with host := _ } : World).record _) rfl rfl rfl rfl

theorem reap_settles (i : Instance) (world : World) :
    i.Settles world (i.reap world).1 (i.reap world).2 := by
  rcases i.reap_spec world with ⟨_, same⟩ | ⟨_, _, same⟩ | ⟨_, _, ⟨_, same⟩ | ⟨_, same⟩⟩
  · rw [same]
    exact .kept rfl rfl rfl rfl
  · rw [same]
    exact .kept rfl rfl rfl rfl
  · rw [same]
    exact .kept rfl rfl rfl rfl
  · rw [same]
    exact .ended { world with host := _ } rfl rfl rfl rfl

/-- When an instance drops its handles, that of its output is dropped. -/
theorem releasePipes_sources (i : Instance) (world : World) :
    (i.releasePipes world).sources =
      (match i.output with
        | some pipe => world.dropSource pipe
        | none => world).sources := by
  unfold releasePipes
  cases i.output with
  | some r =>
    dsimp only
    split
    · exact World.dropSource_congr (World.dropSink_sources world _) r
    · rfl
  | none =>
    dsimp only
    split
    · exact World.dropSink_sources world _
    · rfl

end Instance

/-! ## Holdings -/

/-- The instances and channels of a driver, wherever they are, and the handles of its callers. -/
structure Holdings where
  world : World
  instances : List Instance := []
  reads : List (Channel ReadHandle) := []
  writes : List (Channel WriteHandle) := []
  readers : List ReadHandle := []
  writers : List WriteHandle := []

namespace Holdings

/-- The streams to read from that channels and instances have. -/
def readStations (h : Holdings) : List Nat :=
  h.reads.map (fun channel => channel.pipe.number) ++ h.instances.flatMap Instance.outputStream

/-- The streams to write to that channels and instances have. -/
def writeStations (h : Holdings) : List Nat :=
  h.writes.map (fun channel => channel.pipe.number) ++ h.instances.flatMap Instance.inputStream

/-- All handles to read with. -/
def readRefs (h : Holdings) : List Nat := h.readers.map ReadHandle.number ++ h.readStations

/-- All handles to write with. -/
def writeRefs (h : Holdings) : List Nat :=
  h.writers.map WriteHandle.number ++
    (h.writes.map (fun channel => channel.pipe.number) ++ h.instances.flatMap Instance.keptInput)

/-- Every stream that was made since `start` has exactly the handles that are held, and channels
and instances have their streams to themselves. -/
structure Sound (start : World) (h : Holdings) : Prop where
  sources : Shared.Counted start.sources.length h.world.sources h.readRefs
  sinks : Shared.Counted start.sinks.length h.world.sinks h.writeRefs
  readApart : h.readStations.Nodup
  writeApart : h.writeStations.Nodup
  issued : ∀ n ∈ h.writeStations, start.sinks.length ≤ n ∧ n < h.world.sinks.length

namespace Sound

variable {start after : World} {h h' : Holdings} {i i' : Instance} {rest : List Instance}
  {r : ReadHandle} {w : WriteHandle}

/-- It does not matter in which order, nor where instances and channels are. -/
theorem of_perm (sound : h.Sound start) (sources : h'.world.sources = h.world.sources)
    (sinks : h'.world.sinks = h.world.sinks) (instances : h.instances.Perm h'.instances)
    (reads : h.reads.Perm h'.reads) (writes : h.writes.Perm h'.writes)
    (readers : h.readers.Perm h'.readers) (writers : h.writers.Perm h'.writers) :
    h'.Sound start := by
  have readStations : h.readStations.Perm h'.readStations :=
    (reads.map _).append (instances.flatMap_right _)
  have writeStations : h.writeStations.Perm h'.writeStations :=
    (writes.map _).append (instances.flatMap_right _)
  refine ⟨?_, ?_, readStations.nodup sound.readApart, writeStations.nodup sound.writeApart, ?_⟩
  · rw [sources]
    exact sound.sources.perm ((readers.map _).append readStations)
  · rw [sinks]
    exact sound.sinks.perm
      ((writers.map _).append ((writes.map _).append (instances.flatMap_right _)))
  · rw [sinks]
    intro n mem
    exact sound.issued n (writeStations.mem_iff.2 mem)

/-- Only the streams matter. -/
theorem quiet (sound : h.Sound start) (sources : after.sources = h.world.sources)
    (sinks : after.sinks = h.world.sinks) : { h with world := after }.Sound start :=
  sound.of_perm sources sinks (.refl _) (.refl _) (.refl _) (.refl _) (.refl _)

theorem mem_readRefs (holds : r ∈ h.readers) : r.number ∈ h.readRefs :=
  List.mem_append_left _ (List.mem_map_of_mem holds)

theorem mem_writeRefs (holds : w ∈ h.writers) : w.number ∈ h.writeRefs :=
  List.mem_append_left _ (List.mem_map_of_mem holds)

/-! ### Handles to read with -/

/-- A caller gets a copy of a handle that is held. -/
theorem lendSource (sound : h.Sound start) (held : r.number ∈ h.readRefs) :
    { h with world := h.world.holdSource r, readers := r :: h.readers }.Sound start := by
  obtain ⟨shared, found, _⟩ := sound.sources.exists_of_mem held
  have counted := sound.sources.hold { shared with holders := shared.holders + 1 } held found rfl
  rw [← World.holdSource_sources found] at counted
  have same := World.holdSource_sinks h.world r
  refine ⟨counted, ?_, sound.readApart, sound.writeApart, ?_⟩
  · rw [same]
    exact sound.sinks
  · rw [same]
    exact sound.issued

/-- A handle is dropped, whoever held it. -/
theorem sourceDropped (sound : h.Sound start)
    (sources : h'.world.sources = (h.world.dropSource r).sources)
    (sinks : h'.world.sinks = h.world.sinks) (refs : h.readRefs.Perm (r.number :: h'.readRefs))
    (stations : h'.readStations.Sublist h.readStations) (writeRefs : h'.writeRefs = h.writeRefs)
    (writeStations : h'.writeStations = h.writeStations) : h'.Sound start := by
  have counted := sound.sources.perm refs
  obtain ⟨shared, found, _⟩ := counted.exists_of_mem List.mem_cons_self
  have dropped := counted.drop
    { stream := if shared.holders ≤ 1 then none else shared.stream
      holders := shared.holders - 1 } found rfl
  rw [← World.dropSource_sources found, ← sources] at dropped
  refine ⟨dropped, ?_, sound.readApart.sublist stations, ?_, ?_⟩
  · rw [sinks, writeRefs]
    exact sound.sinks
  · rw [writeStations]
    exact sound.writeApart
  · rw [sinks, writeStations]
    exact sound.issued

theorem dropSource (sound : h.Sound start) {readers : List ReadHandle}
    (holds : h.readers.Perm (r :: readers)) :
    { h with world := h.world.dropSource r, readers }.Sound start :=
  sound.sourceDropped rfl (World.dropSource_sinks h.world r)
    ((holds.map ReadHandle.number).append (.refl h.readStations)) (.refl _) rfl rfl

theorem closeSource (sound : h.Sound start) (held : r.number ∈ h.readRefs) :
    { h with world := h.world.closeSource r }.Sound start := by
  obtain ⟨shared, found, _⟩ := sound.sources.exists_of_mem held
  have counted := sound.sources.use { shared with stream := none } found
    (sound.sources.own _ held) rfl
  rw [← World.closeSource_sources found] at counted
  have same := World.closeSource_sinks h.world r
  refine ⟨counted, ?_, sound.readApart, sound.writeApart, ?_⟩
  · rw [same]
    exact sound.sinks
  · rw [same]
    exact sound.issued

theorem read (sound : h.Sound start) (held : r.number ∈ h.readRefs) {count : Nat}
    {result : Except StreamError Bytes} (done : h.world.read r count = some (result, after)) :
    { h with world := after }.Sound start := by
  have same := World.read_sinks done
  refine ⟨?_, ?_, sound.readApart, sound.writeApart, ?_⟩
  · rcases World.read_sources done with same | ⟨source, source', holders, found, changed⟩
    · rw [same]
      exact sound.sources
    · rw [changed]
      exact sound.sources.use _ found (sound.sources.own _ held) rfl
  · rw [same]
    exact sound.sinks
  · rw [same]
    exact sound.issued

/-! ### Handles to write with -/

theorem lendSink (sound : h.Sound start) (held : w.number ∈ h.writeRefs) :
    { h with world := h.world.holdSink w, writers := w :: h.writers }.Sound start := by
  obtain ⟨shared, found, _⟩ := sound.sinks.exists_of_mem held
  have counted := sound.sinks.hold { shared with holders := shared.holders + 1 } held found rfl
  rw [← World.holdSink_sinks found] at counted
  refine ⟨?_, counted, sound.readApart, sound.writeApart, ?_⟩
  · rw [World.holdSink_sources]
    exact sound.sources
  · rw [World.holdSink_sinks found, List.length_set]
    exact sound.issued

/-- A handle is dropped, whoever held it. -/
theorem sinkDropped (sound : h.Sound start)
    (sinks : h'.world.sinks = (h.world.dropSink w).sinks)
    (sources : h'.world.sources = h.world.sources)
    (refs : h.writeRefs.Perm (w.number :: h'.writeRefs))
    (stations : h'.writeStations.Sublist h.writeStations) (readRefs : h'.readRefs = h.readRefs)
    (readStations : h'.readStations = h.readStations) : h'.Sound start := by
  have counted := sound.sinks.perm refs
  obtain ⟨shared, found, _⟩ := counted.exists_of_mem List.mem_cons_self
  have dropped := counted.drop
    { stream := if shared.holders ≤ 1 then none else shared.stream
      holders := shared.holders - 1 } found rfl
  rw [← World.dropSink_sinks found, ← sinks] at dropped
  refine ⟨?_, dropped, ?_, sound.writeApart.sublist stations, ?_⟩
  · rw [sources, readRefs]
    exact sound.sources
  · rw [readStations]
    exact sound.readApart
  · rw [sinks, World.dropSink_sinks found, List.length_set]
    intro n mem
    exact sound.issued n (stations.subset mem)

theorem dropSink (sound : h.Sound start) {writers : List WriteHandle}
    (holds : h.writers.Perm (w :: writers)) :
    { h with world := h.world.dropSink w, writers }.Sound start :=
  sound.sinkDropped rfl (World.dropSink_sources h.world w)
    ((holds.map WriteHandle.number).append (.refl _)) (.refl _) rfl rfl

theorem closeSink (sound : h.Sound start) (held : w.number ∈ h.writeRefs) :
    { h with world := (h.world.closeSink w).2 }.Sound start := by
  obtain ⟨shared, found, _⟩ := sound.sinks.exists_of_mem held
  have counted := sound.sinks.use { shared with stream := none } found
    (sound.sinks.own _ held) rfl
  rw [← World.closeSink_sinks found] at counted
  refine ⟨?_, counted, sound.readApart, sound.writeApart, ?_⟩
  · rw [World.closeSink_sources]
    exact sound.sources
  · rw [World.closeSink_sinks found, List.length_set]
    exact sound.issued

/-- A stream is written to, or flushed. -/
theorem useSink (sound : h.Sound start) (held : w.number ∈ h.writeRefs)
    (sources : after.sources = h.world.sources)
    (sinks : after.sinks = h.world.sinks ∨
      ∃ sink sink' holders, h.world.sink? w = some { stream := some sink, holders } ∧
        after.sinks = h.world.sinks.set w.number { stream := some sink', holders }) :
    { h with world := after }.Sound start := by
  rcases sinks with same | ⟨sink, sink', holders, found, changed⟩
  · exact sound.quiet sources same
  · refine ⟨?_, ?_, sound.readApart, sound.writeApart, ?_⟩
    · rw [sources]
      exact sound.sources
    · rw [changed]
      exact sound.sinks.use _ found (sound.sinks.own _ held) rfl
    · rw [changed, List.length_set]
      exact sound.issued

/-! ### Channels -/

/-- What a channel or an instance has stands between what others have. -/
theorem perm_station {α : Type} {first second rest : List α} {n : α} :
    (first ++ (second ++ n :: rest)).Perm (n :: (first ++ (second ++ rest))) := by
  rw [← List.append_assoc, ← List.append_assoc]
  exact List.perm_middle

/-- A channel to read from that was just opened holds its stream. -/
theorem addRead (sound : h.Sound start) {path : String} {channel : Channel ReadHandle}
    (opened : Driver.acquireRead path h.world = .ok (channel, after)) :
    { h with world := after, reads := channel :: h.reads }.Sound start := by
  obtain ⟨-, description, host, _, _, rfl, rfl⟩ := Driver.acquireRead_eq_ok_iff.1 opened
  have fresh : h.world.sources.length ∉ h.readStations := by
    intro mem
    exact Nat.lt_irrefl _ (sound.sources.lt_length (List.mem_append_right (h.readers.map _) mem))
  exact ⟨(sound.sources.add _ rfl).perm List.perm_middle.symm, sound.sinks,
    List.nodup_cons.2 ⟨fresh, sound.readApart⟩, sound.writeApart, sound.issued⟩

/-- A channel to write to that was just opened holds its stream. -/
theorem addWrite (sound : h.Sound start) {path : String} {channel : Channel WriteHandle}
    (opened : Driver.acquireWrite path h.world = .ok (channel, after)) :
    { h with world := after, writes := channel :: h.writes }.Sound start := by
  obtain ⟨-, description, host, _, rfl, rfl⟩ := Driver.acquireWrite_eq_ok_iff.1 opened
  have fresh : h.world.sinks.length ∉ h.writeStations := fun mem =>
    Nat.lt_irrefl _ (sound.issued _ mem).2
  refine ⟨sound.sources, (sound.sinks.add _ rfl).perm List.perm_middle.symm, sound.readApart,
    List.nodup_cons.2 ⟨fresh, sound.writeApart⟩, ?_⟩
  intro n mem
  rw [List.length_append]
  rcases List.mem_cons.1 mem with rfl | old
  · exact ⟨sound.sinks.bound, Nat.lt_succ_self _⟩
  · obtain ⟨lower, upper⟩ := sound.issued n old
    exact ⟨lower, Nat.lt_succ_of_lt upper⟩

/-- A channel to read from is closed and gives up its handle. -/
theorem releaseRead (sound : h.Sound start) {channel : Channel ReadHandle}
    {reads : List (Channel ReadHandle)} (has : h.reads.Perm (channel :: reads)) :
    { h with
      world := (h.world.closeSource channel.pipe).dropSource channel.pipe, reads }.Sound start := by
  have held : channel.pipe.number ∈ h.readRefs := by
    refine List.mem_append_right _ (List.mem_append_left _ ?_)
    exact List.mem_map_of_mem (has.mem_iff.2 List.mem_cons_self)
  have ordered : { h with reads := channel :: reads }.Sound start :=
    sound.of_perm rfl rfl (.refl _) has (.refl _) (.refl _) (.refl _)
  have closed : { h with
      world := h.world.closeSource channel.pipe, reads := channel :: reads }.Sound start :=
    (sound.closeSource held).of_perm rfl rfl (.refl _) has (.refl _) (.refl _) (.refl _)
  exact closed.sourceDropped rfl (World.dropSource_sinks _ _) List.perm_middle
    (List.sublist_cons_self _ _) rfl rfl

/-- A channel to write to is closed and gives up its handle. -/
theorem releaseWrite (sound : h.Sound start) {channel : Channel WriteHandle}
    {writes : List (Channel WriteHandle)} (has : h.writes.Perm (channel :: writes)) :
    { h with
      world := (h.world.closeSink channel.pipe).2.dropSink channel.pipe, writes }.Sound start := by
  have held : channel.pipe.number ∈ h.writeRefs := by
    refine List.mem_append_right _ (List.mem_append_left _ ?_)
    exact List.mem_map_of_mem (has.mem_iff.2 List.mem_cons_self)
  have closed : { h with
      world := (h.world.closeSink channel.pipe).2, writes := channel :: writes }.Sound start :=
    (sound.closeSink held).of_perm rfl rfl (.refl _) (.refl _) has (.refl _) (.refl _)
  exact closed.sinkDropped rfl (World.dropSink_sources _ _) List.perm_middle
    (List.sublist_cons_self _ _) rfl rfl

/-! ### Instances -/

/-- An instance that was just started holds its input and its output. -/
theorem addInstance (sound : h.Sound start) {name : String} {command : Command}
    {policy : ErrorPolicy} (started : Instance.start name command policy h.world = .ok (i, after)) :
    { h with world := after, instances := i :: h.instances }.Sound start := by
  obtain ⟨-, errors, host, program, _, -, rfl, rfl⟩ := Instance.start_eq_ok_iff.1 started
  have freshSource : h.world.sources.length ∉ h.readStations := by
    intro mem
    exact Nat.lt_irrefl _ (sound.sources.lt_length (List.mem_append_right (h.readers.map _) mem))
  have freshSink : h.world.sinks.length ∉ h.writeStations := fun mem =>
    Nat.lt_irrefl _ (sound.issued _ mem).2
  refine ⟨?_, ?_, ?_, ?_, ?_⟩
  · exact (sound.sources.add _ rfl).perm perm_station.symm
  · exact (sound.sinks.add _ rfl).perm perm_station.symm
  · exact List.perm_middle.nodup_iff.2 (List.nodup_cons.2 ⟨freshSource, sound.readApart⟩)
  · exact List.perm_middle.nodup_iff.2 (List.nodup_cons.2 ⟨freshSink, sound.writeApart⟩)
  · intro n mem
    rw [List.length_append]
    rcases List.mem_cons.1 (List.perm_middle.mem_iff.1 mem) with rfl | old
    · exact ⟨sound.sinks.bound, Nat.lt_succ_self _⟩
    · obtain ⟨lower, upper⟩ := sound.issued n old
      exact ⟨lower, Nat.lt_succ_of_lt upper⟩

/-- An instance gives up its input. -/
theorem releaseInput (sound : h.Sound start) (has : h.instances.Perm (i :: rest))
    (sinks : after.sinks =
      (match i.input with
        | .owned pipe => h.world.dropSink pipe
        | _ => h.world).sinks)
    (sources : after.sources = h.world.sources) :
    { h with world := after, instances := { i with input := .released } :: rest }.Sound start := by
  have ordered : { h with instances := i :: rest }.Sound start :=
    sound.of_perm rfl rfl has (.refl _) (.refl _) (.refl _) (.refl _)
  obtain ⟨name, process, status, reaped, input, output⟩ := i
  have fewer (n : Nat) : (h.writes.map (fun channel => channel.pipe.number) ++
      rest.flatMap Instance.inputStream).Sublist
        (h.writes.map (fun channel => channel.pipe.number) ++
          n :: rest.flatMap Instance.inputStream) :=
    (List.Sublist.refl _).append (List.sublist_cons_self _ _)
  cases input with
  | owned pipe => exact ordered.sinkDropped sinks sources perm_station (fewer _) rfl rfl
  | lent pipe =>
    refine ⟨?_, ?_, ordered.readApart, ordered.writeApart.sublist (fewer _), fun n mem => ?_⟩
    · rw [sources]
      exact ordered.sources
    · rw [sinks]
      exact ordered.sinks
    · rw [sinks]
      exact ordered.issued n ((fewer _).subset mem)
  | released => exact ordered.quiet sources sinks

/-- An instance without an input gives up its output, and is gone or has no pipes any more. -/
theorem releaseOutput {h : Holdings} (sound : h.Sound start)
    (has : h.instances = { i with input := .released } :: rest)
    (sources : after.sources =
      (match i.output with
        | some pipe => h.world.dropSource pipe
        | none => h.world).sources)
    (sinks : after.sinks = h.world.sinks) : { h with world := after, instances := rest }.Sound start
    := by
  obtain ⟨name, process, status, reaped, input, output⟩ := i
  have readRefs : h.readRefs = h.readers.map ReadHandle.number ++
      (h.reads.map (fun channel => channel.pipe.number) ++
        ((output.map ReadHandle.number).toList ++ rest.flatMap Instance.outputStream)) := by
    unfold Holdings.readRefs Holdings.readStations
    rw [has]
    rfl
  have readStations : h.readStations = h.reads.map (fun channel => channel.pipe.number) ++
      ((output.map ReadHandle.number).toList ++ rest.flatMap Instance.outputStream) := by
    unfold Holdings.readStations
    rw [has]
    rfl
  have writeRefs : h.writeRefs = { h with world := after, instances := rest }.writeRefs := by
    unfold Holdings.writeRefs
    rw [has]
    rfl
  have writeStations :
      h.writeStations = { h with world := after, instances := rest }.writeStations := by
    unfold Holdings.writeStations
    rw [has]
    rfl
  cases output with
  | some pipe =>
    refine sound.sourceDropped sources sinks ?_ ?_ writeRefs.symm writeStations.symm
    · rw [readRefs]
      exact perm_station
    · rw [readStations]
      exact (List.Sublist.refl _).append (List.sublist_cons_self _ _)
  | none =>
    refine ⟨?_, ?_, ?_, ?_, ?_⟩
    · rw [sources]
      exact (congrArg (Shared.Counted _ _) readRefs).mp sound.sources
    · rw [sinks, ← writeRefs]
      exact sound.sinks
    · exact (congrArg List.Nodup readStations).mp sound.readApart
    · rw [← writeStations]
      exact sound.writeApart
    · rw [sinks, ← writeStations]
      exact sound.issued

/-- An instance drops its handles. -/
theorem releaseInstance (sound : h.Sound start) (has : h.instances.Perm (i :: rest))
    {between : World} (sources : between.sources = h.world.sources)
    (sinks : between.sinks = h.world.sinks) :
    { h with world := i.releasePipes between, instances := rest }.Sound start := by
  -- The input goes first; the output does not depend on it.
  let middle : World := { between with sinks := (i.releasePipes between).sinks }
  have first : middle.sinks =
      (match i.input with
        | .owned pipe => h.world.dropSink pipe
        | _ => h.world).sinks := by
    refine (Custody.releasePipes_sinks i between).trans ?_
    cases i.input with
    | owned pipe => exact World.dropSink_congr sinks pipe
    | lent pipe => exact sinks
    | released => exact sinks
  have second : (i.releasePipes between).sources =
      (match i.output with
        | some pipe => middle.dropSource pipe
        | none => middle).sources := by
    refine (Instance.releasePipes_sources i between).trans ?_
    cases i.output with
    | some r => exact (World.dropSource_congr (show middle.sources = between.sources from rfl) r).symm
    | none => rfl
  exact (sound.releaseInput has first sources).releaseOutput rfl second rfl

theorem settle (sound : h.Sound start) (has : h.instances.Perm (i :: rest))
    (settles : i.Settles h.world i' after) :
    { h with world := after, instances := i' :: rest }.Sound start := by
  cases settles with
  | kept input output sources sinks =>
    have ordered : { h with instances := i :: rest }.Sound start :=
      sound.of_perm rfl rfl has (.refl _) (.refl _) (.refl _) (.refl _)
    have kept := ordered.quiet sources sinks
    obtain ⟨name, process, status, reaped, _, _⟩ := i'
    obtain rfl := input
    obtain rfl := output
    exact ⟨kept.sources, kept.sinks, kept.readApart, kept.writeApart, kept.issued⟩
  | ended between input output sources sinks =>
    have gone := sound.releaseInstance has sources sinks
    obtain ⟨name, process, status, reaped, _, _⟩ := i'
    obtain rfl := input
    obtain rfl := output
    exact ⟨gone.sources, gone.sinks, gone.readApart, gone.writeApart, gone.issued⟩

/-- An instance is asked for its input. -/
theorem inputPipe (sound : h.Sound start) (has : h.instances.Perm (i :: rest)) :
    { h with
      world := (i.inputPipe h.world).2.2
      instances := (i.inputPipe h.world).2.1 :: rest
      writers := (i.inputPipe h.world).1.toList ++ h.writers }.Sound start := by
  have ordered : { h with instances := i :: rest }.Sound start :=
    sound.of_perm rfl rfl has (.refl _) (.refl _) (.refl _) (.refl _)
  obtain ⟨name, process, status, reaped, input, output⟩ := i
  cases input with
  | owned pipe =>
    refine ⟨ordered.sources, ordered.sinks.perm ?_, ordered.readApart, ordered.writeApart,
      ordered.issued⟩
    exact perm_station
  | lent pipe =>
    rw [Custody.inputPipe_of_lent rfl]
    split
    · rename_i alive
      refine ordered.lendSink ?_
      have issued := ordered.issued pipe.number (List.mem_append_right _ List.mem_cons_self)
      rw [← List.count_pos_iff, ← ordered.sinks.holders _ issued.1]
      unfold World.isAlive at alive
      split at alive
      · rename_i shared found
        rw [Shared.holdersAt_of_some found]
        exact of_decide_eq_true alive
      · cases alive
    · exact ordered
  | released => exact ordered

/-- An instance is asked for its output. -/
theorem outputPipe (sound : h.Sound start) (has : i ∈ h.instances) :
    { h with
      world := (i.outputPipe h.world).2
      readers := (i.outputPipe h.world).1.toList ++ h.readers }.Sound start := by
  rcases i.outputPipe_cases h.world with ⟨r, output, answer⟩ | answer
  · rw [answer]
    refine sound.lendSource ?_
    refine List.mem_append_right _ (List.mem_append_right _ (List.mem_flatMap.2 ⟨i, has, ?_⟩))
    unfold Instance.outputStream
    rw [output]
    exact List.mem_cons_self
  · rw [answer]
    exact sound

/-! ### What an instance releases -/

/-- A stream is left open by an instance that has ended, unless it is that of its output and nobody
else holds a handle of it. -/
theorem openSource?_of_settles (sound : h.Sound start) (has : h.instances.Perm (i :: rest))
    (settles : i.Settles h.world i' after)
    (kept : r ∈ h.readers ∨ r.number ∉ i.outputStream) :
    after.openSource? r = h.world.openSource? r := by
  cases settles with
  | kept _ _ sources _ => exact World.openSource?_of_sources sources r
  | ended between _ _ sources _ =>
    have released := Instance.releasePipes_sources i between
    cases output : i.output with
    | none =>
      rw [output] at released
      exact World.openSource?_of_sources (released.trans sources) r
    | some pipe =>
      rw [output] at released
      have stream : i.outputStream = [pipe.number] := by
        unfold Instance.outputStream
        rw [output]
        rfl
      have station : pipe.number ∈ h.readStations := by
        refine List.mem_append_right _ (List.mem_flatMap.2 ⟨i, has.mem_iff.2 List.mem_cons_self, ?_⟩)
        rw [stream]
        exact List.mem_cons_self
      obtain ⟨shared, found, holders⟩ :=
        sound.sources.exists_of_mem (List.mem_append_right (h.readers.map _) station)
      have dropped := (released.trans (World.dropSource_congr sources pipe)).trans
        (World.dropSource_sources found)
      refine World.openSource?_of_set found dropped ?_
      rintro rfl
      -- A caller's handle is one more than that of the instance.
      have held : r ∈ h.readers := kept.resolve_right fun absent => absent (by simp [stream])
      have first := List.count_pos_iff.2 (List.mem_map_of_mem (f := ReadHandle.number) held)
      have second := List.count_pos_iff.2 station
      rw [Holdings.readRefs, List.count_append] at holders
      exact if_neg (by omega)

/-- A stream is left open by an instance that has ended, unless it is that of its input, which was
not lent, and nobody else holds a handle of it. -/
theorem openSink?_of_settles (sound : h.Sound start) (has : h.instances.Perm (i :: rest))
    (settles : i.Settles h.world i' after) (kept : w ∈ h.writers ∨ w.number ∉ i.keptInput) :
    after.openSink? w = h.world.openSink? w := by
  cases settles with
  | kept _ _ _ sinks => exact World.openSink?_of_sinks sinks w
  | ended between _ _ _ sinks =>
    have released := Custody.releasePipes_sinks i between
    cases input : i.input with
    | lent pipe =>
      rw [input] at released
      exact World.openSink?_of_sinks (released.trans sinks) w
    | released =>
      rw [input] at released
      exact World.openSink?_of_sinks (released.trans sinks) w
    | owned pipe =>
      rw [input] at released
      have stream : i.keptInput = [pipe.number] := by
        unfold Instance.keptInput
        rw [input]
      have station : pipe.number ∈ h.instances.flatMap Instance.keptInput := by
        refine List.mem_flatMap.2 ⟨i, has.mem_iff.2 List.mem_cons_self, ?_⟩
        rw [stream]
        exact List.mem_cons_self
      obtain ⟨shared, found, holders⟩ := sound.sinks.exists_of_mem
        (List.mem_append_right (h.writers.map WriteHandle.number)
          (List.mem_append_right (h.writes.map fun channel => channel.pipe.number) station))
      have dropped := (released.trans (World.dropSink_congr sinks pipe)).trans
        (World.dropSink_sinks found)
      refine World.openSink?_of_set found dropped ?_
      rintro rfl
      have held : w ∈ h.writers := kept.resolve_right fun absent => absent (by simp [stream])
      have first := List.count_pos_iff.2 (List.mem_map_of_mem (f := WriteHandle.number) held)
      have second := List.count_pos_iff.2 station
      rw [Holdings.writeRefs, List.count_append, List.count_append] at holders
      exact if_neg (by omega)

end Sound

end Holdings

end AlgorithmDriver

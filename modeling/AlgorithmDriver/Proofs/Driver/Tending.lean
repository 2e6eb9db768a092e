import AlgorithmDriver.Proofs.Driver.FileRun

/-!
# How long streams are held

* Nobody gets a handle of a stream that has none, unless the stream is new
  (`Stage.Step.held_to_read`, `Stage.Step.held_to_write`).
* What closes a stream is on record (`Stage.SourceShut`, `Stage.SinkShut`).
* So a stream is open exactly as long as somebody has a handle of it and it was not closed
  (`Stage.Run.source_open_iff`, `Stage.Run.sink_open_iff`).
-/

namespace AlgorithmDriver

open Table (Change)

/-! ## One stream -/

namespace Shared

variable {α : Type} {same : α → α → Prop} {closes : Nat → Prop} {fresh : α → Prop}
  {streams before after : List (Shared α)} {base n : Nat} {refs refs' : List Nat}
  {shut shut' : Prop}

/-- The stream with the number `n`, if it is open. -/
def openAt (streams : List (Shared α)) (n : Nat) : Option α := (streams[n]?).bind stream

theorem openAt_of_some {shared : Shared α} (found : streams[n]? = some shared) :
    openAt streams n = shared.stream := congrArg (Option.bind · stream) found

/-- A stream that is open while it has handles and was not closed stays so, and so does a new one,
if nobody gets a handle of a stream that has none. -/
theorem Stays.isOpenAt_iff (stays : Stays same closes fresh before after)
    (counted : Counted base before refs) (counted' : Counted base after refs') (since : base ≤ n)
    (held : n ∈ refs' → n ∈ refs ∨ before.length ≤ n) (closed : shut' → openAt after n = none)
    (grows : shut → shut') (closing : closes n → shut')
    (isOpen : (openAt before n).isSome = true ↔ n ∈ refs ∧ ¬ shut) :
    (openAt after n).isSome = true ↔ n ∈ refs' ∧ ¬ shut' := by
  constructor
  · intro isOpen'
    refine ⟨?_, fun shut => ?_⟩
    · obtain ⟨stream, found⟩ := Option.isSome_iff_exists.1 isOpen'
      obtain ⟨new, entry, is⟩ := Option.bind_eq_some_iff.1 found
      have positive := stays.tended n new entry (is ▸ rfl) fun old entry' was => by
        rw [← openAt_of_some entry'] at was
        obtain ⟨_, entry'', holders⟩ := counted.exists_of_mem (isOpen.1 was).1
        obtain rfl := Option.some.inj (entry'.symm.trans entry'')
        rw [holders]
        exact List.count_pos_iff.2 (isOpen.1 was).1
      rw [← List.count_pos_iff, ← counted'.holders n since, holdersAt_of_some entry]
      exact positive
    · rw [closed shut] at isOpen'
      cases isOpen'
  · rintro ⟨mem, unshut⟩
    obtain ⟨new, entry, holders⟩ := counted'.exists_of_mem mem
    rw [openAt_of_some entry]
    rcases held mem with earlier | beyond
    · have was := isOpen.2 ⟨earlier, fun shut => unshut (grows shut)⟩
      obtain ⟨old, entry', _⟩ := counted.exists_of_mem earlier
      rw [openAt_of_some entry'] at was
      obtain ⟨_, entry'', _, kept⟩ := stays.kept n old entry'
      obtain rfl := Option.some.inj (entry.symm.trans entry'')
      rcases kept was with still | gone | closed
      · exact still
      · rw [gone] at holders
        exact absurd mem (List.count_eq_zero.1 holders.symm)
      · exact absurd (closing closed) unshut
    · obtain ⟨stream, is, _⟩ := stays.added n new (List.getElem?_eq_none beyond) entry
      rw [is]
      rfl

end Shared

/-! ## Where handles come from -/

namespace Instance

variable {i i' : Instance} {world after : World}

/-- An instance that settles gets no handle. -/
theorem Settles.streams (settles : i.Settles world i' after) :
    i'.outputStream ⊆ i.outputStream ∧ i'.keptInput ⊆ i.keptInput := by
  unfold outputStream keptInput
  cases settles with
  | kept input output _ _ =>
    rw [input, output]
    exact ⟨List.Subset.refl _, List.Subset.refl _⟩
  | ended _ input output _ _ =>
    rw [input, output]
    exact ⟨List.nil_subset _, List.nil_subset _⟩

theorem inputPipe_streams (i : Instance) (world : World) :
    (i.inputPipe world).2.1.outputStream ⊆ i.outputStream ∧
      (i.inputPipe world).2.1.keptInput ⊆ i.keptInput :=
  i.inputPipe_instance world (P := fun i' =>
    i'.outputStream ⊆ i.outputStream ∧ i'.keptInput ⊆ i.keptInput)
    ⟨List.Subset.refl _, List.Subset.refl _⟩ fun _ => ⟨List.Subset.refl _, List.nil_subset _⟩

end Instance

namespace Stage

variable {start s t u : Stage} {deed : Deed} {deeds more before after : List Deed} {n : Nat}

/-- An instance has the handles of one that was there before, or it is started. -/
theorem Step.mem_instances (step : Step s deed t) (follows : s.driver.Follows (notices deeds))
    {i' : Instance} (mem : i' ∈ t.instances) :
    (∃ i ∈ s.instances, i'.outputStream ⊆ i.outputStream ∧ i'.keptInput ⊆ i.keptInput) ∨
      i'.outputStream = [s.world.sources.length] ∧ i'.keptInput = [s.world.sinks.length] := by
  have old {i : Instance} (mem : i ∈ s.instances) :
      ∃ i₀ ∈ s.instances, i.outputStream ⊆ i₀.outputStream ∧ i.keptInput ⊆ i₀.keptInput :=
    ⟨i, mem, List.Subset.refl _, List.Subset.refl _⟩
  have changed {i j : Instance} {rest : List Instance} (has : s.instances.Perm (i :: rest))
      (instances : t.instances.Perm (j :: rest))
      (streams : j.outputStream ⊆ i.outputStream ∧ j.keptInput ⊆ i.keptInput) :
      ∃ i₀ ∈ s.instances, i'.outputStream ⊆ i₀.outputStream ∧ i'.keptInput ⊆ i₀.keptInput := by
    rcases List.mem_cons.1 (instances.mem_iff.1 mem) with rfl | other
    · exact ⟨i, has.mem_iff.2 List.mem_cons_self, streams⟩
    · exact old (has.mem_iff.2 (List.mem_cons_of_mem _ other))
  cases step with
  | @spawn name i world spawned =>
    obtain ⟨command, started⟩ := Driver.spawn_start spawned
    rcases List.mem_cons.1 (List.perm_middle.mem_iff.1 mem) with rfl | other
    · obtain ⟨-, _, _, _, _, -, rfl, rfl⟩ := Instance.start_eq_ok_iff.1 started
      exact .inr ⟨rfl, rfl⟩
    · exact .inl (old other)
  | @register i arrived =>
    have moved : s.instances.Perm ({ s.after (s.driver.register i s.world) with
        arriving := s.arriving.erase i }.instances) := by
      show (s.driver.algorithms.values ++ _).Perm ((s.driver.algorithms.insert i).2.values ++ _)
      rw [Table.values_insert]
      exact perm_erase_cons arrived
    exact .inl (old (moved.mem_iff.2 mem))
  | @look id i found =>
    obtain ⟨rest, has, after⟩ := instances_of_get? follows found
    exact .inl (changed has (after _ _) (i.poll_settles s.world).streams)
  | @signal id i found _ =>
    obtain ⟨rest, has, after⟩ := instances_of_get? follows found
    exact .inl (changed has (after _ _) (i.signal_settles s.world).streams)
  | inputPipe id =>
    cases found : s.driver.algorithms.get? id with
    | none =>
      rw [Driver.inputPipe_of_none found] at mem
      exact .inl (old mem)
    | some i =>
      obtain ⟨rest, has, after⟩ := instances_of_get? follows found
      rw [Driver.inputPipe_of_some found] at changed mem
      exact .inl (changed has (after _ s.world) (i.inputPipe_streams s.world))
  | outputPipe id =>
    change i' ∈ (s.driver.outputPipe id s.world).2.1.algorithms.values ++ _ at mem
    rw [Driver.outputPipe_driver] at mem
    exact .inl (old mem)
  | takeInstances => exact .inl (old (s.takeInstances_perm.mem_iff.2 mem))
  | @depart d d' leaving goes =>
    obtain ⟨-, rfl, next⟩ := Departure.next_of_goes goes
    rw [next] at changed mem
    exact .inl (changed (instances_of_leaving leaving) Holdings.Sound.perm_station
      (d.settle_settles s.world).streams)
  | @depose d leaving _ =>
    exact .inl (old ((instances_of_leaving leaving).mem_iff.2 (List.mem_cons_of_mem _ mem)))
  | acquireRead | registerRead | lendRead | takeRead | takeReads | releaseRead | acquireWrite
    | registerWrite | lendWrite | takeWrite | takeWrites | releaseWrite | holdSource | dropSource
    | closeSource | read | holdSink | dropSink | closeSink | write | flush | record | elsewhere =>
    exact .inl (old mem)

/-- A handle to read with is held by somebody already when a caller gets it. -/
theorem Step.held_of_reader (step : Step s deed t) {r : ReadHandle} (holds : r ∈ t.readers) :
    r.number ∈ s.holdings.readRefs := by
  have old (holds : r ∈ s.readers) : r.number ∈ s.holdings.readRefs :=
    Holdings.Sound.mem_readRefs holds
  cases step with
  | outputPipe id =>
    rcases List.mem_append.1 holds with lent | holds
    · obtain ⟨i, mem, stream⟩ := outputPipe_own (Option.mem_toList.1 lent)
      exact List.mem_append_right _ (List.mem_append_right _ (List.mem_flatMap.2 ⟨i, mem, stream⟩))
    · exact old holds
  | lendRead found =>
    rcases List.mem_cons.1 holds with rfl | holds
    · exact List.mem_append_right _ (List.mem_append_left _
        (List.mem_map_of_mem (List.mem_append_left _ (Table.mem_values found))))
    · exact old holds
  | holdSource held =>
    rcases List.mem_cons.1 holds with rfl | holds
    · exact old held
    · exact old holds
  | dropSource => exact old (List.mem_of_mem_erase holds)
  | spawn | register | look | signal | inputPipe | takeInstances | depart | depose | acquireRead
    | registerRead | takeRead | takeReads | releaseRead | acquireWrite | registerWrite | lendWrite
    | takeWrite | takeWrites | releaseWrite | closeSource | read | holdSink | dropSink | closeSink
    | write | flush | record | elsewhere => exact old holds

theorem Sound.held_of_inputPipe (sound : s.Sound start.world deeds) {id : AlgorithmId}
    {w : WriteHandle} (lent : (s.driver.inputPipe id s.world).1 = some w) :
    w.number ∈ s.holdings.writeRefs := by
  obtain ⟨i, mem, stream, kept | alive⟩ := inputPipe_own lent
  · exact List.mem_append_right _ (List.mem_append_right _ (List.mem_flatMap.2 ⟨i, mem, kept⟩))
  · have issued := sound.holdings.issued _
      (List.mem_append_right _ (List.mem_flatMap.2 ⟨i, mem, stream⟩))
    rw [← List.count_pos_iff, ← sound.holdings.sinks.holders _ issued.1]
    unfold World.isAlive at alive
    split at alive
    · rename_i shared found
      exact Nat.lt_of_lt_of_eq (of_decide_eq_true alive) (Shared.holdersAt_of_some found).symm
    · cases alive

theorem Step.held_of_writer (step : Step s deed t) (sound : s.Sound start.world deeds)
    {w : WriteHandle} (holds : w ∈ t.writers) : w.number ∈ s.holdings.writeRefs := by
  have old (holds : w ∈ s.writers) : w.number ∈ s.holdings.writeRefs :=
    Holdings.Sound.mem_writeRefs holds
  cases step with
  | inputPipe id =>
    rcases List.mem_append.1 holds with lent | holds
    · exact sound.held_of_inputPipe (Option.mem_toList.1 lent)
    · exact old holds
  | lendWrite found =>
    rcases List.mem_cons.1 holds with rfl | holds
    · exact List.mem_append_right _ (List.mem_append_left _
        (List.mem_map_of_mem (List.mem_append_left _ (Table.mem_values found))))
    · exact old holds
  | holdSink held =>
    rcases List.mem_cons.1 holds with rfl | holds
    · exact old held
    · exact old holds
  | dropSink => exact old (List.mem_of_mem_erase holds)
  | spawn | register | look | signal | outputPipe | takeInstances | depart | depose | acquireRead
    | registerRead | lendRead | takeRead | takeReads | releaseRead | acquireWrite | registerWrite
    | takeWrite | takeWrites | releaseWrite | holdSource | dropSource | closeSource | read
    | closeSink | write | flush | record | elsewhere => exact old holds

/-- Nobody gets a handle of a stream that has none, unless it is new. -/
theorem Step.held_to_read (step : Step s deed t) (sound : s.Sound start.world deeds)
    (held : n ∈ t.holdings.readRefs) :
    n ∈ s.holdings.readRefs ∨ s.world.sources.length ≤ n := by
  rcases List.mem_append.1 held with reader | station
  · obtain ⟨r, holds, rfl⟩ := List.mem_map.1 reader
    exact .inl (step.held_of_reader holds)
  rcases List.mem_append.1 station with read | stream
  · obtain ⟨channel, mem, rfl⟩ := List.mem_map.1 read
    rcases step.mem_reads sound.follows mem with old | ⟨path, opened⟩
    · exact .inl (List.mem_append_right _ (List.mem_append_left _ (List.mem_map_of_mem old)))
    · obtain ⟨-, _, _, _, _, rfl, _⟩ := Driver.acquireRead_eq_ok_iff.1 opened
      exact .inr (Nat.le_refl _)
  · obtain ⟨i, mem, stream⟩ := List.mem_flatMap.1 stream
    rcases step.mem_instances sound.follows mem with ⟨i₀, mem, output, _⟩ | ⟨output, _⟩
    · exact .inl (List.mem_append_right _
        (List.mem_append_right _ (List.mem_flatMap.2 ⟨i₀, mem, output stream⟩)))
    · rw [output] at stream
      exact .inr (Nat.le_of_eq (List.mem_singleton.1 stream).symm)

theorem Step.held_to_write (step : Step s deed t) (sound : s.Sound start.world deeds)
    (held : n ∈ t.holdings.writeRefs) :
    n ∈ s.holdings.writeRefs ∨ s.world.sinks.length ≤ n := by
  rcases List.mem_append.1 held with writer | station
  · obtain ⟨w, holds, rfl⟩ := List.mem_map.1 writer
    exact .inl (step.held_of_writer sound holds)
  rcases List.mem_append.1 station with write | stream
  · obtain ⟨channel, mem, rfl⟩ := List.mem_map.1 write
    rcases step.mem_writes sound.follows mem with old | ⟨path, opened⟩
    · exact .inl (List.mem_append_right _ (List.mem_append_left _ (List.mem_map_of_mem old)))
    · obtain ⟨-, _, _, _, rfl, _⟩ := Driver.acquireWrite_eq_ok_iff.1 opened
      exact .inr (Nat.le_refl _)
  · obtain ⟨i, mem, stream⟩ := List.mem_flatMap.1 stream
    rcases step.mem_instances sound.follows mem with ⟨i₀, mem, _, input⟩ | ⟨_, input⟩
    · exact .inl (List.mem_append_right _
        (List.mem_append_right _ (List.mem_flatMap.2 ⟨i₀, mem, input stream⟩)))
    · rw [input] at stream
      exact .inr (Nat.le_of_eq (List.mem_singleton.1 stream).symm)

/-! ## Closing -/

/-- The stream to read from with the number `n` was closed: through one of its handles, or because
its channel was taken out of its table and closed, by a caller or by whoever closed everything. -/
def SourceShut (deeds : List Deed) (n : Nat) : Prop :=
  (∃ r : ReadHandle, r.number = n ∧ .closedSource r ∈ deeds) ∨
    ∃ id channel closer, .issued id channel ∈ Notice.readFiles (notices deeds) ∧
      channel.pipe.number = n ∧ .releasedRead closer id ∈ deeds

/-- The stream to write to with the number `n` was closed, in one of these ways. -/
def SinkShut (deeds : List Deed) (n : Nat) : Prop :=
  (∃ (w : WriteHandle) (r : Except StreamError Unit), w.number = n ∧ .closedSink w r ∈ deeds) ∨
    ∃ id channel closer r, .issued id channel ∈ Notice.writeFiles (notices deeds) ∧
      channel.pipe.number = n ∧ .releasedWrite closer id r ∈ deeds

theorem SourceShut.append (shut : SourceShut deeds n) (more : List Deed) :
    SourceShut (deeds ++ more) n := by
  rcases shut with ⟨r, same, closed⟩ | ⟨id, channel, closer, issued, same, released⟩
  · exact .inl ⟨r, same, List.mem_append_left _ closed⟩
  · exact .inr ⟨id, channel, closer, mem_readFiles_append issued _, same,
      List.mem_append_left _ released⟩

theorem SinkShut.append (shut : SinkShut deeds n) (more : List Deed) :
    SinkShut (deeds ++ more) n := by
  rcases shut with ⟨w, r, same, closed⟩ | ⟨id, channel, closer, r, issued, same, released⟩
  · exact .inl ⟨w, r, same, List.mem_append_left _ closed⟩
  · exact .inr ⟨id, channel, closer, r, mem_writeFiles_append issued _, same,
      List.mem_append_left _ released⟩

theorem Step.closedSource (step : Step s deed t) {r : ReadHandle} (shows : deed = .closedSource r) :
    r ∈ s.readers ∧ t.world = s.world.closeSource r := by
  cases step with
  | closeSource holds =>
    cases shows
    exact ⟨holds, rfl⟩
  | depart => split at shows <;> cases shows
  | _ => cases shows

/-- A stream that was closed is closed for good. -/
theorem Run.source_closed (new : start.New) (run : Run start deeds s) (shut : SourceShut deeds n) :
    s.world.openSource? ⟨n⟩ = none := by
  rcases shut with ⟨r, rfl, closed⟩ | ⟨id, channel, closer, issued, rfl, released⟩
  · obtain ⟨before, after, rfl⟩ := List.append_of_mem closed
    obtain ⟨t, u, first, step, rest⟩ := run.split rfl
    obtain ⟨holds, world⟩ := step.closedSource rfl
    obtain ⟨shared, found, _⟩ := (first.sound new).holdings.sources.exists_of_mem
      (Holdings.Sound.mem_readRefs holds)
    have sources :
        u.world.sources = t.world.sources.set r.number { shared with stream := none } := by
      rw [world]
      exact World.closeSource_sources found
    exact rest.source_shut (World.source?_of_set_self found sources) rfl
  · have numbered := (run.sound new).follows.readFiles.numbered
    obtain ⟨before, after, rfl⟩ := List.append_of_mem released
    obtain ⟨t, u, first, step, rest⟩ := run.split rfl
    obtain ⟨channel', done⟩ := first.releasedRead new step rest
    obtain rfl := numbered.issued_unique issued (mem_readFiles_append done.issued _)
    have shut := done.closed
    rw [← Bool.not_eq_true, World.isReadable_iff] at shut
    exact Option.not_isSome_iff_eq_none.1 shut

theorem Run.sink_closed (new : start.New) (run : Run start deeds s) (shut : SinkShut deeds n) :
    s.world.openSink? ⟨n⟩ = none := by
  rcases shut with ⟨w, r, rfl, closed⟩ | ⟨id, channel, closer, r, issued, rfl, released⟩
  · obtain ⟨before, after, rfl⟩ := List.append_of_mem closed
    obtain ⟨t, u, first, step, rest⟩ := run.split rfl
    obtain ⟨holds, _, world⟩ := step.closedSink rfl
    have known := (first.sound new).holdings.sinks.lt_length (Holdings.Sound.mem_writeRefs holds)
    refine rest.stays_shut (Nat.lt_of_lt_of_le known step.sinks_stay.length_le) ?_
    rw [world]
    exact World.openSink?_closeSink t.world w
  · exact run.shut_of_released new issued released

/-! ## Who finds it open -/

/-- No stream was made since the start yet. -/
theorem New.refs (new : start.New) :
    start.holdings.readRefs = [] ∧ start.holdings.writeRefs = [] := by
  have sound := new.sound.holdings
  constructor
  · refine List.eq_nil_iff_forall_not_mem.2 fun n mem => ?_
    exact absurd (sound.sources.lt_length mem) (Nat.not_lt.2 (sound.sources.own n mem))
  · refine List.eq_nil_iff_forall_not_mem.2 fun n mem => ?_
    exact absurd (sound.sinks.lt_length mem) (Nat.not_lt.2 (sound.sinks.own n mem))

/-- What closes a stream is on record. -/
theorem ClosesSource.shut (closes : s.ClosesSource deed n) (known : s.Known deeds) :
    SourceShut (deeds ++ [deed]) n := by
  have last {shown : Deed} (shows : deed = shown) : shown ∈ deeds ++ [deed] :=
    List.mem_append_right _ (List.mem_singleton.2 shows.symm)
  rcases closes with closed | ⟨c, closing, same, closed⟩
  · exact .inl ⟨⟨n⟩, rfl, last closed⟩
  · exact .inr ⟨c.id, c.value, c.closer, mem_readFiles_append (known.reads c closing) _, same,
      last closed⟩

theorem ClosesSink.shut (closes : s.ClosesSink deed n) (known : s.Known deeds) :
    SinkShut (deeds ++ [deed]) n := by
  have last {shown : Deed} (shows : deed = shown) : shown ∈ deeds ++ [deed] :=
    List.mem_append_right _ (List.mem_singleton.2 shows.symm)
  rcases closes with ⟨r, closed⟩ | ⟨c, closing, same, r, closed⟩
  · exact .inl ⟨⟨n⟩, r, rfl, last closed⟩
  · exact .inr ⟨c.id, c.value, c.closer, r, mem_writeFiles_append (known.writes c closing) _, same,
      last closed⟩

/-- A stream to read from that was made since the start is open as long as somebody has a handle of
it and it was not closed. -/
theorem Run.source_open_iff (new : start.New) (run : Run start deeds s)
    (since : start.world.sources.length ≤ n) :
    (s.world.openSource? ⟨n⟩).isSome = true ↔
      n ∈ s.holdings.readRefs ∧ ¬ SourceShut deeds n := by
  induction run with
  | nil =>
    have missing : start.world.openSource? ⟨n⟩ = none := by
      unfold World.openSource? World.source?
      rw [List.getElem?_eq_none since]
      rfl
    rw [missing, new.refs.1]
    exact ⟨nofun, fun both => nomatch both.1⟩
  | snoc run step ih =>
    have later := run.snoc step
    exact step.sources_stay.isOpenAt_iff (run.sound new).holdings.sources
      (later.sound new).holdings.sources since (step.held_to_read (run.sound new))
      (later.source_closed new) (·.append _) (·.shut (run.known new)) ih

theorem Run.sink_open_iff (new : start.New) (run : Run start deeds s)
    (since : start.world.sinks.length ≤ n) :
    (s.world.openSink? ⟨n⟩).isSome = true ↔ n ∈ s.holdings.writeRefs ∧ ¬ SinkShut deeds n := by
  induction run with
  | nil =>
    have missing : start.world.openSink? ⟨n⟩ = none := by
      unfold World.openSink? World.sink?
      rw [List.getElem?_eq_none since]
      rfl
    rw [missing, new.refs.2]
    exact ⟨nofun, fun both => nomatch both.1⟩
  | snoc run step ih =>
    have later := run.snoc step
    exact step.sinks_stay.isOpenAt_iff (run.sound new).holdings.sinks
      (later.sound new).holdings.sinks since (step.held_to_write (run.sound new))
      (later.sink_closed new) (·.append _) (·.shut (run.known new)) ih

/-- A stream that nobody has a handle of any more is never held again. -/
theorem Run.unheld_to_read (new : start.New) (run : Run start deeds s) (rest : Run s more t)
    (known : n < s.world.sources.length) (unheld : n ∉ s.holdings.readRefs) :
    n ∉ t.holdings.readRefs := by
  suffices n < t.world.sources.length ∧ n ∉ t.holdings.readRefs from this.2
  induction rest with
  | nil => exact ⟨known, unheld⟩
  | snoc rest step ih =>
    refine ⟨Nat.lt_of_lt_of_le ih.1 step.sources_stay.length_le, fun held => ?_⟩
    rcases step.held_to_read ((run.append rest).sound new) held with old | beyond
    · exact ih.2 old
    · exact Nat.not_lt.2 beyond ih.1

theorem Run.unheld_to_write (new : start.New) (run : Run start deeds s) (rest : Run s more t)
    (known : n < s.world.sinks.length) (unheld : n ∉ s.holdings.writeRefs) :
    n ∉ t.holdings.writeRefs := by
  suffices n < t.world.sinks.length ∧ n ∉ t.holdings.writeRefs from this.2
  induction rest with
  | nil => exact ⟨known, unheld⟩
  | snoc rest step ih =>
    refine ⟨Nat.lt_of_lt_of_le ih.1 step.sinks_stay.length_le, fun held => ?_⟩
    rcases step.held_to_write ((run.append rest).sound new) held with old | beyond
    · exact ih.2 old
    · exact Nat.not_lt.2 beyond ih.1

end Stage

end AlgorithmDriver

import AlgorithmDriver.Proofs.Driver.Staging

/-!
# Closing everything

Whoever closes everything takes all instances and channels out of their tables, one table after the
other, and then ends the instances and closes the channels.  Other callers may go on meanwhile, and
several may close everything at once.

* `TearsDown` is what holds at any moment of this: each resource is released once, by the one who
  took it out of its table; instances end waited for; channels are flushed and stay closed; handles
  that instances have lent are left alone.
* `Emptied` is what is left by closing everything when nobody else does anything meanwhile.
* `Stage.Run.tears_down` is the result.
-/

namespace AlgorithmDriver

open Table (Change)

/-! ## What is left -/

/-- The next id was never issued. -/
theorem Table.Follows.next_not_mem_issuedIds {resource : Resource} {α : Type} {R : α → α → Prop}
    {table : Table resource α} {past : List (Change resource α)} (follows : table.Follows R past) :
    (⟨table.next⟩ : Id resource) ∉ Change.issuedIds past := by
  intro issued
  have bound := follows.numbered.raw_le issued
  rw [follows.next] at bound
  exact Nat.lt_irrefl _ bound

namespace Driver

/-- Where the tables are empty there is nothing to close. -/
theorem closeAll_of_empty {driver : Driver} (algorithms : driver.algorithms.entries = [])
    (readFiles : driver.readFiles.entries = []) (writeFiles : driver.writeFiles.entries = [])
    (world : World) : driver.closeAll world = (driver, world) := by
  obtain ⟨config, ⟨_, _⟩, ⟨_, _⟩, ⟨_, _⟩⟩ := driver
  cases algorithms
  cases readFiles
  cases writeFiles
  rfl

variable {driver : Driver} {world after : World}

/-- An instance that can be started is registered. -/
theorem start_of_spawn {name : String} {i : Instance}
    (spawned : driver.spawn name world = .ok (i, after)) :
    driver.start name world = (.ok (driver.register i after).1, (driver.register i after).2) := by
  unfold start
  rw [spawned]

theorem openRead_of_acquire {path : String} {channel : Channel ReadHandle}
    (acquired : acquireRead path world = .ok (channel, after)) :
    driver.openRead path world =
      (.ok (driver.registerRead channel after).1, (driver.registerRead channel after).2) := by
  unfold openRead
  rw [acquired]

theorem openWrite_of_acquire {path : String} {channel : Channel WriteHandle}
    (acquired : acquireWrite path world = .ok (channel, after)) :
    driver.openWrite path world =
      (.ok (driver.registerWrite channel after).1, (driver.registerWrite channel after).2) := by
  unfold openWrite
  rw [acquired]

end Driver

namespace Stage

/-- What closing everything leaves when nobody else does anything meanwhile. -/
structure Emptied (deeds : List Deed) (s : Stage) (driver : Driver) (world : World) : Prop where
  /-- It is made of steps.  All that was in the tables is released, and nothing of it is left under
  way. -/
  run : ∃ more, Run s more { s with driver, world } ∧
    (∀ id i, s.driver.algorithms.get? id = some i → ∃ i', .ended id i' ∈ more) ∧
    (∀ id channel, s.driver.readFiles.get? id = some channel → .releasedRead .everything id ∈ more) ∧
    ∀ id channel, s.driver.writeFiles.get? id = some channel →
      ∃ r, .releasedWrite .everything id r ∈ more
  handles : (driver.openHandles world).1.isEmpty = true
  lacksInstance : ∀ id now, driver.LacksInstance now id
  lacksRead : ∀ id now, driver.LacksRead now id
  lacksWrite : ∀ id now, driver.LacksWrite now id
  /-- What could be started before can be started now, under an id that is new. -/
  starts : ∀ name now i after, s.driver.spawn name now = .ok (i, after) →
    ∃ id driver' after', driver.start name now = (.ok id, driver', after') ∧
      driver'.algorithms.get? id = some i ∧
      id ∉ Change.issuedIds (Notice.algorithms (notices deeds))
  opensRead : ∀ path now channel after, Driver.acquireRead path now = .ok (channel, after) →
    ∃ id driver' after', driver.openRead path now = (.ok id, driver', after') ∧
      driver'.readFiles.get? id = some channel ∧
      id ∉ Change.issuedIds (Notice.readFiles (notices deeds))
  opensWrite : ∀ path now channel after, Driver.acquireWrite path now = .ok (channel, after) →
    ∃ id driver' after', driver.openWrite path now = (.ok id, driver', after') ∧
      driver'.writeFiles.get? id = some channel ∧
      id ∉ Change.issuedIds (Notice.writeFiles (notices deeds))
  again : driver.closeAll world = (driver, world)

variable {start s : Stage} {deeds : List Deed}

theorem Sound.emptied (sound : s.Sound start.world deeds) :
    s.Emptied deeds (s.driver.closeAll s.world).1 (s.driver.closeAll s.world).2 where
  run := s.run_closeAll
  handles := rfl
  lacksInstance _ _ := Driver.lacksInstance rfl
  lacksRead _ _ := Driver.lacksRead rfl
  lacksWrite _ _ := Driver.lacksWrite rfl
  starts name now i after spawned := by
    have spawned' : (s.driver.closeAll s.world).1.spawn name now = .ok (i, after) := spawned
    exact ⟨_, _, _, Driver.start_of_spawn spawned',
      (Table.Issued.drain s.driver.algorithms).get?_inserted i,
      sound.follows.algorithms.next_not_mem_issuedIds⟩
  opensRead path now channel after acquired :=
    ⟨_, _, _, Driver.openRead_of_acquire acquired,
      (Table.Issued.drain s.driver.readFiles).get?_inserted channel,
      sound.follows.readFiles.next_not_mem_issuedIds⟩
  opensWrite path now channel after acquired :=
    ⟨_, _, _, Driver.openWrite_of_acquire acquired,
      (Table.Issued.drain s.driver.writeFiles).get?_inserted channel,
      sound.follows.writeFiles.next_not_mem_issuedIds⟩
  again := Driver.closeAll_of_empty rfl rfl rfl _

/-! ## At any moment -/

/-- What closing everything comes to, at any moment and whatever callers do at the same time. -/
structure TearsDown (start : Stage) (deeds : List Deed) (s : Stage) : Prop where
  instances : Change.Handover (Notice.algorithms (notices deeds)) (deeds.filterMap Deed.ended?)
    (s.leaving.map fun d => (.everything, d.id))
  reads : Change.Handover (Notice.readFiles (notices deeds)) (deeds.filterMap Deed.releasedRead?)
    (s.closingReads.map Closing.key)
  writes : Change.Handover (Notice.writeFiles (notices deeds)) (deeds.filterMap Deed.releasedWrite?)
    (s.closingWrites.map Closing.key)
  /-- A close call that succeeds is a release by a caller. -/
  closeRead : ∀ id driver world, s.driver.closeRead id s.world = (.ok (), driver, world) →
    ∃ more, Run s more { s with driver, world } ∧ .releasedRead .caller id ∈ more
  closeWrite : ∀ id driver world, s.driver.closeWrite id s.world = (.ok (), driver, world) →
    ∃ more, Run s more { s with driver, world } ∧ .releasedWrite .caller id (.ok ()) ∈ more
  ended : ∀ id i, .ended id i ∈ deeds → Ended deeds s.world id i
  releasedRead : ∀ before after closer id, deeds = before ++ .releasedRead closer id :: after →
    ∃ channel, ReleasedRead before s id channel
  releasedWrite : ∀ before after closer id r,
    deeds = before ++ .releasedWrite closer id r :: after →
      ∃ t u, Run start before t ∧ Run u after s ∧ ∃ channel, ReleasedWrite before t u s id r channel
  /-- A handle of an input stays open for as long as a caller holds it and none closes it. -/
  lentInput : ∀ more t id w, Run s more t → .lentInput id (some w) ∈ deeds → w ∈ s.writers →
    s.world.isWritable w = true → .droppedSink w ∉ more → (∀ r, .closedSink w r ∉ more) →
      w ∈ t.writers ∧ t.world.isWritable w = true
  /-- So does a handle of an output. -/
  lentOutput : ∀ more t id r, Run s more t → .lentOutput id (some r) ∈ deeds → r ∈ s.readers →
    s.world.isReadable r = true → .droppedSource r ∉ more → .closedSource r ∉ more →
      r ∈ t.readers ∧ t.world.isReadable r = true
  /-- What is under way does not get stuck. -/
  finishes : ∃ world, s.Goes { s with world, leaving := [], closingReads := [], closingWrites := [] }
  emptied : s.Emptied deeds (s.driver.closeAll s.world).1 (s.driver.closeAll s.world).2

/-- **Closing everything releases everything exactly once**, in every state that a driver and its
callers can get into:

* What is taken out of a table is released once, by the one who took it out; what was there when
  everything was taken out is released by whoever did that, and by no caller.
* An instance that has been ended was killed unless it had exited, and was waited for.
* A channel that has been released was flushed, and all its handles are closed.
* Handles that instances have lent to callers stay open.
* When nobody else does anything meanwhile, no handle is left open and no id is known any more;
  doing it again changes nothing, and new instances and channels get new ids. -/
theorem Run.tears_down (new : start.New) (run : Run start deeds s) : TearsDown start deeds s where
  instances := (run.books new).instances.handover
  reads := (run.books new).reads.handover
  writes := (run.books new).writes.handover
  closeRead id driver world closed := by
    cases found : s.driver.readFiles.get? id with
    | none =>
      rw [(Driver.lacksRead found).close] at closed
      cases closed
    | some channel =>
      have closing := s.run_closeRead found
      rw [closed] at closing
      exact ⟨_, closing, List.mem_cons_of_mem _ List.mem_cons_self⟩
  closeWrite id driver world closed := by
    cases found : s.driver.writeFiles.get? id with
    | none =>
      rw [(Driver.lacksWrite found).close] at closed
      cases closed
    | some channel =>
      obtain ⟨more, closing, released⟩ := s.run_closeWrite found
      have flushed := (Driver.closeWrite_of_some found s.world).1
      rw [closed] at closing flushed
      cases result : (s.world.closeSink channel.pipe).1 with
      | ok _ =>
        rw [result] at released
        exact ⟨more, closing, released⟩
      | error e =>
        rw [result] at flushed
        cases flushed
  ended _ _ ended := run.ended new ended
  releasedRead before after closer id split := by
    obtain ⟨t, u, first, step, rest⟩ := run.split split
    exact first.releasedRead new step rest
  releasedWrite before after closer id r split := by
    obtain ⟨t, u, first, step, rest⟩ := run.split split
    exact ⟨t, u, first, rest, first.releasedWrite new step rest⟩
  lentInput more t id w rest given holds isOpen kept unclosed := by
    rw [World.isWritable_iff] at isOpen ⊢
    exact run.lent_sink new rest given holds isOpen kept unclosed
  lentOutput more t id r rest given holds isOpen kept unclosed := by
    rw [World.isReadable_iff] at isOpen ⊢
    exact run.lent_source new rest given holds isOpen kept unclosed
  finishes := s.goes_finish
  emptied := (run.sound new).emptied

/-- A new driver on a machine with a file in its root directory. -/
def sampleNotes : Stage where
  driver := { config := {} }
  world := { host := { files := ⟨[.directory 0 [("notes", 1)], .file [1, 2, 3] false]⟩ } }

/-- The world after that file was opened for writing. -/
def sampleNotesOpened : World where
  host :=
    { files := ⟨[.directory 0 [("notes", 1)], .file [] false]⟩
      descriptions := [{ object := .node 1 }] }
  sinks := [{ stream := some { description := 0, capacity := bufferSize } }]

theorem sampleNotes_acquireWrite : Driver.acquireWrite "/notes" sampleNotes.world =
    .ok ({ path := "/notes", pipe := ⟨0⟩ }, sampleNotesOpened) := by
  have names : Path.names "/notes" = ["notes"] := by decide +kernel
  have found : sampleNotes.world.host.files.find 0 "/notes" = .ok 1 :=
    FileTree.find_entry (by decide +kernel) (by decide) (by decide +kernel) names rfl (by decide)
      (by decide) (by decide +kernel) rfl nofun
  exact Driver.acquireWrite_eq_ok_iff.2
    ⟨by decide +kernel, _, _, Host.openWrite_of_file found rfl, rfl, rfl⟩

/-- Somebody closes everything while a caller holds a handle with data that is not flushed yet.  The
data is written, and the handle is closed. -/
theorem Run.tears_down_notes : sampleNotes.New ∧ ∃ s deeds, Run sampleNotes deeds s ∧
    .releasedWrite .everything ⟨1⟩ (.ok ()) ∈ deeds ∧ s.writers = [⟨0⟩] ∧
    s.world.isWritable ⟨0⟩ = false ∧ s.world.host.files.get? 1 = some (.file [7] false) := by
  have new : sampleNotes.New := ⟨rfl, rfl, rfl, rfl, rfl, rfl, rfl, rfl, rfl, rfl, rfl⟩
  have opened := (@Run.nil sampleNotes).snoc (.acquireWrite sampleNotes_acquireWrite)
  have registered := opened.snoc (.registerWrite List.mem_cons_self)
  have lent := registered.snoc (@Step.lendWrite _ ⟨1⟩ _ rfl)
  have written := lent.snoc (@Step.write _ ⟨0⟩ [7] _ _ List.mem_cons_self rfl)
  have run := (written.snoc .takeWrites).snoc (.releaseWrite List.mem_cons_self)
  obtain ⟨_, _, _, _, channel, released⟩ :=
    (Run.tears_down new run).releasedWrite _ [] .everything ⟨1⟩ (.ok ()) rfl
  have issued : Change.issued ⟨1⟩ channel ∈
      [.issued ⟨1⟩ { path := "/notes", pipe := ⟨0⟩ }, .drained] := released.issued
  refine ⟨new, _, _, run, List.mem_append_right _ (List.mem_singleton_self _), rfl, ?_, rfl⟩
  obtain rfl : channel = { path := "/notes", pipe := ⟨0⟩ } := by simpa using issued
  exact released.closed

end Stage

end AlgorithmDriver

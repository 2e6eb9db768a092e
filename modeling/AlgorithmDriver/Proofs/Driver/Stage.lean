import AlgorithmDriver.Proofs.Driver.Holdings
import AlgorithmDriver.Proofs.Driver.Onward

/-!
# A driver on stage

Several callers use a driver at once, one of them perhaps closing everything.  A stage shows the
driver with all that is under way: what was opened but not registered yet, what was taken out of a
table but not closed yet, how far the ending of each instance has come, and the handles that callers
hold.

* `Step` is one step on stage: an access to one table, a look at one instance or a signal to it, the
  closing of one channel, something done with one handle, or anything that the rest of the machine
  does in between.
* The tables are as their history tells, and every stream has exactly the handles that are held
  (`Stage.Sound`, `Run.sound`).
-/

namespace AlgorithmDriver

open Table (Change)

/-! ## The resources of a table -/

namespace Table

variable {resource : Resource} {α : Type}

/-- The live resources. -/
def values (t : Table resource α) : List α := t.entries.map Prod.snd

theorem mem_values {t : Table resource α} {id : Id resource} {value : α}
    (found : t.get? id = some value) : value ∈ t.values := by
  obtain ⟨before, after, entries, _⟩ := List.lookup_eq_some_iff.1 found
  unfold values
  rw [entries]
  simp

/-- A resource among the others, and what its being changed or taken out leaves. -/
theorem values_of_get? {t : Table resource α} (apart : (t.entries.map Prod.fst).Nodup)
    {id : Id resource} {value : α} (found : t.get? id = some value) :
    ∃ rest, t.values.Perm (value :: rest) ∧ (∀ new, (t.set id new).values.Perm (new :: rest)) ∧
      (t.remove id).values.Perm rest := by
  obtain ⟨before, after, entries, fresh⟩ := List.lookup_eq_some_iff.1 found
  obtain ⟨next, list⟩ := t
  obtain rfl : list = before ++ (id.raw, value) :: after := entries
  rw [List.map_append, List.map_cons, List.perm_middle.nodup_iff, List.nodup_cons] at apart
  have others (entry : Nat × α) (mem : entry ∈ before ++ after) : entry.1 ≠ id.raw := by
    intro same
    refine apart.1 ?_
    rw [← List.map_append]
    exact List.mem_map.2 ⟨entry, mem, same⟩
  have left (entry : Nat × α) (mem : entry ∈ before) := others entry (List.mem_append_left _ mem)
  have right (entry : Nat × α) (mem : entry ∈ after) := others entry (List.mem_append_right _ mem)
  refine ⟨(before ++ after).map Prod.snd, ?_, fun new => ?_, ?_⟩
  · exact List.perm_middle.map Prod.snd
  · have kept (entries : List (Nat × α)) (apart : ∀ entry ∈ entries, entry.1 ≠ id.raw) :
        entries.map (fun entry => (entry.1, if entry.1 = id.raw then new else entry.2)) =
          entries := by
      refine (List.map_congr_left fun entry mem => ?_).trans (List.map_id _)
      rw [if_neg (apart entry mem)]
      rfl
    have changed : (set (⟨next, before ++ (id.raw, value) :: after⟩ : Table resource α) id
        new).entries = before ++ (id.raw, new) :: after := by
      show List.map (fun (entry : Nat × α) =>
        (entry.1, if entry.1 = id.raw then new else entry.2)) _ = _
      rw [List.map_append, List.map_cons, kept before left, kept after right, if_pos rfl]
    unfold values
    rw [changed]
    exact List.perm_middle.map Prod.snd
  · have kept (entries : List (Nat × α)) (apart : ∀ entry ∈ entries, entry.1 ≠ id.raw) :
        entries.filter (fun entry => entry.1 ≠ id.raw) = entries :=
      List.filter_eq_self.2 fun entry mem => decide_eq_true (apart entry mem)
    have changed : (remove (⟨next, before ++ (id.raw, value) :: after⟩ : Table resource α)
        id).entries = before ++ after := by
      show List.filter (fun (entry : Nat × α) => entry.1 ≠ id.raw) _ = _
      rw [List.filter_append, List.filter_cons_of_neg (by simp), kept before left, kept after right]
    unfold values
    rw [changed]

theorem values_insert (t : Table resource α) (value : α) :
    (t.insert value).2.values = t.values ++ [value] := List.map_append

theorem values_drain (t : Table resource α) : t.drain.1.map Prod.snd = t.values := by
  show List.map Prod.snd (t.entries.map _) = _
  rw [List.map_map]
  rfl

/-- The ids of a table that is as its past tells are told apart. -/
theorem Follows.apart {R : α → α → Prop} {t : Table resource α}
    {past : List (Change resource α)} (follows : t.Follows R past) :
    (t.entries.map Prod.fst).Nodup :=
  List.pairwise_map.2 ((List.pairwise_map.1 follows.ascending).imp Nat.ne_of_lt)

end Table

/-! ## The rest of the machine -/

/-- What has ended stays so, and nothing is lost. -/
structure World.Ahead (world after : World) : Prop where
  later : world.Later after
  onward : world.Onward after

theorem World.Ahead.refl (world : World) : world.Ahead world := ⟨.refl world, .refl world⟩

theorem World.Ahead.trans {a b c : World} (hab : a.Ahead b) (hbc : b.Ahead c) : a.Ahead c :=
  ⟨hab.later.trans hbc.later, hab.onward.trans hbc.onward⟩

/-- What the rest of the machine may do: anything but bring back or forget a process, or touch the
streams of drivers. -/
structure World.Elsewhere (world after : World) : Prop extends world.Ahead after where
  sources : after.sources = world.sources
  sinks : after.sinks = world.sinks

theorem World.Elsewhere.refl (world : World) : world.Elsewhere world := ⟨.refl world, rfl, rfl⟩

/-- Processes do no more than that. -/
theorem World.Proceeds.elsewhere {world after : World} (proceeds : world.Proceeds after) :
    world.Elsewhere after := by
  obtain ⟨host, steps, rfl⟩ := proceeds
  exact ⟨⟨steps.later, steps.onward⟩, rfl, rfl⟩

/-! ## Taking things out -/

/-- Who takes something out of a table: a caller by its id, or whoever closes everything. -/
inductive Closer where
  | caller
  | everything
  deriving DecidableEq

/-- Something that was taken out of a table and is to be closed. -/
structure Closing (resource : Resource) (α : Type) where
  closer : Closer
  id : Id resource
  value : α
  deriving DecidableEq

/-- What comes next in ending an instance. -/
inductive Duty where
  | look
  /-- It was found running and is to be killed, which starts with another look. -/
  | kill
  | signal
  | confirm
  | decide
  | reap
  | release
  deriving DecidableEq

/-- An instance that was taken out of its table and is being ended. -/
structure Departure where
  id : AlgorithmId
  i : Instance
  duty : Duty := .look
  deriving DecidableEq

/-- What comes after that, when the instance then has the given status. -/
def Duty.next (duty : Duty) (status : Status) : Duty :=
  match duty with
  | .look => if status = .running then .kill else .decide
  | .kill => if status = .running then .signal else .decide
  | .signal => .confirm
  | .confirm => .decide
  | .decide => if status.isTerminal then .reap else .release
  | .reap => .release
  | .release => .release

namespace Departure

/-- What an instance becomes at the next step of ending it. -/
def settle (d : Departure) (world : World) : Instance × World :=
  match d.duty with
  | .signal => d.i.signal world
  | .reap => d.i.reap world
  | _ => d.i.poll world

/-- The next step of ending an instance. -/
def next (d : Departure) (world : World) : Option Departure × World :=
  match d.duty with
  | .release => (none, d.i.releasePipes world)
  | duty =>
    let (i, world) := d.settle world
    (some { d with i, duty := duty.next i.status }, world)

/-- Until it is released an instance settles. -/
theorem settle_settles (d : Departure) (world : World) :
    d.i.Settles world (d.settle world).1 (d.settle world).2 := by
  unfold settle
  split
  · exact d.i.signal_settles world
  · exact d.i.reap_settles world
  · exact d.i.poll_settles world

/-- An instance is released at last, and settles until then. -/
theorem next_cases (d : Departure) (world : World) :
    (d.duty = .release ∧ d.next world = (none, d.i.releasePipes world)) ∨
      (d.duty ≠ .release ∧ d.next world =
        (some { d with i := (d.settle world).1, duty := d.duty.next (d.settle world).1.status },
          (d.settle world).2)) := by
  by_cases last : d.duty = .release
  · refine .inl ⟨last, ?_⟩
    unfold next
    rw [last]
  · refine .inr ⟨last, ?_⟩
    unfold next
    split
    · exact absurd ‹_› last
    · rfl

/-- As long as an ending goes on, the instance settles. -/
theorem next_of_goes {d d' : Departure} {world : World} (goes : (d.next world).1 = some d') :
    d.duty ≠ .release ∧
      d' = { d with i := (d.settle world).1, duty := d.duty.next (d.settle world).1.status } ∧
      (d.next world).2 = (d.settle world).2 := by
  rcases d.next_cases world with ⟨_, next⟩ | ⟨more, next⟩
  · rw [next] at goes
    cases goes
  · rw [next] at goes ⊢
    cases goes
    exact ⟨more, rfl, rfl⟩

/-- When an ending is over the instance is released. -/
theorem next_of_gone {d : Departure} {world : World} (gone : (d.next world).1 = none) :
    d.duty = .release ∧ (d.next world).2 = d.i.releasePipes world := by
  rcases d.next_cases world with ⟨last, next⟩ | ⟨_, next⟩
  · rw [next]
    exact ⟨last, rfl⟩
  · rw [next] at gone
    cases gone

end Departure

/-! ## The stage -/

/-- A driver with all that is under way. -/
structure Stage where
  driver : Driver
  world : World
  /-- Instances that were started but not registered yet. -/
  arriving : List Instance := []
  /-- Instances that were taken out of the table but not ended yet. -/
  leaving : List Departure := []
  /-- Channels that were opened but not registered yet. -/
  openedReads : List (Channel ReadHandle) := []
  openedWrites : List (Channel WriteHandle) := []
  /-- Channels that were taken out of their table but not closed yet. -/
  closingReads : List (Closing .readFile (Channel ReadHandle)) := []
  closingWrites : List (Closing .writeFile (Channel WriteHandle)) := []
  /-- The handles that callers hold. -/
  readers : List ReadHandle := []
  writers : List WriteHandle := []

/-- What shows of a step. -/
inductive Deed where
  /-- A table was changed. -/
  | table (notice : Notice)
  /-- An instance that was taken out of the table has been ended. -/
  | ended (id : AlgorithmId) (i : Instance)
  | releasedRead (closer : Closer) (id : ReadFileId)
  | releasedWrite (closer : Closer) (id : WriteFileId) (result : Except StreamError Unit)
  /-- The kill signal was sent to a process. -/
  | signalled (process : Nat)
  | lentInput (id : AlgorithmId) (pipe : Option WriteHandle)
  | lentOutput (id : AlgorithmId) (pipe : Option ReadHandle)
  | read (r : ReadHandle) (count : Nat) (result : Except StreamError Bytes)
  | wrote (w : WriteHandle) (data : Bytes) (result : Except StreamError Nat)
  | flushed (w : WriteHandle) (result : Except StreamError Unit)
  | droppedSource (r : ReadHandle)
  | droppedSink (w : WriteHandle)
  | closedSource (r : ReadHandle)
  | closedSink (w : WriteHandle) (result : Except StreamError Unit)
  /-- The rest of the machine went on. -/
  | elsewhere
  | silent

/-- What a step changed in the tables. -/
def Deed.notice : Deed → Notice
  | table notice => notice
  | _ => .nothing

namespace Stage

/-- Nobody used the driver yet. -/
structure New (s : Stage) : Prop where
  algorithms : s.driver.algorithms = .empty
  readFiles : s.driver.readFiles = .empty
  writeFiles : s.driver.writeFiles = .empty
  arriving : s.arriving = []
  leaving : s.leaving = []
  openedReads : s.openedReads = []
  openedWrites : s.openedWrites = []
  closingReads : s.closingReads = []
  closingWrites : s.closingWrites = []
  readers : s.readers = []
  writers : s.writers = []

/-- A new stage is that of a driver with empty tables. -/
theorem New.eq {s : Stage} (new : s.New) : ∃ config world, s = { driver := { config }, world } := by
  obtain ⟨driver, world, _, _, _, _, _, _, _, _⟩ := s
  obtain ⟨config, _, _, _⟩ := driver
  obtain ⟨rfl, rfl, rfl, rfl, rfl, rfl, rfl, rfl, rfl, rfl, rfl⟩ := new
  exact ⟨config, world, rfl⟩

/-- The stage after an operation of the driver. -/
def after {α : Type} (s : Stage) (outcome : α × Driver × World) : Stage :=
  { s with driver := outcome.2.1, world := outcome.2.2 }

/-- All instances are taken out of their table, to be ended. -/
def takeInstances (s : Stage) : Stage :=
  { s with
    driver := { s.driver with algorithms := s.driver.algorithms.drain.2 }
    leaving := s.driver.algorithms.toList.map (fun (id, i) => { id, i }) ++ s.leaving }

/-- All channels to read from are taken out of their table, to be closed. -/
def takeReads (s : Stage) : Stage :=
  { s with
    driver := { s.driver with readFiles := s.driver.readFiles.drain.2 }
    closingReads :=
      s.driver.readFiles.toList.map (fun (id, channel) => ⟨.everything, id, channel⟩) ++
        s.closingReads }

/-- All channels to write to are taken out of their table, to be closed. -/
def takeWrites (s : Stage) : Stage :=
  { s with
    driver := { s.driver with writeFiles := s.driver.writeFiles.drain.2 }
    closingWrites :=
      s.driver.writeFiles.toList.map (fun (id, channel) => ⟨.everything, id, channel⟩) ++
        s.closingWrites }

/-- One step. -/
inductive Step (s : Stage) : Deed → Stage → Prop
  | spawn {name : String} {i : Instance} {world : World}
      (spawned : s.driver.spawn name s.world = .ok (i, world)) :
      Step s .silent { s with world, arriving := i :: s.arriving }
  | register {i : Instance} (arrived : i ∈ s.arriving) :
      Step s (.table (.algorithm (.issued (s.driver.register i s.world).1 i)))
        { s.after (s.driver.register i s.world) with arriving := s.arriving.erase i }
  /-- A look at an instance: to tell its status, to list the running ones, or before and after it is
  sent a signal. -/
  | look {id : AlgorithmId} {i : Instance} (found : s.driver.algorithms.get? id = some i) :
      Step s .silent
        { s with driver := s.driver.note id (i.poll s.world).1, world := (i.poll s.world).2 }
  | signal {id : AlgorithmId} {i : Instance} (found : s.driver.algorithms.get? id = some i)
      (running : i.status = .running) :
      Step s (.signalled i.process)
        { s with driver := s.driver.note id (i.signal s.world).1, world := (i.signal s.world).2 }
  | inputPipe (id : AlgorithmId) :
      Step s (.lentInput id (s.driver.inputPipe id s.world).1)
        { s.after (s.driver.inputPipe id s.world) with
          writers := (s.driver.inputPipe id s.world).1.toList ++ s.writers }
  | outputPipe (id : AlgorithmId) :
      Step s (.lentOutput id (s.driver.outputPipe id s.world).1)
        { s.after (s.driver.outputPipe id s.world) with
          readers := (s.driver.outputPipe id s.world).1.toList ++ s.readers }
  | takeInstances :
      Step s (.table (.algorithm .drained)) s.takeInstances
  /-- The ending of an instance goes on. -/
  | depart {d d' : Departure} (leaving : d ∈ s.leaving)
      (goes : (d.next s.world).1 = some d') :
      Step s (if d.duty = .signal then .signalled d.i.process else .silent)
        { s with world := (d.next s.world).2, leaving := d' :: s.leaving.erase d }
  /-- An instance has been ended. -/
  | depose {d : Departure} (leaving : d ∈ s.leaving) (gone : (d.next s.world).1 = none) :
      Step s (.ended d.id d.i)
        { s with world := (d.next s.world).2, leaving := s.leaving.erase d }
  | acquireRead {path : String} {channel : Channel ReadHandle} {world : World}
      (opened : Driver.acquireRead path s.world = .ok (channel, world)) :
      Step s .silent { s with world, openedReads := channel :: s.openedReads }
  | registerRead {channel : Channel ReadHandle} (opened : channel ∈ s.openedReads) :
      Step s (.table (.readFile (.issued (s.driver.registerRead channel s.world).1 channel)))
        { s.after (s.driver.registerRead channel s.world) with
          openedReads := s.openedReads.erase channel }
  | lendRead {id : ReadFileId} {channel : Channel ReadHandle}
      (found : s.driver.readFiles.get? id = some channel) :
      Step s .silent
        { s with
          world := s.world.holdSource channel.pipe, readers := channel.pipe :: s.readers }
  | takeRead {id : ReadFileId} {channel : Channel ReadHandle}
      (found : s.driver.readFiles.get? id = some channel) :
      Step s (.table (.readFile (.closed id)))
        { s with
          driver := { s.driver with readFiles := s.driver.readFiles.remove id }
          closingReads := ⟨.caller, id, channel⟩ :: s.closingReads }
  | takeReads :
      Step s (.table (.readFile .drained)) s.takeReads
  | releaseRead {c : Closing .readFile (Channel ReadHandle)} (closing : c ∈ s.closingReads) :
      Step s (.releasedRead c.closer c.id)
        { s with
          world := (s.world.closeSource c.value.pipe).dropSource c.value.pipe
          closingReads := s.closingReads.erase c }
  | acquireWrite {path : String} {channel : Channel WriteHandle} {world : World}
      (opened : Driver.acquireWrite path s.world = .ok (channel, world)) :
      Step s .silent { s with world, openedWrites := channel :: s.openedWrites }
  | registerWrite {channel : Channel WriteHandle} (opened : channel ∈ s.openedWrites) :
      Step s (.table (.writeFile (.issued (s.driver.registerWrite channel s.world).1 channel)))
        { s.after (s.driver.registerWrite channel s.world) with
          openedWrites := s.openedWrites.erase channel }
  | lendWrite {id : WriteFileId} {channel : Channel WriteHandle}
      (found : s.driver.writeFiles.get? id = some channel) :
      Step s .silent
        { s with world := s.world.holdSink channel.pipe, writers := channel.pipe :: s.writers }
  | takeWrite {id : WriteFileId} {channel : Channel WriteHandle}
      (found : s.driver.writeFiles.get? id = some channel) :
      Step s (.table (.writeFile (.closed id)))
        { s with
          driver := { s.driver with writeFiles := s.driver.writeFiles.remove id }
          closingWrites := ⟨.caller, id, channel⟩ :: s.closingWrites }
  | takeWrites :
      Step s (.table (.writeFile .drained)) s.takeWrites
  | releaseWrite {c : Closing .writeFile (Channel WriteHandle)} (closing : c ∈ s.closingWrites) :
      Step s (.releasedWrite c.closer c.id (s.world.closeSink c.value.pipe).1)
        { s with
          world := (s.world.closeSink c.value.pipe).2.dropSink c.value.pipe
          closingWrites := s.closingWrites.erase c }
  | holdSource {r : ReadHandle} (holds : r ∈ s.readers) :
      Step s .silent { s with world := s.world.holdSource r, readers := r :: s.readers }
  | dropSource {r : ReadHandle} (holds : r ∈ s.readers) :
      Step s (.droppedSource r)
        { s with world := s.world.dropSource r, readers := s.readers.erase r }
  | closeSource {r : ReadHandle} (holds : r ∈ s.readers) :
      Step s (.closedSource r) { s with world := s.world.closeSource r }
  | read {r : ReadHandle} {count : Nat} {result : Except StreamError Bytes} {world : World}
      (holds : r ∈ s.readers) (done : s.world.read r count = some (result, world)) :
      Step s (.read r count result) { s with world }
  | holdSink {w : WriteHandle} (holds : w ∈ s.writers) :
      Step s .silent { s with world := s.world.holdSink w, writers := w :: s.writers }
  | dropSink {w : WriteHandle} (holds : w ∈ s.writers) :
      Step s (.droppedSink w)
        { s with world := s.world.dropSink w, writers := s.writers.erase w }
  | closeSink {w : WriteHandle} (holds : w ∈ s.writers) :
      Step s (.closedSink w (s.world.closeSink w).1) { s with world := (s.world.closeSink w).2 }
  | write {w : WriteHandle} {data : Bytes} {result : Except StreamError Nat} {world : World}
      (holds : w ∈ s.writers) (done : s.world.write w data = some (result, world)) :
      Step s (.wrote w data result) { s with world }
  | flush {w : WriteHandle} (holds : w ∈ s.writers) :
      Step s (.flushed w (s.world.flush w).1) { s with world := (s.world.flush w).2 }
  | record (entry : LogEntry) : Step s .silent { s with world := s.world.record entry }
  /-- Processes go on, and other drivers and programs. -/
  | elsewhere {world : World} (elsewhere : s.world.Elsewhere world) :
      Step s .elsewhere { s with world }

/-- A run, with what shows of its steps. -/
inductive Run (start : Stage) : List Deed → Stage → Prop
  | nil : Run start [] start
  | snoc {deeds : List Deed} {s t : Stage} {deed : Deed} (run : Run start deeds s)
      (step : Step s deed t) : Run start (deeds ++ [deed]) t

theorem Run.append {s t u : Stage} {before after : List Deed} (first : Run s before t)
    (second : Run t after u) : Run s (before ++ after) u := by
  induction second with
  | nil =>
    rw [List.append_nil]
    exact first
  | snoc _ step ih =>
    rw [← List.append_assoc]
    exact ih.snoc step

/-! ## Tables and their history -/

variable {s t : Stage} {deed : Deed} {deeds : List Deed}

/-- What happened to the tables. -/
def notices (deeds : List Deed) : List Notice := deeds.map Deed.notice

theorem notices_snoc (deeds : List Deed) (deed : Deed) :
    notices (deeds ++ [deed]) = notices deeds ++ [deed.notice] := by
  simp [notices]

theorem inputPipe_tables (driver : Driver) (id : AlgorithmId) (world : World) :
    (driver.inputPipe id world).2.1.readFiles = driver.readFiles ∧
      (driver.inputPipe id world).2.1.writeFiles = driver.writeFiles := by
  unfold Driver.inputPipe
  split <;> exact ⟨rfl, rfl⟩

end Stage

/-- The tables stay, up to what becomes of instances by themselves. -/
theorem Driver.Follows.evolve {driver driver' : Driver} {history : List Notice}
    (follows : driver.Follows history)
    (algorithms : driver.algorithms.Evolves Instance.Since driver'.algorithms)
    (readFiles : driver'.readFiles = driver.readFiles)
    (writeFiles : driver'.writeFiles = driver.writeFiles) :
    driver'.Follows (history ++ [.nothing]) := by
  have evolved := follows.algorithms.evolve Instance.Since.trans algorithms
  refine ⟨by simpa using evolved, ?_, ?_⟩
  · rw [readFiles]
    simpa using follows.readFiles
  · rw [writeFiles]
    simpa using follows.writeFiles

namespace Stage

variable {s t : Stage} {deed : Deed} {deeds : List Deed}

/-- Every step changes the tables as it shows. -/
theorem Step.follows (step : Step s deed t) (follows : s.driver.Follows (notices deeds)) :
    t.driver.Follows (notices (deeds ++ [deed])) := by
  rw [notices_snoc]
  have still : s.driver.Follows (notices deeds ++ [.nothing]) :=
    follows.evolve (.refl Instance.Since.refl _) rfl rfl
  let scene : Scene := { driver := s.driver, world := s.world, arriving := s.arriving }
  have access {notice : Notice} {scene' : Scene} (access : Access scene notice scene') :
      scene'.driver.Follows (notices deeds ++ [notice]) := access.follows follows
  cases step with
  | register arrived => exact access (.register arrived)
  | look found => exact follows.evolve (Driver.note_evolves found (Instance.poll_since _ _)) rfl rfl
  | signal found _ =>
    exact follows.evolve (Driver.note_evolves found (Instance.terminate_since _ _ _)) rfl rfl
  | inputPipe id =>
    have same := inputPipe_tables s.driver id s.world
    exact follows.evolve (Driver.inputPipe_evolves s.driver s.world id) same.1 same.2
  | outputPipe id =>
    show (s.driver.outputPipe id s.world).2.1.Follows _
    rw [Driver.outputPipe_driver]
    exact still
  | takeInstances => exact access .drain
  | @registerRead channel _ => exact access (.readFiles (.insert channel))
  | takeRead found => exact access (.readFiles (.remove found))
  | takeReads => exact access (.readFiles .drain)
  | @registerWrite channel _ => exact access (.writeFiles (.insert channel))
  | takeWrite found => exact access (.writeFiles (.remove found))
  | takeWrites => exact access (.writeFiles .drain)
  | depart =>
    split <;> exact still
  | spawn | depose | acquireRead | lendRead | releaseRead | acquireWrite | lendWrite
    | releaseWrite | holdSource | dropSource | closeSource | read | holdSink | dropSink
    | closeSink | write | flush | record | elsewhere => exact still

/-! ## Who holds which stream -/

/-- The instances of the driver, wherever they are. -/
def instances (s : Stage) : List Instance :=
  s.driver.algorithms.values ++ (s.arriving ++ s.leaving.map Departure.i)

/-- The channels to read from, wherever they are. -/
def reads (s : Stage) : List (Channel ReadHandle) :=
  s.driver.readFiles.values ++ (s.openedReads ++ s.closingReads.map Closing.value)

/-- The channels to write to, wherever they are. -/
def writes (s : Stage) : List (Channel WriteHandle) :=
  s.driver.writeFiles.values ++ (s.openedWrites ++ s.closingWrites.map Closing.value)

/-- Everything that holds handles. -/
def holdings (s : Stage) : Holdings where
  world := s.world
  instances := s.instances
  reads := s.reads
  writes := s.writes
  readers := s.readers
  writers := s.writers

theorem instances_of_get? (follows : s.driver.Follows (notices deeds)) {id : AlgorithmId}
    {i : Instance} (found : s.driver.algorithms.get? id = some i) :
    ∃ rest, s.instances.Perm (i :: rest) ∧ ∀ (i' : Instance) (world : World),
      ({ s with driver := s.driver.note id i', world }.instances).Perm (i' :: rest) := by
  obtain ⟨rest, has, set, _⟩ := Table.values_of_get? follows.algorithms.apart found
  exact ⟨_, has.append_right _, fun i' _ => (set i').append_right _⟩

theorem instances_of_leaving {d : Departure} (leaving : d ∈ s.leaving) :
    s.instances.Perm (d.i :: { s with leaving := s.leaving.erase d }.instances) := by
  have has := (List.perm_cons_erase leaving).map Departure.i
  exact (((has.append_left s.arriving).append_left _).trans Holdings.Sound.perm_station)

theorem takeInstances_perm (s : Stage) : s.instances.Perm s.takeInstances.instances := by
  show (s.driver.algorithms.values ++ _).Perm (s.arriving ++ List.map Departure.i (_ ++ s.leaving))
  rw [List.map_append, List.map_map, ← Table.values_drain]
  exact List.perm_append_comm_assoc _ _ _

/-- Something is taken out of a table. -/
theorem perm_taken {α : Type} {values values' opened closing rest : List α} {a : α}
    (has : values.Perm (a :: rest)) (removed : values'.Perm rest) :
    (values ++ (opened ++ closing)).Perm (values' ++ (opened ++ a :: closing)) := by
  refine (has.append_right _).trans ?_
  exact Holdings.Sound.perm_station.symm.trans (removed.symm.append_right _)

/-- Something is registered. -/
theorem perm_erase_cons {α : Type} [DecidableEq α] {first second third : List α} {a : α}
    (mem : a ∈ second) :
    (first ++ (second ++ third)).Perm ((first ++ [a]) ++ (second.erase a ++ third)) := by
  rw [List.append_assoc]
  exact ((List.perm_cons_erase mem).append_right third).append_left first

theorem registerRead_perm {channel : Channel ReadHandle} (opened : channel ∈ s.openedReads) :
    s.reads.Perm ({ s.after (s.driver.registerRead channel s.world) with
      openedReads := s.openedReads.erase channel }.reads) := by
  show (s.driver.readFiles.values ++ _).Perm ((s.driver.readFiles.insert channel).2.values ++ _)
  rw [Table.values_insert]
  exact perm_erase_cons opened

theorem takeRead_perm (apart : (s.driver.readFiles.entries.map Prod.fst).Nodup) {id : ReadFileId}
    {channel : Channel ReadHandle} (found : s.driver.readFiles.get? id = some channel) :
    s.reads.Perm ({ s with
      driver := { s.driver with readFiles := s.driver.readFiles.remove id }
      closingReads := ⟨.caller, id, channel⟩ :: s.closingReads }.reads) := by
  obtain ⟨rest, has, _, removed⟩ := Table.values_of_get? apart found
  exact perm_taken has removed

theorem takeReads_perm (s : Stage) : s.reads.Perm s.takeReads.reads := by
  show (s.driver.readFiles.values ++ _).Perm
    (s.openedReads ++ List.map Closing.value (_ ++ s.closingReads))
  rw [List.map_append, List.map_map, ← Table.values_drain]
  exact List.perm_append_comm_assoc _ _ _

theorem registerWrite_perm {channel : Channel WriteHandle} (opened : channel ∈ s.openedWrites) :
    s.writes.Perm ({ s.after (s.driver.registerWrite channel s.world) with
      openedWrites := s.openedWrites.erase channel }.writes) := by
  show (s.driver.writeFiles.values ++ _).Perm ((s.driver.writeFiles.insert channel).2.values ++ _)
  rw [Table.values_insert]
  exact perm_erase_cons opened

theorem takeWrite_perm (apart : (s.driver.writeFiles.entries.map Prod.fst).Nodup) {id : WriteFileId}
    {channel : Channel WriteHandle} (found : s.driver.writeFiles.get? id = some channel) :
    s.writes.Perm ({ s with
      driver := { s.driver with writeFiles := s.driver.writeFiles.remove id }
      closingWrites := ⟨.caller, id, channel⟩ :: s.closingWrites }.writes) := by
  obtain ⟨rest, has, _, removed⟩ := Table.values_of_get? apart found
  exact perm_taken has removed

theorem takeWrites_perm (s : Stage) : s.writes.Perm s.takeWrites.writes := by
  show (s.driver.writeFiles.values ++ _).Perm
    (s.openedWrites ++ List.map Closing.value (_ ++ s.closingWrites))
  rw [List.map_append, List.map_map, ← Table.values_drain]
  exact List.perm_append_comm_assoc _ _ _

theorem reads_of_closing {c : Closing .readFile (Channel ReadHandle)} (closing : c ∈ s.closingReads) :
    s.reads.Perm (c.value :: { s with closingReads := s.closingReads.erase c }.reads) := by
  have has := (List.perm_cons_erase closing).map Closing.value
  exact (((has.append_left s.openedReads).append_left _).trans Holdings.Sound.perm_station)

theorem writes_of_closing {c : Closing .writeFile (Channel WriteHandle)}
    (closing : c ∈ s.closingWrites) :
    s.writes.Perm (c.value :: { s with closingWrites := s.closingWrites.erase c }.writes) := by
  have has := (List.perm_cons_erase closing).map Closing.value
  exact (((has.append_left s.openedWrites).append_left _).trans Holdings.Sound.perm_station)

variable {start : World}

/-- Every stream has the handles that are held, and keeps them at every step. -/
theorem Step.holdings (step : Step s deed t) (follows : s.driver.Follows (notices deeds))
    (sound : s.holdings.Sound start) : t.holdings.Sound start := by
  cases step with
  | @spawn name i world spawned =>
    obtain ⟨command, started⟩ := Driver.spawn_start spawned
    refine (sound.addInstance started).of_perm rfl rfl ?_ (.refl _) (.refl _) (.refl _) (.refl _)
    exact List.perm_middle.symm
  | @register i arrived =>
    refine sound.of_perm rfl rfl ?_ (.refl _) (.refl _) (.refl _) (.refl _)
    have moved := (List.perm_cons_erase arrived).append_right (s.leaving.map Departure.i)
    show (s.driver.algorithms.values ++ _).Perm ((s.driver.algorithms.insert i).2.values ++ _)
    rw [Table.values_insert, List.append_assoc]
    exact moved.append_left _
  | @look id i found =>
    obtain ⟨rest, has, after⟩ := instances_of_get? follows found
    exact (sound.settle has (i.poll_settles s.world)).of_perm rfl rfl (after _ _).symm (.refl _)
      (.refl _) (.refl _) (.refl _)
  | @signal id i found _ =>
    obtain ⟨rest, has, after⟩ := instances_of_get? follows found
    exact (sound.settle has (i.signal_settles s.world)).of_perm rfl rfl (after _ _).symm (.refl _)
      (.refl _) (.refl _) (.refl _)
  | inputPipe id =>
    unfold after Driver.inputPipe
    cases found : s.driver.algorithms.get? id with
    | none => exact sound
    | some i =>
      obtain ⟨rest, has, after⟩ := instances_of_get? follows found
      exact (sound.inputPipe has).of_perm rfl rfl (after _ s.world).symm (.refl _) (.refl _)
        (.refl _) (.refl _)
  | outputPipe id =>
    unfold after Driver.outputPipe
    cases found : s.driver.algorithms.get? id with
    | none => exact sound
    | some i => exact sound.outputPipe (List.mem_append_left _ (Table.mem_values found))
  | takeInstances =>
    exact sound.of_perm rfl rfl (takeInstances_perm s) (.refl _) (.refl _) (.refl _) (.refl _)
  | @depart d d' leaving goes =>
    obtain ⟨-, rfl, next⟩ := Departure.next_of_goes goes
    rw [next]
    exact (sound.settle (instances_of_leaving leaving) (d.settle_settles s.world)).of_perm rfl rfl
      Holdings.Sound.perm_station.symm (.refl _) (.refl _) (.refl _) (.refl _)
  | @depose d leaving gone =>
    rw [(Departure.next_of_gone gone).2]
    exact sound.releaseInstance (instances_of_leaving leaving) rfl rfl
  | acquireRead opened =>
    exact (sound.addRead opened).of_perm rfl rfl (.refl _) List.perm_middle.symm (.refl _) (.refl _)
      (.refl _)
  | @registerRead channel opened =>
    refine sound.of_perm rfl rfl (.refl _) ?_ (.refl _) (.refl _) (.refl _)
    exact registerRead_perm opened
  | @lendRead id channel found =>
    refine sound.lendSource (List.mem_append_right _ (List.mem_append_left _ ?_))
    exact List.mem_map_of_mem (List.mem_append_left _ (Table.mem_values found))
  | @takeRead id channel found =>
    refine sound.of_perm rfl rfl (.refl _) ?_ (.refl _) (.refl _) (.refl _)
    exact takeRead_perm follows.readFiles.apart found
  | takeReads =>
    refine sound.of_perm rfl rfl (.refl _) ?_ (.refl _) (.refl _) (.refl _)
    exact takeReads_perm s
  | @releaseRead c closing => exact sound.releaseRead (reads_of_closing closing)
  | acquireWrite opened =>
    exact (sound.addWrite opened).of_perm rfl rfl (.refl _) (.refl _) List.perm_middle.symm
      (.refl _) (.refl _)
  | @registerWrite channel opened =>
    refine sound.of_perm rfl rfl (.refl _) (.refl _) ?_ (.refl _) (.refl _)
    exact registerWrite_perm opened
  | @lendWrite id channel found =>
    refine sound.lendSink (List.mem_append_right _ (List.mem_append_left _ ?_))
    exact List.mem_map_of_mem (List.mem_append_left _ (Table.mem_values found))
  | @takeWrite id channel found =>
    refine sound.of_perm rfl rfl (.refl _) (.refl _) ?_ (.refl _) (.refl _)
    exact takeWrite_perm follows.writeFiles.apart found
  | takeWrites =>
    refine sound.of_perm rfl rfl (.refl _) (.refl _) ?_ (.refl _) (.refl _)
    exact takeWrites_perm s
  | @releaseWrite c closing => exact sound.releaseWrite (writes_of_closing closing)
  | @holdSource r holds => exact sound.lendSource (Holdings.Sound.mem_readRefs holds)
  | @dropSource r holds => exact sound.dropSource (List.perm_cons_erase holds)
  | @closeSource r holds => exact sound.closeSource (Holdings.Sound.mem_readRefs holds)
  | read holds done => exact sound.read (Holdings.Sound.mem_readRefs holds) done
  | holdSink holds => exact sound.lendSink (Holdings.Sound.mem_writeRefs holds)
  | dropSink holds => exact sound.dropSink (List.perm_cons_erase holds)
  | closeSink holds => exact sound.closeSink (Holdings.Sound.mem_writeRefs holds)
  | write holds done =>
    exact sound.useSink (Holdings.Sound.mem_writeRefs holds) (World.write_sources done)
      (World.write_sinks done)
  | @flush w holds =>
    exact sound.useSink (Holdings.Sound.mem_writeRefs holds) (World.flush_sources s.world w)
      (World.flush_sinks s.world w)
  | record entry => exact sound.quiet rfl rfl
  | elsewhere elsewhere => exact sound.quiet elsewhere.sources elsewhere.sinks

/-- The tables are as their history tells, and every stream has exactly the handles that are
held. -/
structure Sound (start : World) (deeds : List Deed) (s : Stage) : Prop where
  follows : s.driver.Follows (notices deeds)
  holdings : s.holdings.Sound start

theorem New.sound {s : Stage} (new : s.New) : s.Sound s.world [] where
  follows := by
    refine ⟨?_, ?_, ?_⟩
    · rw [new.algorithms]
      exact .empty _
    · rw [new.readFiles]
      exact .empty _
    · rw [new.writeFiles]
      exact .empty _
  holdings := by
    obtain ⟨config, world, rfl⟩ := new.eq
    exact ⟨.nil _, .nil _, .nil, .nil, List.forall_mem_nil _⟩

theorem Run.sound {start s : Stage} (new : start.New) (run : Run start deeds s) :
    s.Sound start.world deeds := by
  induction run with
  | nil => exact new.sound
  | snoc _ step ih => exact ⟨step.follows ih.follows, step.holdings ih.follows ih.holdings⟩

end Stage

end AlgorithmDriver

import AlgorithmDriver.Proofs.Driver.Answers
import AlgorithmDriver.Proofs.Driver.Ending
import AlgorithmDriver.Proofs.Host.FileTree

/-!
# Refused operations

Whatever a driver refuses to do leaves no trace: the tables, their counters and every stream are as
they were.  There are two exceptions.

* A refused kill may note that the instance has ended, as any look at it may (`Instance.Noticed`).
  What the instance held of its pipes is dropped then, but nothing that anybody else holds
  (`Unstopped`).
* A channel whose pending data cannot be flushed when it is closed is closed all the same
  (`Unflushed`).

`Stage.Run.refused_changes_nothing` says this of every operation, in every state that a driver can
get into.
-/

namespace AlgorithmDriver

/-! ## Operations -/

/-- What the rest of the machine does while an operation is under way. -/
structure Interlude where
  pass : World → World
  elsewhere : ∀ world, World.Elsewhere world (pass world)

/-- Nothing happens meanwhile. -/
def Interlude.nothing : Interlude := ⟨fun world => world, World.Elsewhere.refl⟩

namespace Driver

/-- An operation that a driver can refuse. -/
inductive Operation where
  | start (name : String)
  | status (id : AlgorithmId)
  | wait (id : AlgorithmId)
  | kill (id : AlgorithmId) (meanwhile : Interlude) (unsent : Option Instance.Unsent)
  | inputPipe (id : AlgorithmId)
  | outputPipe (id : AlgorithmId)
  | openRead (path : String)
  | readPipe (id : ReadFileId)
  | closeRead (id : ReadFileId)
  | openWrite (path : String)
  | writePipe (id : WriteFileId)
  | closeWrite (id : WriteFileId)

/-- How an operation is refused. -/
inductive Refusal where
  | error (e : DriverError)
  /-- The status of an instance that there is not. -/
  | notFound
  | noPipe
  deriving DecidableEq

namespace Operation

/-- An error is a refusal. -/
def refusal? {α : Type} : Except DriverError α → Option Refusal
  | .error e => some (.error e)
  | .ok _ => none

/-- Carries out an operation.  Tells whether it is refused, and the state after it. -/
def perform (driver : Driver) (world : World) : Operation → Option Refusal × Driver × World
  | .start name =>
    let (r, driver, world) := driver.start name world
    (refusal? r, driver, world)
  | .status id =>
    let (answer, driver, world) := driver.status id world
    (if answer = .notFound then some .notFound else none, driver, world)
  | .wait id =>
    let (answer, driver, world) := driver.wait id world
    (if answer = some .notFound then some .notFound else none, driver, world)
  | .kill id meanwhile unsent =>
    let (r, driver, world) := driver.kill id world meanwhile.pass unsent
    (refusal? r, driver, world)
  | .inputPipe id =>
    let (pipe, driver, world) := driver.inputPipe id world
    (if pipe.isNone then some .noPipe else none, driver, world)
  | .outputPipe id =>
    let (pipe, driver, world) := driver.outputPipe id world
    (if pipe.isNone then some .noPipe else none, driver, world)
  | .openRead path =>
    let (r, driver, world) := driver.openRead path world
    (refusal? r, driver, world)
  | .readPipe id =>
    let (r, world) := driver.readPipe id world
    (refusal? r, driver, world)
  | .closeRead id =>
    let (r, driver, world) := driver.closeRead id world
    (refusal? r, driver, world)
  | .openWrite path =>
    let (r, driver, world) := driver.openWrite path world
    (refusal? r, driver, world)
  | .writePipe id =>
    let (r, world) := driver.writePipe id world
    (refusal? r, driver, world)
  | .closeWrite id =>
    let (r, driver, world) := driver.closeWrite id world
    (refusal? r, driver, world)

end Operation

end Driver

/-! ## Refused kills -/

namespace Instance

/-- What may be noted about an instance that could not be killed: nothing, that its process was
waited for, or that it has exited. -/
inductive Noticed (i : Instance) (host : Host) : Instance → Prop
  | nothing : Noticed i host i
  | gone {status : ExitStatus} (stopped : i.status ≠ .running)
      (ended : host.HasEnded i.process status) : Noticed i host { i with reaped := true }
  | exited {status : ExitStatus} (running : i.status = .running)
      (ended : host.HasEnded i.process status) :
      Noticed i host
        { i with
          status := .exited status.code, reaped := true, input := .released, output := none }

variable {i i' : Instance} {world after : World}

theorem poll_noticed (i : Instance) (world : World) :
    i.Noticed (i.poll world).2.host (i.poll world).1 := by
  have later := i.poll_later world
  rcases i.poll_spec world with same | ⟨status, ended, _, ⟨stopped, looked⟩ | ⟨running, looked⟩⟩
  · rw [same]
    exact .nothing
  · rw [looked] at later ⊢
    exact .gone stopped (later _ _ ended)
  · rw [looked] at later ⊢
    exact .exited running (later _ _ ended)

/-- Only the streams matter. -/
theorem Settles.of_streams {before : World} (settles : i.Settles world i' after)
    (sources : world.sources = before.sources) (sinks : world.sinks = before.sinks) :
    i.Settles before i' after := by
  cases settles with
  | kept input output sources' sinks' =>
    exact .kept input output (sources'.trans sources) (sinks'.trans sinks)
  | ended between input output sources' sinks' =>
    exact .ended between input output (sources'.trans sources) (sinks'.trans sinks)

/-- A kill is refused when a look finds that the instance has ended, or when the signal cannot be
sent. -/
theorem kill_refused {id : AlgorithmId} {meanwhile : Interlude} {unsent : Option Unsent}
    {e : DriverError} (refused : i.kill id world meanwhile.pass unsent = (.error e, i', after)) :
    i.Settles world i' after ∧ i.Noticed after.host i' ∧
      (e = .alreadyExited id ∨
        i.status = .running ∧ i' = i ∧ ∃ reason, e = .io id.text (.refused reason)) := by
  have settles := i.poll_settles world
  have noticed := i.poll_noticed world
  by_cases running : (i.poll world).1.status = .running
  · have same : i.poll world = (i, world) := by
      rcases i.poll_spec world with same | ⟨status, _, _, ⟨stopped, looked⟩ | ⟨_, looked⟩⟩
      · exact same
      · rw [looked] at running
        exact absurd running stopped
      · rw [looked] at running
        cases running
    rw [same] at running
    change i.status = .running at running
    unfold kill at refused
    simp only [same, running] at refused
    have passed := meanwhile.elsewhere world
    cases unsent with
    | none => cases refused
    | some reason =>
      cases reason with
      | gone =>
        cases refused
        exact ⟨(i.poll_settles _).of_streams passed.sources passed.sinks, i.poll_noticed _, .inl rfl⟩
      | refused reason =>
        cases refused
        exact ⟨.kept rfl rfl passed.sources passed.sinks, .nothing, .inr ⟨running, rfl, reason, rfl⟩⟩
  · have answer : i.kill id world meanwhile.pass unsent =
        (.error (.alreadyExited id), (i.poll world).1, (i.poll world).2) := by
      unfold kill
      dsimp only
      split
      · exact absurd ‹_› running
      · rfl
    rw [answer] at refused
    cases refused
    exact ⟨settles, noticed, .inl rfl⟩

/-- An instance that has no input to give stays as it is. -/
theorem inputPipe_of_none (refused : (i.inputPipe world).1 = none) :
    i.inputPipe world = (none, i, world) := by
  rcases i.inputPipe_cases world with ⟨_, _, answer⟩ | ⟨_, _, _, answer⟩ | answer
  · rw [answer] at refused
    cases refused
  · rw [answer] at refused
    cases refused
  · exact answer

end Instance

/-! ## What is left alone -/

namespace Stage

variable {start s : Stage} {deeds : List Deed}

/-- Whatever an instance drops, the streams of everybody else stay as they are: those that callers
have handles of, those of channels and those of other instances. -/
structure Spares (s : Stage) (id : AlgorithmId) (after : World) : Prop where
  readers : ∀ r ∈ s.readers, after.openSource? r = s.world.openSource? r
  writers : ∀ w ∈ s.writers, after.openSink? w = s.world.openSink? w
  readFiles : ∀ key channel, s.driver.readFiles.get? key = some channel →
    after.openSource? channel.pipe = s.world.openSource? channel.pipe
  writeFiles : ∀ key channel, s.driver.writeFiles.get? key = some channel →
    after.openSink? channel.pipe = s.world.openSink? channel.pipe
  outputs : ∀ key i r, key ≠ id → s.driver.algorithms.get? key = some i → i.output = some r →
    after.openSource? r = s.world.openSource? r
  inputs : ∀ key i w, key ≠ id → s.driver.algorithms.get? key = some i →
    i.input.pipe? = some w → after.openSink? w = s.world.openSink? w

theorem Sound.spares (sound : s.Sound start.world deeds) {id : AlgorithmId} {i i' : Instance}
    {after : World} (found : s.driver.algorithms.get? id = some i)
    (settles : i.Settles s.world i' after) : s.Spares id after := by
  obtain ⟨follows, holdings⟩ := sound
  obtain ⟨rest, has, _, removed⟩ := Table.values_of_get? follows.algorithms.apart found
  -- Everything else is at another station than the instance.
  have instances : s.instances.Perm (i :: (rest ++ (s.arriving ++ s.leaving.map Departure.i))) :=
    has.append_right _
  have remains {key : AlgorithmId} {other : Instance} (apart : key ≠ id)
      (found' : s.driver.algorithms.get? key = some other) :
      other ∈ rest ++ (s.arriving ++ s.leaving.map Departure.i) := by
    refine List.mem_append_left _ (removed.mem_iff.1 (@Table.mem_values _ _ _ key _ ?_))
    rw [Table.get?_remove, if_neg apart, found']
  have readApart : (s.reads.map (fun channel => channel.pipe.number) ++ (i.outputStream ++
      (rest ++ (s.arriving ++ s.leaving.map Departure.i)).flatMap Instance.outputStream)).Nodup :=
    ((instances.flatMap_right Instance.outputStream).append_left _).nodup holdings.readApart
  have writeApart : (s.writes.map (fun channel => channel.pipe.number) ++ (i.inputStream ++
      (rest ++ (s.arriving ++ s.leaving.map Departure.i)).flatMap Instance.inputStream)).Nodup :=
    ((instances.flatMap_right Instance.inputStream).append_left _).nodup holdings.writeApart
  obtain ⟨_, readOthers, readChannels⟩ := List.nodup_append.1 readApart
  obtain ⟨_, writeOthers, writeChannels⟩ := List.nodup_append.1 writeApart
  have source (r : ReadHandle) (kept : r ∈ s.readers ∨ r.number ∉ i.outputStream) :=
    holdings.openSource?_of_settles instances settles kept
  have sink (w : WriteHandle) (kept : w ∈ s.writers ∨ w.number ∉ i.keptInput) :=
    holdings.openSink?_of_settles instances settles kept
  refine ⟨fun r mem => source r (.inl mem), fun w mem => sink w (.inl mem), ?_, ?_, ?_, ?_⟩
  · intro key channel found'
    refine source _ (.inr fun own => ?_)
    have mem : channel ∈ s.reads := List.mem_append_left _ (Table.mem_values found')
    exact readChannels _ (List.mem_map_of_mem mem) _ (List.mem_append_left _ own) rfl
  · intro key channel found'
    refine sink _ (.inr fun own => ?_)
    have mem : channel ∈ s.writes := List.mem_append_left _ (Table.mem_values found')
    exact writeChannels _ (List.mem_map_of_mem mem) _
      (List.mem_append_left _ (i.keptInput_sublist.subset own)) rfl
  · intro key other r apart found' output
    refine source _ (.inr fun own => ?_)
    refine (List.nodup_append.1 readOthers).2.2 _ own r.number ?_ rfl
    refine List.mem_flatMap.2 ⟨other, remains apart found', ?_⟩
    simp [Instance.outputStream, output]
  · intro key other w apart found' input
    refine sink _ (.inr fun own => ?_)
    refine (List.nodup_append.1 writeOthers).2.2 _ (i.keptInput_sublist.subset own) w.number ?_ rfl
    refine List.mem_flatMap.2 ⟨other, remains apart found', ?_⟩
    simp [Instance.inputStream, input]

/-- A kill that was refused: nothing has changed but what is known of the instance. -/
structure Unstopped (s : Stage) (id : AlgorithmId) (e : DriverError) (driver : Driver)
    (world : World) (i i' : Instance) : Prop where
  found : s.driver.algorithms.get? id = some i
  noted : driver = s.driver.note id i'
  noticed : i.Noticed world.host i'
  answer : e = .alreadyExited id ∨
    i.status = .running ∧ i' = i ∧ ∃ reason, e = .io id.text (.refused reason)
  spares : s.Spares id world

/-- A channel that was closed without being flushed: it is gone, its stream is closed for all
handles, and nothing else has changed. -/
structure Unflushed (s : Stage) (id : WriteFileId) (e : DriverError) (driver : Driver)
    (world : World) (channel : Channel WriteHandle) : Prop where
  found : s.driver.writeFiles.get? id = some channel
  answer : ∃ reason, (s.world.closeSink channel.pipe).1 = .error reason ∧
    e = .io (id.text ++ " (" ++ Text.quoted channel.path ++ ")") reason
  removed : driver = { s.driver with writeFiles := s.driver.writeFiles.remove id }
  left : ∀ key, driver.writeFiles.get? key =
    if key = id then none else s.driver.writeFiles.get? key
  shut : world.openSink? channel.pipe = none
  sinks : ∀ w, w ≠ channel.pipe → world.openSink? w = s.world.openSink? w
  sources : world.sources = s.world.sources
  others : ∀ key other, key ≠ id → s.driver.writeFiles.get? key = some other →
    other.pipe ≠ channel.pipe
  again : ∀ later, driver.closeWrite id later = (.error (.notFound id.text), driver, later)

end Stage

/-! ## Refusals one by one -/

/-- Noting a resource as it is. -/
theorem Table.set_of_get? {resource : Resource} {α : Type} {table : Table resource α}
    (apart : (table.entries.map Prod.fst).Nodup) {id : Id resource} {value : α}
    (found : table.get? id = some value) : table.set id value = table := by
  have same (entry : Nat × α) (mem : entry ∈ table.entries) :
      (entry.1, if entry.1 = id.raw then value else entry.2) = entry := by
    obtain ⟨raw, old⟩ := entry
    by_cases key : raw = id.raw
    · subst key
      have here := (Table.mem_entries_iff apart id old).1 mem
      rw [if_pos rfl, Option.some.inj (found.symm.trans here)]
    · exact congrArg (Prod.mk raw) (if_neg key)
  obtain ⟨next, entries⟩ := table
  exact congrArg (Table.mk next) ((List.map_congr_left same).trans (List.map_id _))

namespace Driver

variable {driver driver' : Driver} {world world' : World}

theorem Operation.refusal?_eq_some {α β : Type} {r : Except DriverError α} {rest rest' : β}
    {refusal : Refusal} (refused : (refusal? r, rest) = (some refusal, rest')) :
    ∃ e, refusal = .error e ∧ (r, rest) = (.error e, rest') := by
  cases r with
  | ok _ => cases refused
  | error e =>
    cases refused
    exact ⟨e, rfl, rfl⟩

theorem start_refused {name : String} {e : DriverError}
    (refused : driver.start name world = (.error e, driver', world')) :
    driver' = driver ∧ world' = world := by
  rcases driver.start_cases world name with ⟨_, failed⟩ | ⟨_, _, _, started⟩
  · rw [failed] at refused
    cases refused
    exact ⟨rfl, rfl⟩
  · rw [started] at refused
    cases refused

theorem openRead_refused {path : String} {e : DriverError}
    (refused : driver.openRead path world = (.error e, driver', world')) :
    driver' = driver ∧ world' = world := by
  rcases driver.openRead_cases world path with ⟨_, failed⟩ | ⟨_, _, _, _, _, _, opened⟩
  · rw [failed] at refused
    cases refused
    exact ⟨rfl, rfl⟩
  · rw [opened] at refused
    cases refused

theorem openWrite_refused {path : String} {e : DriverError}
    (refused : driver.openWrite path world = (.error e, driver', world')) :
    driver' = driver ∧ world' = world := by
  rcases driver.openWrite_cases world path with ⟨_, failed⟩ | ⟨_, _, _, _, _, _, opened⟩
  · rw [failed] at refused
    cases refused
    exact ⟨rfl, rfl⟩
  · rw [opened] at refused
    cases refused

theorem inputPipe_refused {id : AlgorithmId} (apart : (driver.algorithms.entries.map Prod.fst).Nodup)
    (refused : driver.inputPipe id world = (none, driver', world')) :
    driver' = driver ∧ world' = world := by
  cases found : driver.algorithms.get? id with
  | none =>
    rw [(lacksInstance found).inputPipe] at refused
    cases refused
    exact ⟨rfl, rfl⟩
  | some i =>
    rw [inputPipe_of_some found] at refused
    rw [Instance.inputPipe_of_none (congrArg Prod.fst refused)] at refused
    cases refused
    exact ⟨congrArg (fun algorithms => { driver with algorithms })
      (Table.set_of_get? apart found), rfl⟩

theorem outputPipe_refused {id : AlgorithmId}
    (refused : driver.outputPipe id world = (none, driver', world')) :
    driver' = driver ∧ world' = world := by
  cases found : driver.algorithms.get? id with
  | none =>
    rw [outputPipe_of_none found] at refused
    cases refused
    exact ⟨rfl, rfl⟩
  | some i =>
    rw [outputPipe_of_some found] at refused
    rcases i.outputPipe_cases world with ⟨_, _, answer⟩ | answer
    · rw [answer] at refused
      cases refused
    · rw [answer] at refused
      cases refused
      exact ⟨rfl, rfl⟩

/-- An instance that is known stays so while it is waited for. -/
theorem wait_go_known {id : AlgorithmId} (fuel : Nat) {i : Instance}
    (found : driver.algorithms.get? id = some i) (known : i.status ≠ .notFound) :
    (wait.go id fuel driver world).1 ≠ some .notFound := by
  induction fuel generalizing driver world i with
  | zero =>
    intro h
    cases h
  | succ fuel ih =>
    have still : (i.poll world).1.status ≠ .notFound := by
      cases i.poll_looked world with
      | same _ status _ => rwa [status]
      | exited _ _ _ noted =>
        rw [noted]
        intro h
        cases h
    have found' : (driver.note id (i.poll world).1).algorithms.get? id = some (i.poll world).1 := by
      show (driver.algorithms.set id _).get? id = _
      rw [Table.get?_set, if_pos rfl, found]
      rfl
    rw [wait.go, waitOnce_eq, status_of_some found]
    by_cases running : (i.poll world).1.status = .running
    · rw [if_pos running]
      dsimp only
      split
      · intro h
        cases h
      · exact ih found' still
    · rw [if_neg running]
      exact fun h => still (Option.some.inj h)

theorem wait_refused {id : AlgorithmId}
    (known : ∀ i, driver.algorithms.get? id = some i → i.status ≠ .notFound)
    (refused : driver.wait id world = (some .notFound, driver', world')) :
    driver' = driver ∧ world' = world := by
  cases found : driver.algorithms.get? id with
  | none =>
    have answer : driver.wait id world = (some .notFound, driver, world) := by
      unfold wait World.patience
      rw [wait.go, waitOnce_eq, (lacksInstance found).status]
      rfl
    rw [answer] at refused
    cases refused
    exact ⟨rfl, rfl⟩
  | some i =>
    exact absurd (congrArg Prod.fst refused) (wait_go_known World.patience found (known i found))

theorem status_refused {id : AlgorithmId}
    (known : ∀ i, driver.algorithms.get? id = some i → i.status ≠ .notFound)
    (refused : driver.status id world = (.notFound, driver', world')) :
    driver' = driver ∧ world' = world := by
  cases found : driver.algorithms.get? id with
  | none =>
    rw [(lacksInstance found).status] at refused
    cases refused
    exact ⟨rfl, rfl⟩
  | some i =>
    have answer := congrArg Prod.fst refused
    unfold status at answer
    simp only [found] at answer
    exfalso
    cases i.poll_looked world with
    | same _ status _ => exact known i found (status.symm.trans answer)
    | exited _ _ _ noted => cases noted.symm.trans answer

/-- The operations that only look something up change nothing when they do not find it. -/
theorem readPipe_refused {id : ReadFileId} {e : DriverError}
    (refused : driver.readPipe id world = (.error e, world')) : world' = world := by
  cases found : driver.readFiles.get? id with
  | none =>
    rw [(lacksRead found).pipe] at refused
    cases refused
    rfl
  | some channel =>
    rw [(reachesRead found).pipe] at refused
    cases refused

theorem closeRead_refused {id : ReadFileId} {e : DriverError}
    (refused : driver.closeRead id world = (.error e, driver', world')) :
    driver' = driver ∧ world' = world := by
  cases found : driver.readFiles.get? id with
  | none =>
    rw [(lacksRead found).close] at refused
    cases refused
    exact ⟨rfl, rfl⟩
  | some channel =>
    have closed := (closeRead_of_some found world).1
    rw [refused] at closed
    cases closed

theorem writePipe_refused {id : WriteFileId} {e : DriverError}
    (refused : driver.writePipe id world = (.error e, world')) : world' = world := by
  cases found : driver.writeFiles.get? id with
  | none =>
    rw [(lacksWrite found).pipe] at refused
    cases refused
    rfl
  | some channel =>
    rw [(reachesWrite found).pipe] at refused
    cases refused

end Driver

namespace Stage

variable {start s : Stage} {deeds : List Deed} {driver' : Driver} {world' : World} {e : DriverError}

theorem Sound.kill_refused (sound : s.Sound start.world deeds) {id : AlgorithmId}
    {meanwhile : Interlude} {unsent : Option Instance.Unsent}
    (refused : s.driver.kill id s.world meanwhile.pass unsent = (.error e, driver', world')) :
    (driver' = s.driver ∧ world' = s.world) ∨
      ∃ i i', s.Unstopped id e driver' world' i i' := by
  unfold Driver.kill at refused
  cases found : s.driver.algorithms.get? id with
  | none =>
    rw [found] at refused
    cases refused
    exact .inl ⟨rfl, rfl⟩
  | some i =>
    simp only [found] at refused
    rcases killed : i.kill id s.world meanwhile.pass unsent with ⟨answer, i', after⟩
    rw [killed] at refused
    cases answer with
    | ok _ => cases refused
    | error _ =>
      cases refused
      obtain ⟨settles, noticed, answer⟩ := Instance.kill_refused killed
      exact .inr ⟨i, i', found, rfl, noticed, answer, sound.spares found settles⟩

theorem Sound.closeWrite_refused (sound : s.Sound start.world deeds) {id : WriteFileId}
    (refused : s.driver.closeWrite id s.world = (.error e, driver', world')) :
    (driver' = s.driver ∧ world' = s.world) ∨
      ∃ channel, s.Unflushed id e driver' world' channel := by
  cases found : s.driver.writeFiles.get? id with
  | none =>
    rw [(Driver.lacksWrite found).close] at refused
    cases refused
    exact .inl ⟨rfl, rfl⟩
  | some channel =>
    right
    obtain ⟨follows, holdings⟩ := sound
    obtain ⟨rest, has, _, removed⟩ := Table.values_of_get? follows.writeFiles.apart found
    have mem : channel ∈ s.writes := List.mem_append_left _ (Table.mem_values found)
    obtain ⟨shared, held, _⟩ := holdings.sinks.exists_of_mem
      (List.mem_append_right _ (List.mem_append_left _ (List.mem_map_of_mem mem)))
    have sinks : ((s.world.closeSink channel.pipe).2.dropSink channel.pipe).sinks =
        s.world.sinks.set channel.pipe.number { stream := none, holders := shared.holders - 1 } :=
      World.releaseSink_sinks held
    have sources := (World.dropSink_sources (s.world.closeSink channel.pipe).2 channel.pipe).trans
      (World.closeSink_sources s.world channel.pipe)
    unfold Driver.closeWrite at refused
    simp only [found] at refused
    rcases closed : s.world.closeSink channel.pipe with ⟨answer, after⟩
    rw [closed] at refused sinks sources
    cases answer with
    | ok _ => cases refused
    | error reason =>
      cases refused
      refine ⟨channel, found, ⟨reason, by rw [closed], rfl⟩, rfl, Table.get?_remove _ id,
        World.openSink?_of_set_self held sinks, ?_, sources, ?_, fun later => ?_⟩
      · intro w apart
        exact World.openSink?_of_set held sinks fun same => absurd same apart
      · intro key other apart found' same
        have others : other ∈ rest := by
          refine removed.mem_iff.1 (@Table.mem_values _ _ _ key _ ?_)
          rw [Table.get?_remove, if_neg apart, found']
        have pipes : (s.writes.map fun channel => channel.pipe.number).Nodup :=
          (List.nodup_append.1 holdings.writeApart).1
        unfold writes at pipes
        rw [List.map_append] at pipes
        have own := (has.map fun channel => channel.pipe.number).nodup (List.nodup_append.1 pipes).1
        refine (List.nodup_cons.1 own).1 (List.mem_map.2 ⟨other, others, ?_⟩)
        rw [same]
      · exact (Driver.lacksWrite (by rw [Table.get?_remove, if_pos rfl])).close

/-! ## All refusals -/

/-- **A refused operation changes nothing.**  Whatever callers have done with a new driver, an
operation that is then refused leaves the driver with all its tables and counters, and the world
with all its streams, exactly as they were, with two exceptions:

* a refused kill may have noticed that this one instance has ended, and then dropped what only the
  instance held, or it could not stop the instance and leaves it as it was last observed;
* a channel that cannot be flushed when it is closed is removed all the same, and its stream is
  closed for all handles, so that closing it again finds nothing. -/
theorem Run.refused_changes_nothing (new : start.New) (run : Run start deeds s)
    {operation : Driver.Operation} {refusal : Driver.Refusal} {driver' : Driver} {world' : World}
    (refused : operation.perform s.driver s.world = (some refusal, driver', world')) :
    (driver' = s.driver ∧ world' = s.world) ∨
      (∃ id meanwhile unsent e i i', operation = .kill id meanwhile unsent ∧
        refusal = .error e ∧ s.Unstopped id e driver' world' i i') ∨
      ∃ id e channel, operation = .closeWrite id ∧ refusal = .error e ∧
        s.Unflushed id e driver' world' channel := by
  have sound := run.sound new
  have known (id : AlgorithmId) (i : Instance) (found : s.driver.algorithms.get? id = some i) :
      i.status ≠ .notFound :=
    ((run.accounted new).instances i (List.mem_append_left _ (Table.mem_values found))).known
  cases operation with
  | start name =>
    obtain ⟨e, rfl, failed⟩ := Driver.Operation.refusal?_eq_some refused
    exact .inl (Driver.start_refused failed)
  | status id =>
    left
    have rest : (s.driver.status id s.world).2 = (driver', world') := congrArg Prod.snd refused
    by_cases missing : (s.driver.status id s.world).1 = .notFound
    · exact Driver.status_refused (known id) (Prod.ext missing rest)
    · cases (if_neg missing).symm.trans (congrArg Prod.fst refused)
  | wait id =>
    left
    have rest : (s.driver.wait id s.world).2 = (driver', world') := congrArg Prod.snd refused
    by_cases missing : (s.driver.wait id s.world).1 = some .notFound
    · exact Driver.wait_refused (known id) (Prod.ext missing rest)
    · cases (if_neg missing).symm.trans (congrArg Prod.fst refused)
  | kill id meanwhile unsent =>
    obtain ⟨e, rfl, failed⟩ := Driver.Operation.refusal?_eq_some refused
    rcases sound.kill_refused failed with same | ⟨i, i', unstopped⟩
    · exact .inl same
    · exact .inr (.inl ⟨id, meanwhile, unsent, e, i, i', rfl, rfl, unstopped⟩)
  | inputPipe id =>
    left
    have rest : (s.driver.inputPipe id s.world).2 = (driver', world') := congrArg Prod.snd refused
    cases lent : (s.driver.inputPipe id s.world).1 with
    | none =>
      exact Driver.inputPipe_refused sound.follows.algorithms.apart (Prod.ext lent rest)
    | some pipe =>
      have answer := congrArg Prod.fst refused
      simp only [Driver.Operation.perform, lent] at answer
      cases answer
  | outputPipe id =>
    left
    have rest : (s.driver.outputPipe id s.world).2 = (driver', world') := congrArg Prod.snd refused
    cases lent : (s.driver.outputPipe id s.world).1 with
    | none => exact Driver.outputPipe_refused (Prod.ext lent rest)
    | some pipe =>
      have answer := congrArg Prod.fst refused
      simp only [Driver.Operation.perform, lent] at answer
      cases answer
  | openRead path =>
    obtain ⟨e, rfl, failed⟩ := Driver.Operation.refusal?_eq_some refused
    exact .inl (Driver.openRead_refused failed)
  | readPipe id =>
    obtain ⟨e, rfl, failed⟩ := Driver.Operation.refusal?_eq_some refused
    have answer : (s.driver.readPipe id s.world).1 = .error e := congrArg Prod.fst failed
    have rest : (s.driver.readPipe id s.world).2 = world' :=
      congrArg (fun outcome => outcome.2.2) failed
    have same : s.driver = driver' := congrArg (fun outcome => outcome.2.1) failed
    exact .inl ⟨same.symm, Driver.readPipe_refused (Prod.ext answer rest)⟩
  | closeRead id =>
    obtain ⟨e, rfl, failed⟩ := Driver.Operation.refusal?_eq_some refused
    exact .inl (Driver.closeRead_refused failed)
  | openWrite path =>
    obtain ⟨e, rfl, failed⟩ := Driver.Operation.refusal?_eq_some refused
    exact .inl (Driver.openWrite_refused failed)
  | writePipe id =>
    obtain ⟨e, rfl, failed⟩ := Driver.Operation.refusal?_eq_some refused
    have answer : (s.driver.writePipe id s.world).1 = .error e := congrArg Prod.fst failed
    have rest : (s.driver.writePipe id s.world).2 = world' :=
      congrArg (fun outcome => outcome.2.2) failed
    have same : s.driver = driver' := congrArg (fun outcome => outcome.2.1) failed
    exact .inl ⟨same.symm, Driver.writePipe_refused (Prod.ext answer rest)⟩
  | closeWrite id =>
    obtain ⟨e, rfl, failed⟩ := Driver.Operation.refusal?_eq_some refused
    rcases sound.closeWrite_refused failed with same | ⟨channel, unflushed⟩
    · exact .inl same
    · exact .inr (.inr ⟨id, e, channel, rfl, rfl, unflushed⟩)

/-- A new driver on a machine with a file that never has any space left. -/
def sampleFull : Stage where
  driver := { config := {} }
  world := { host := { files := ⟨[.directory 0 [("full", 1)], .device .full]⟩ } }

/-- The world after that file was opened for writing. -/
def sampleOpened : World :=
  { sampleFull.world with
    host := { sampleFull.world.host with descriptions := [{ object := .node 1 }] }
    sinks := [{ stream := some { description := 0, capacity := bufferSize } }] }

theorem sampleFull_acquireWrite :
    Driver.acquireWrite "/full" sampleFull.world = .ok ({ path := "/full", pipe := ⟨0⟩ }, sampleOpened)
    := by
  have names : Path.names "/full" = ["full"] := by decide +kernel
  have found : sampleFull.world.host.files.find 0 "/full" = .ok 1 :=
    FileTree.find_entry (by decide +kernel) (by decide) (by decide +kernel) names rfl (by decide)
      (by decide) (by decide +kernel) rfl nofun
  have opened : sampleFull.world.host.openWrite 0 "/full" .create =
      .ok (0, sampleOpened.host) := by
    unfold Host.openWrite
    rw [FileTree.locateForWriting_eq_ok.2 (FileTree.find_eq_ok.1 found)]
    rfl
  exact Driver.acquireWrite_eq_ok_iff.2 ⟨by decide +kernel, _, _, opened, rfl, rfl⟩

/-- Data that was written to the file cannot be flushed when its channel is closed.  The channel is
gone all the same, and the handle that the writer still has is of no use. -/
theorem Run.refused_changes_nothing_full : sampleFull.New ∧ ∃ s deeds refusal driver' world',
    Run sampleFull deeds s ∧ s.writers = [⟨0⟩] ∧
    (Driver.Operation.closeWrite ⟨1⟩).perform s.driver s.world = (some refusal, driver', world') ∧
    world'.openSink? ⟨0⟩ = none ∧
    (driver'.closeWrite ⟨1⟩ world').1 = .error (.notFound (Id.text (⟨1⟩ : WriteFileId))) := by
  have new : sampleFull.New := ⟨rfl, rfl, rfl, rfl, rfl, rfl, rfl, rfl, rfl, rfl, rfl⟩
  have opened := (@Run.nil sampleFull).snoc (.acquireWrite sampleFull_acquireWrite)
  have registered := opened.snoc (.registerWrite List.mem_cons_self)
  have lent := registered.snoc (@Step.lendWrite _ ⟨1⟩ _ rfl)
  have written := lent.snoc (@Step.write _ ⟨0⟩ [7] _ _ List.mem_cons_self rfl)
  refine ⟨new, _, _, _, _, _, written, rfl, rfl, ?_⟩
  rcases Run.refused_changes_nothing new written
      (show (Driver.Operation.closeWrite ⟨1⟩).perform _ _ = _ from rfl) with
    ⟨same, _⟩ | ⟨_, _, _, _, _, _, other, _⟩ | ⟨id, e, channel, found, _, unflushed⟩
  · cases congrArg (fun driver => driver.writeFiles.entries.length) same
  · cases other
  · cases found
    have pipe := unflushed.found
    cases pipe
    exact ⟨unflushed.shut, congrArg Prod.fst (unflushed.again _)⟩

end Stage

end AlgorithmDriver

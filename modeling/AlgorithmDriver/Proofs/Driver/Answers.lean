import AlgorithmDriver.Proofs.Driver.Registry

/-!
# What callers are told about ids

The answers of a driver after any run of accesses, told by the history of its tables alone.

* An operation with an id either acts on what is registered with it (`ReachesInstance`,
  `ReachesRead`, `ReachesWrite`) or finds nothing and leaves everything as it is (`LacksInstance`,
  `LacksRead`, `LacksWrite`).
* The ids of running instances are those at which a look, made at some moment while the table was
  locked, finds the instance running (`pollAll_running`).
* `Accesses.ids_follow_history` is the result: ids are issued in order and never again, operations
  reach exactly what is live, and exactly the live ids are listed, in ascending order.
-/

namespace AlgorithmDriver

open Table (Change)

/-! ## Answers to operations with an id -/

namespace Driver

/-- The operations with the id act on the instance. -/
structure ReachesInstance (driver : Driver) (world : World) (id : AlgorithmId) (i : Instance) :
    Prop where
  status : driver.status id world =
    ((i.poll world).1.status, driver.note id (i.poll world).1, (i.poll world).2)
  known : (driver.status id world).1 ≠ .notFound
  kill : ∀ meanwhile, (driver.kill id world meanwhile).1 = (i.kill id world meanwhile).1 ∧
    (driver.kill id world meanwhile).2.1 = driver.note id (i.kill id world meanwhile).2.1
  refused : ∀ meanwhile e, (driver.kill id world meanwhile).1 = .error e → e = .alreadyExited id
  inputPipe : driver.inputPipe id world =
    ((i.inputPipe world).1, driver.note id (i.inputPipe world).2.1, (i.inputPipe world).2.2)
  outputPipe : driver.outputPipe id world = ((i.outputPipe world).1, driver, (i.outputPipe world).2)

/-- The operations find no instance with the id. -/
structure LacksInstance (driver : Driver) (world : World) (id : AlgorithmId) : Prop where
  status : driver.status id world = (.notFound, driver, world)
  kill : ∀ meanwhile, driver.kill id world meanwhile = (.error (.notFound id.text), driver, world)
  inputPipe : driver.inputPipe id world = (none, driver, world)
  outputPipe : driver.outputPipe id world = (none, driver, world)

/-- The operations with the id act on the channel. -/
structure ReachesRead (driver : Driver) (world : World) (id : ReadFileId)
    (channel : Channel ReadHandle) : Prop where
  pipe : driver.readPipe id world = (.ok channel.pipe, world.holdSource channel.pipe)
  close : (driver.closeRead id world).1 = .ok () ∧
    (driver.closeRead id world).2.1 = { driver with readFiles := driver.readFiles.remove id }

/-- The operations find no channel to read from with the id. -/
structure LacksRead (driver : Driver) (world : World) (id : ReadFileId) : Prop where
  pipe : driver.readPipe id world = (.error (.notFound id.text), world)
  close : driver.closeRead id world = (.error (.notFound id.text), driver, world)

/-- The operations with the id act on the channel. -/
structure ReachesWrite (driver : Driver) (world : World) (id : WriteFileId)
    (channel : Channel WriteHandle) : Prop where
  pipe : driver.writePipe id world = (.ok channel.pipe, world.holdSink channel.pipe)
  close : (driver.closeWrite id world).1 = (world.closeSink channel.pipe).1.mapError
      (.io (id.text ++ " (" ++ Text.quoted channel.path ++ ")")) ∧
    (driver.closeWrite id world).2.1 = { driver with writeFiles := driver.writeFiles.remove id }

/-- The operations find no channel to write to with the id. -/
structure LacksWrite (driver : Driver) (world : World) (id : WriteFileId) : Prop where
  pipe : driver.writePipe id world = (.error (.notFound id.text), world)
  close : driver.closeWrite id world = (.error (.notFound id.text), driver, world)

variable {driver : Driver} {world : World}

theorem reachesInstance (sound : driver.Sound world) {id : AlgorithmId} {i : Instance}
    (found : driver.algorithms.get? id = some i) : driver.ReachesInstance world id i := by
  refine ⟨status_of_some found world, ?_, fun meanwhile => kill_of_some found world meanwhile, ?_,
    inputPipe_of_some found world, outputPipe_of_some found world⟩
  · rw [status_of_some found]
    exact ((i.poll_looked world).sound (sound.live id i found)).known
  · intro meanwhile e failed
    rw [(kill_of_some found world meanwhile).1] at failed
    have killed := i.kill_killed id world meanwhile
    rw [failed] at killed
    cases killed with
    | refused _ _ => rfl

theorem lacksInstance {id : AlgorithmId} (missing : driver.algorithms.get? id = none) :
    driver.LacksInstance world id where
  status := status_of_none missing world
  kill _ := kill_of_none missing
  inputPipe := inputPipe_of_none missing world
  outputPipe := outputPipe_of_none missing world

theorem reachesRead {id : ReadFileId} {channel : Channel ReadHandle}
    (found : driver.readFiles.get? id = some channel) : driver.ReachesRead world id channel where
  pipe := by
    unfold readPipe
    rw [found]
  close := closeRead_of_some found world

theorem lacksRead {id : ReadFileId} (missing : driver.readFiles.get? id = none) :
    driver.LacksRead world id where
  pipe := by
    unfold readPipe
    rw [missing]
  close := by
    unfold closeRead
    rw [missing]

theorem reachesWrite {id : WriteFileId} {channel : Channel WriteHandle}
    (found : driver.writeFiles.get? id = some channel) : driver.ReachesWrite world id channel where
  pipe := by
    unfold writePipe
    rw [found]
  close := closeWrite_of_some found world

theorem lacksWrite {id : WriteFileId} (missing : driver.writeFiles.get? id = none) :
    driver.LacksWrite world id where
  pipe := by
    unfold writePipe
    rw [missing]
  close := by
    unfold closeWrite
    rw [missing]

/-! ## Listing the running instances -/

theorem pollNext_go_running {meanwhile : World → World} (progress : World.Progress meanwhile)
    (entries : List (Nat × Instance)) (apart : (entries.map Prod.fst).Nodup)
    (running : List AlgorithmId) (world : World) :
    ∃ moment : Nat → World,
      (∀ raw, world.Later (moment raw) ∧ (moment raw).Later
        (Table.mapAccum.go (pollNext meanwhile) (running, world) entries).2.2) ∧
      (Table.mapAccum.go (pollNext meanwhile) (running, world) entries).2.1 = running ++
        (entries.filter fun (raw, i) => (i.poll (moment raw)).1.status = .running).map
          fun (raw, _) => ⟨raw⟩ := by
  induction entries generalizing running world with
  | nil => exact ⟨fun _ => world, fun _ => ⟨.refl world, .refl world⟩, (List.append_nil _).symm⟩
  | cons entry rest ih =>
    obtain ⟨raw, i⟩ := entry
    obtain ⟨fresh, apart⟩ := List.nodup_cons.1 apart
    have waited : world.Later (meanwhile world) := progress world
    have looked := Instance.poll_later i (meanwhile world)
    obtain ⟨moment, between, listed⟩ := ih apart
      (if (i.poll (meanwhile world)).1.status = .running then running ++ [⟨raw⟩] else running)
      (i.poll (meanwhile world)).2
    refine ⟨fun other => if other = raw then meanwhile world else moment other, ?_, ?_⟩
    · intro other
      dsimp only
      split
      · exact ⟨waited, looked.trans ((between raw).1.trans (between raw).2)⟩
      · exact ⟨waited.trans (looked.trans (between other).1), (between other).2⟩
    · have same : (rest.filter fun (other, i) =>
            (i.poll (if other = raw then meanwhile world else moment other)).1.status = .running) =
          rest.filter fun (other, i) => (i.poll (moment other)).1.status = .running := by
        refine List.filter_congr ?_
        rintro ⟨other, _⟩ mem
        have different : other ≠ raw := by
          rintro rfl
          exact fresh (List.mem_map.2 ⟨_, mem, rfl⟩)
        simp only [if_neg different]
      refine listed.trans ?_
      rw [List.filter_cons]
      by_cases still : (i.poll (meanwhile world)).1.status = .running
      · simp [still, same]
      · simp [still, same]

theorem status_eq_running_iff (id : AlgorithmId) (world : World) :
    (driver.status id world).1 = .running ↔
      ∃ i, driver.algorithms.get? id = some i ∧ (i.poll world).1.status = .running := by
  unfold status
  cases found : driver.algorithms.get? id with
  | none => simp
  | some i => simp

/-- Exactly those instances are listed as running that a look finds running, each at some moment
during the listing. -/
theorem pollAll_running {meanwhile : World → World} (progress : World.Progress meanwhile)
    (ascending : driver.algorithms.ids.Pairwise fun a b => a.raw < b.raw) (world : World) :
    ∃ moment : AlgorithmId → World,
      (∀ id, world.Later (moment id) ∧
        (moment id).Later (driver.openHandles world meanwhile).2.2) ∧
      (driver.openHandles world meanwhile).1.algorithms.Sublist driver.algorithms.ids ∧
      ∀ id, id ∈ (driver.openHandles world meanwhile).1.algorithms ↔
        (driver.status id (moment id)).1 = .running := by
  have apart : (driver.algorithms.entries.map Prod.fst).Nodup := by
    have increasing := List.pairwise_map.1 ascending
    exact List.pairwise_map.2 (increasing.imp Nat.ne_of_lt)
  obtain ⟨moment, between, listed⟩ :=
    pollNext_go_running progress driver.algorithms.entries apart [] world
  rw [List.nil_append] at listed
  have result : (driver.openHandles world meanwhile).1.algorithms = _ := listed
  refine ⟨fun id => moment id.raw, fun id => between id.raw, ?_, fun id => ?_⟩
  · rw [result]
    exact List.filter_sublist.map _
  · rw [result, List.mem_map, status_eq_running_iff]
    constructor
    · rintro ⟨⟨raw, i⟩, mem, rfl⟩
      obtain ⟨entry, running⟩ := List.mem_filter.1 mem
      exact ⟨i, (Table.mem_entries_iff apart ⟨raw⟩ i).1 entry, of_decide_eq_true running⟩
    · rintro ⟨i, found, running⟩
      have entry := (Table.mem_entries_iff apart id i).2 found
      exact ⟨(id.raw, i), List.mem_filter.2 ⟨entry, decide_eq_true running⟩, rfl⟩

end Driver

/-! ## Answers after a run -/

namespace Table

variable {resource : Resource} {α : Type}

/-- The ids of a table are told by its past: the k-th id that was issued is `k`, and an operation
with an id reaches what became of the resource that it was issued with, or finds nothing if it was
not issued, or closed or drained since. -/
structure Change.Tells (past : List (Change resource α)) (since : α → α → Prop)
    (reaches : Id resource → α → Prop) (lacks : Id resource → Prop) : Prop where
  numbered : ∀ k id, (issuedIds past)[k]? = some id → id.raw = k + 1
  reached : ∀ id first, Live past id first → ∃ now, since first now ∧ reaches id now
  lacked : ∀ id, (∀ first, ¬ Live past id first) → lacks id

/-- The list is that of the live ids with the given property, in ascending order. -/
structure Change.Lists (past : List (Change resource α)) (holds : Id resource → Prop)
    (ids : List (Id resource)) : Prop where
  ascending : ids.Pairwise fun a b => a.raw < b.raw
  mem_iff : ∀ id, id ∈ ids ↔ (∃ first, Live past id first) ∧ holds id

namespace Follows

variable {since : α → α → Prop} {t : Table resource α} {past : List (Change resource α)}

theorem tells (follows : t.Follows since past) {reaches : Id resource → α → Prop}
    {lacks : Id resource → Prop}
    (found : ∀ id value, t.get? id = some value → reaches id value)
    (missing : ∀ id, t.get? id = none → lacks id) :
    Change.Tells past since reaches lacks where
  numbered := follows.numbered
  reached id first live := by
    obtain ⟨now, present, changed⟩ := follows.live id first live
    exact ⟨now, changed, found id now present⟩
  lacked id gone := missing id (follows.get?_eq_none gone)

theorem lists (follows : t.Follows since past) : Change.Lists past (fun _ => True) t.ids where
  ascending := follows.ascending
  mem_iff id := by
    rw [follows.mem_ids_iff, and_true]

/-- What was issued and is gone is never found again. -/
theorem lacked_later {t' : Table resource α} {future : List (Change resource α)}
    (follows : t'.Follows since (past ++ future)) {id : Id resource}
    (issued : id ∈ Change.issuedIds past) (gone : ∀ first, ¬ Change.Live past id first) :
    t'.get? id = none :=
  follows.get?_eq_none (follows.numbered.not_live_append issued gone)

end Follows

end Table

/-- An operation that opens something answers with the next id, and registers with that id what it
`Opened`, which is all that becomes of the tables; or it fails and changes nothing. -/
def Driver.OpensNext {resource : Resource} {α : Type} (driver : Driver) (world : World)
    (past : List (Change resource α)) (notice : Change resource α → Notice)
    (Opened : α → World → Prop) (outcome : Except DriverError (Id resource) × Driver × World) : Prop :=
  (∃ id first, id.raw = (Change.issuedIds past).length + 1 ∧ outcome.1 = .ok id ∧
    driver.Serves world [.nothing, notice (.issued id first)] outcome.2.1 outcome.2.2 ∧
    Opened first outcome.2.2) ∨
  ∃ e, outcome = (.error e, driver, world)

/-- What callers of a driver are told, according to the history of its tables.  Each list of open
handles is that of the moment at which its table is locked; an instance is looked at in the world
`moment`, while its table is. -/
structure Scene.Answers (s : Scene) (history : List Notice) : Prop where
  algorithms : Change.Tells (Notice.algorithms history) Instance.Since
    (s.driver.ReachesInstance s.world) (s.driver.LacksInstance s.world)
  readFiles : Change.Tells (Notice.readFiles history) Eq
    (s.driver.ReachesRead s.world) (s.driver.LacksRead s.world)
  writeFiles : Change.Tells (Notice.writeFiles history) Eq
    (s.driver.ReachesWrite s.world) (s.driver.LacksWrite s.world)
  start : ∀ name, s.driver.OpensNext s.world (Notice.algorithms history) .algorithm
    (fun i _ => i.name = name ∧ i.status = .running) (s.driver.start name s.world)
  openRead : ∀ path, s.driver.OpensNext s.world (Notice.readFiles history) .readFile
    (fun channel world => channel.path = path ∧ world.isReadable channel.pipe = true)
    (s.driver.openRead path s.world)
  openWrite : ∀ path, s.driver.OpensNext s.world (Notice.writeFiles history) .writeFile
    (fun channel world => channel.path = path ∧ world.isWritable channel.pipe = true)
    (s.driver.openWrite path s.world)
  listed : ∀ {meanwhile : World → World}, World.Progress meanwhile →
    (∃ moment : AlgorithmId → World,
      (∀ id, s.world.Later (moment id) ∧
        (moment id).Later (s.driver.openHandles s.world meanwhile).2.2) ∧
      Change.Lists (Notice.algorithms history)
        (fun id => (s.driver.status id (moment id)).1 = .running)
        (s.driver.openHandles s.world meanwhile).1.algorithms) ∧
    Change.Lists (Notice.readFiles history) (fun _ => True)
      (s.driver.openHandles s.world meanwhile).1.readFiles ∧
    Change.Lists (Notice.writeFiles history) (fun _ => True)
      (s.driver.openHandles s.world meanwhile).1.writeFiles

theorem Driver.Follows.answers {s : Scene} {history : List Notice}
    (follows : s.driver.Follows history) (sound : s.driver.Sound s.world) : s.Answers history where
  algorithms := follows.algorithms.tells (fun _ _ found => Driver.reachesInstance sound found)
    fun _ missing => Driver.lacksInstance missing
  readFiles := follows.readFiles.tells (fun _ _ found => Driver.reachesRead found)
    fun _ missing => Driver.lacksRead missing
  writeFiles := follows.writeFiles.tells (fun _ _ found => Driver.reachesWrite found)
    fun _ missing => Driver.lacksWrite missing
  start name := by
    rcases s.driver.start_cases s.world name with ⟨e, failed⟩ | ⟨i, after, _, started⟩
    · exact .inr ⟨e, failed⟩
    · left
      have answer : (s.driver.start name s.world).1 = .ok (s.driver.register i after).1 := by
        rw [started]
      obtain ⟨first, serves, opened⟩ := s.driver.start_accesses s.world name answer
      exact ⟨_, first, follows.algorithms.next, answer, serves, opened⟩
  openRead path := by
    rcases s.driver.openRead_cases s.world path with
      ⟨e, failed⟩ | ⟨_, _, pipe, after, _, _, opened⟩
    · exact .inr ⟨e, failed⟩
    · left
      have answer := congrArg Prod.fst opened
      obtain ⟨first, serves, opened⟩ := s.driver.openRead_accesses s.world path answer
      exact ⟨_, first, follows.readFiles.next, answer, serves, opened⟩
  openWrite path := by
    rcases s.driver.openWrite_cases s.world path with
      ⟨e, failed⟩ | ⟨_, _, pipe, after, _, _, opened⟩
    · exact .inr ⟨e, failed⟩
    · left
      have answer := congrArg Prod.fst opened
      obtain ⟨first, serves, opened⟩ := s.driver.openWrite_accesses s.world path answer
      exact ⟨_, first, follows.writeFiles.next, answer, serves, opened⟩
  listed := by
    intro meanwhile progress
    obtain ⟨moment, between, part, running⟩ :=
      Driver.pollAll_running progress follows.algorithms.ascending s.world
    refine ⟨⟨moment, between, follows.algorithms.ascending.sublist part, fun id => ?_⟩,
      follows.readFiles.lists, follows.writeFiles.lists⟩
    rw [running]
    constructor
    · intro still
      refine ⟨?_, still⟩
      obtain ⟨i, found, _⟩ := (Driver.status_eq_running_iff id _).1 still
      obtain ⟨first, live, _⟩ := follows.algorithms.found id i found
      exact ⟨first, live⟩
    · exact fun h => h.2

/-- **Ids follow the history.**  Whatever several callers do at once with a new driver:

* in each table the k-th id that is issued is `k`; the next success gets the next number, with which
  it registers what it opened, and a failure changes nothing;
* an operation with an id that was issued, and not closed or drained since, acts on the resource
  that was registered with it, and any other finds nothing;
* exactly the live ids are listed, in ascending order: those of channels, and those of instances
  that a look finds running;
* what was closed or drained is not found again, however the run goes on. -/
theorem Accesses.ids_follow_history {start finish : Scene} {history : List Notice} (new : start.New)
    (run : Accesses start history finish) :
    finish.Answers history ∧
    ∀ future last, Accesses finish future last →
      (∀ id ∈ Change.issuedIds (Notice.algorithms history),
        (∀ first, ¬ Change.Live (Notice.algorithms history) id first) →
          last.driver.LacksInstance last.world id) ∧
      (∀ id ∈ Change.issuedIds (Notice.readFiles history),
        (∀ first, ¬ Change.Live (Notice.readFiles history) id first) →
          last.driver.LacksRead last.world id) ∧
      (∀ id ∈ Change.issuedIds (Notice.writeFiles history),
        (∀ first, ¬ Change.Live (Notice.writeFiles history) id first) →
          last.driver.LacksWrite last.world id) := by
  refine ⟨(run.follows new).answers (run.sound new.fresh.sound).driver, ?_⟩
  intro future last rest
  obtain ⟨algorithms, readFiles, writeFiles⟩ := (run.append rest).follows new
  rw [Notice.algorithms, List.filterMap_append] at algorithms
  rw [Notice.readFiles, List.filterMap_append] at readFiles
  rw [Notice.writeFiles, List.filterMap_append] at writeFiles
  refine ⟨fun id issued gone => ?_, fun id issued gone => ?_, fun id issued gone => ?_⟩
  · exact Driver.lacksInstance (algorithms.lacked_later issued gone)
  · exact Driver.lacksRead (readFiles.lacked_later issued gone)
  · exact Driver.lacksWrite (writeFiles.lacked_later issued gone)

/-- An instance and a channel are opened under the first ids of their tables; the channel is closed,
and another one opened. -/
theorem Accesses.ids_follow_history_sample : Scene.sample.New ∧ ∃ finish,
    Accesses Scene.sample
      [.nothing, .algorithm (.issued ⟨1⟩ .sample),
        .readFile (.issued ⟨1⟩ { path := "/three", pipe := ⟨1⟩ }), .readFile (.closed ⟨1⟩),
        .readFile (.issued ⟨2⟩ { path := "/three", pipe := ⟨2⟩ })] finish ∧
    (∃ now, Instance.sample.Since now ∧ finish.driver.ReachesInstance finish.world ⟨1⟩ now) ∧
    finish.driver.LacksRead finish.world ⟨1⟩ ∧
    ∀ id, id ∈ (finish.driver.openHandles finish.world).1.readFiles ↔ id = ⟨2⟩ := by
  have new : Scene.sample.New := ⟨⟨rfl, rfl, rfl⟩, rfl, rfl⟩
  refine ⟨new, ?_⟩
  have spawned : Access Scene.sample .nothing Scene.sampleStarted :=
    .other Scene.sample_spawn trivial rfl rfl
  have run := (Accesses.single spawned).snoc (.register (i := .sample) List.mem_cons_self)
    |>.snoc (.readFiles (.insert { path := "/three", pipe := ⟨1⟩ }))
    |>.snoc (.readFiles (@Table.Changes.remove _ _ _ ⟨1⟩ _ rfl))
    |>.snoc (.readFiles (.insert { path := "/three", pipe := ⟨2⟩ }))
  obtain ⟨⟨algorithms, readFiles, _, _, _, _, listed⟩, _⟩ :=
    Accesses.ids_follow_history new run
  have live (id : ReadFileId) (first : Channel ReadHandle) :
      Change.Live ([] ++ [.issued ⟨1⟩ { path := "/three", pipe := ⟨1⟩ }] ++ [.closed ⟨1⟩] ++
        [.issued ⟨2⟩ { path := "/three", pipe := ⟨2⟩ }]) id first ↔
      id = ⟨2⟩ ∧ first = { path := "/three", pipe := ⟨2⟩ } := by
    simp only [Change.live_append_iff, Change.not_live_nil, Change.issued.injEq,
      Change.closed.injEq, reduceCtorEq, ne_eq, not_false_eq_true, and_true, or_false, false_or]
    constructor
    · rintro (⟨rfl, rfl⟩ | ⟨⟨rfl, rfl⟩, open'⟩)
      · exact ⟨rfl, rfl⟩
      · exact absurd rfl open'
    · rintro ⟨rfl, rfl⟩
      exact .inl ⟨rfl, rfl⟩
  refine ⟨_, run, ?_, ?_, ?_⟩
  · exact algorithms.reached ⟨1⟩ .sample ⟨[], [], rfl, List.not_mem_nil, List.not_mem_nil⟩
  · refine readFiles.lacked ⟨1⟩ fun first h => ?_
    have second := ((live ⟨1⟩ first).1 h).1
    cases second
  · intro id
    refine ((listed World.progress_nothing).2.1.mem_iff id).trans ⟨?_, ?_⟩
    · rintro ⟨⟨first, h⟩, _⟩
      exact ((live id first).1 h).1
    · rintro rfl
      exact ⟨⟨_, (live ⟨2⟩ _).2 ⟨rfl, rfl⟩⟩, trivial⟩

end AlgorithmDriver

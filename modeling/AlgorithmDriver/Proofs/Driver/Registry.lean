import AlgorithmDriver.Proofs.Driver.Changes
import AlgorithmDriver.Proofs.Driver.Operations

/-!
# Ids and what they stand for

A driver has three tables, and several callers work on them at once.  Whatever they do, each table
holds what its history says.

* `Access` is one step of such a run with the change that it makes to a table, if any.  It is a step
  as for the algorithms alone (`Access.exists_step`), with the tables of channels told apart.
* Every operation, carried out by itself, is a run of accesses (`start_accesses`,
  `openRead_accesses`, `closeRead_accesses`, `closeAll_accesses` and the like).
* The tables are as the history tells, and every access keeps this (`Access.follows`).
-/

namespace AlgorithmDriver

open Table (Change)

/-! ## What becomes of an instance -/

/-- The handle of an input that the driver has lent or still owns. -/
def Input.pipe? : Input → Option WriteHandle
  | owned pipe => some pipe
  | lent pipe => some pipe
  | released => none

namespace Instance

/-- `now` is what became of the instance `first`: the same process, with the same pipes as long as
it has any. -/
structure Since (first now : Instance) : Prop where
  name : now.name = first.name
  process : now.process = first.process
  input : now.input.pipe? = none ∨ now.input.pipe? = first.input.pipe?
  output : now.output = none ∨ now.output = first.output

theorem Since.refl (i : Instance) : i.Since i := ⟨rfl, rfl, .inr rfl, .inr rfl⟩

theorem Since.trans {a b c : Instance} (hab : a.Since b) (hbc : b.Since c) : a.Since c where
  name := hbc.name.trans hab.name
  process := hbc.process.trans hab.process
  input := by
    rcases hbc.input with none | same
    · exact .inl none
    · rw [same]
      exact hab.input
  output := by
    rcases hbc.output with none | same
    · exact .inl none
    · rw [same]
      exact hab.output

theorem terminate_since (i : Instance) (status : Status) (world : World) :
    i.Since (i.terminate status world).1 := ⟨rfl, rfl, .inl rfl, .inl rfl⟩

theorem poll_since (i : Instance) (world : World) : i.Since (i.poll world).1 := by
  rcases i.poll_spec world with same | ⟨_, _, _, ⟨_, looked⟩ | ⟨_, looked⟩⟩
  · rw [same]
    exact .refl i
  · rw [looked]
    exact ⟨rfl, rfl, .inr rfl, .inr rfl⟩
  · rw [looked]
    exact ⟨rfl, rfl, .inl rfl, .inl rfl⟩

theorem kill_since (i : Instance) (id : AlgorithmId) (world : World)
    (meanwhile : World → World) : i.Since (i.kill id world meanwhile).2.1 := by
  have looked := poll_since i world
  unfold kill
  dsimp only
  split
  · refine looked.trans (Since.trans ?_ (poll_since _ _))
    exact terminate_since (i.poll world).1 .killed _
  · exact looked

theorem inputPipe_since (i : Instance) (world : World) : i.Since (i.inputPipe world).2.1 := by
  rcases i.inputPipe_cases world with ⟨w, owned, answer⟩ | ⟨_, _, _, answer⟩ | answer
  · rw [answer]
    refine ⟨rfl, rfl, .inr ?_, .inr rfl⟩
    rw [owned]
    rfl
  · rw [answer]
    exact .refl i
  · rw [answer]
    exact .refl i

end Instance

namespace Driver

variable (driver : Driver) (world : World)

theorem note_evolves {driver : Driver} {id : AlgorithmId} {i i' : Instance}
    (found : driver.algorithms.get? id = some i) (since : i.Since i') :
    driver.algorithms.Evolves Instance.Since (driver.note id i').algorithms :=
  .set Instance.Since.refl driver.algorithms found since

theorem status_evolves (id : AlgorithmId) :
    driver.algorithms.Evolves Instance.Since (driver.status id world).2.1.algorithms := by
  unfold status
  split
  · exact .refl Instance.Since.refl _
  · rename_i i found
    exact note_evolves found (i.poll_since world)

theorem kill_evolves (id : AlgorithmId) (meanwhile : World → World) :
    driver.algorithms.Evolves Instance.Since (driver.kill id world meanwhile).2.1.algorithms := by
  cases found : driver.algorithms.get? id with
  | none =>
    rw [kill_of_none found]
    exact .refl Instance.Since.refl _
  | some i =>
    rw [(kill_of_some found world meanwhile).2]
    exact note_evolves found (i.kill_since id world meanwhile)

theorem inputPipe_evolves (id : AlgorithmId) :
    driver.algorithms.Evolves Instance.Since (driver.inputPipe id world).2.1.algorithms := by
  unfold inputPipe
  split
  · exact .refl Instance.Since.refl _
  · rename_i i found
    exact note_evolves found (i.inputPipe_since world)

theorem outputPipe_evolves (id : AlgorithmId) :
    driver.algorithms.Evolves Instance.Since (driver.outputPipe id world).2.1.algorithms := by
  rw [outputPipe_driver]
  exact .refl Instance.Since.refl _

theorem pollAll_evolves (algorithms : Table .algorithm Instance) {meanwhile : World → World}
    (progress : World.Progress meanwhile) :
    algorithms.Evolves Instance.Since (pollAll algorithms world meanwhile).2.1 where
  next := rfl
  ids := Table.ids_mapAccum _ _ algorithms
  each id i found := by
    obtain ⟨between, _, result, _⟩ := pollAll_get? algorithms world progress found
    exact ⟨_, result, i.poll_since between⟩

end Driver

/-! ## Accesses -/

/-- What an access to the tables of a driver changes in them. -/
inductive Notice where
  | algorithm (change : Change .algorithm Instance)
  | readFile (change : Change .readFile (Channel ReadHandle))
  | writeFile (change : Change .writeFile (Channel WriteHandle))
  | nothing

namespace Notice

@[simp] def algorithm? : Notice → Option (Change .algorithm Instance)
  | algorithm change => some change
  | _ => none

@[simp] def readFile? : Notice → Option (Change .readFile (Channel ReadHandle))
  | readFile change => some change
  | _ => none

@[simp] def writeFile? : Notice → Option (Change .writeFile (Channel WriteHandle))
  | writeFile change => some change
  | _ => none

/-- What happened to the table of algorithms. -/
def algorithms (history : List Notice) : List (Change .algorithm Instance) :=
  history.filterMap algorithm?

/-- What happened to the table of files to read from. -/
def readFiles (history : List Notice) : List (Change .readFile (Channel ReadHandle)) :=
  history.filterMap readFile?

/-- What happened to the table of files to write to. -/
def writeFiles (history : List Notice) : List (Change .writeFile (Channel WriteHandle)) :=
  history.filterMap writeFile?

@[simp] theorem algorithms_snoc (history : List Notice) (notice : Notice) :
    algorithms (history ++ [notice]) = algorithms history ++ notice.algorithm?.toList := by
  cases notice <;> simp [algorithms, algorithm?]

@[simp] theorem readFiles_snoc (history : List Notice) (notice : Notice) :
    readFiles (history ++ [notice]) = readFiles history ++ notice.readFile?.toList := by
  cases notice <;> simp [readFiles, readFile?]

@[simp] theorem writeFiles_snoc (history : List Notice) (notice : Notice) :
    writeFiles (history ++ [notice]) = writeFiles history ++ notice.writeFile?.toList := by
  cases notice <;> simp [writeFiles, writeFile?]

end Notice

/-- At such an event no instance is added to the table or taken out of it. -/
def Event.Keeps : Event → Prop
  | started _ _ => False
  | drained => False
  | _ => True

/-- One access to a table, or anything else that happens in between.  A channel is opened before it
is registered, and its stream is closed after it was taken out of its table. -/
inductive Access (s : Scene) : Notice → Scene → Prop
  | register {i : Instance} (arrived : i ∈ s.arriving) :
      Access s (.algorithm (.issued (s.driver.register i s.world).1 i))
        { s.after (s.driver.register i s.world) with arriving := s.arriving.erase i }
  | drain :
      Access s (.algorithm .drained)
        { s with
          driver := { s.driver with algorithms := s.driver.algorithms.drain.2 }
          leaving := s.leaving ++ s.driver.algorithms.drain.1 }
  | readFiles {change : Change .readFile (Channel ReadHandle)}
      {table : Table .readFile (Channel ReadHandle)}
      (changes : s.driver.readFiles.Changes change table) :
      Access s (.readFile change) { s with driver := { s.driver with readFiles := table } }
  | writeFiles {change : Change .writeFile (Channel WriteHandle)}
      {table : Table .writeFile (Channel WriteHandle)}
      (changes : s.driver.writeFiles.Changes change table) :
      Access s (.writeFile change) { s with driver := { s.driver with writeFiles := table } }
  /-- Everything that neither adds an entry to a table nor takes one out. -/
  | other {event : Event} {t : Scene} (step : Step s event t) (keeps : event.Keeps)
      (readFiles : t.driver.readFiles = s.driver.readFiles)
      (writeFiles : t.driver.writeFiles = s.driver.writeFiles) : Access s .nothing t

/-- A run of accesses, and what it changed. -/
inductive Accesses (start : Scene) : List Notice → Scene → Prop
  | nil : Accesses start [] start
  | snoc {history : List Notice} {s t : Scene} {notice : Notice} (run : Accesses start history s)
      (access : Access s notice t) : Accesses start (history ++ [notice]) t

namespace Accesses

theorem single {s t : Scene} {notice : Notice} (access : Access s notice t) :
    Accesses s [notice] t := .snoc .nil access

theorem append {s t u : Scene} {history future : List Notice} (first : Accesses s history t)
    (second : Accesses t future u) : Accesses s (history ++ future) u := by
  induction second with
  | nil =>
    rw [List.append_nil]
    exact first
  | snoc _ access ih =>
    rw [← List.append_assoc]
    exact .snoc ih access

end Accesses

/-- An access is a step of a run. -/
theorem Access.exists_step {s t : Scene} {notice : Notice} (access : Access s notice t) :
    ∃ event, Step s event t := by
  cases access with
  | register arrived => exact ⟨_, .register arrived⟩
  | drain => exact ⟨_, .drain⟩
  | readFiles _ => exact ⟨_, .elsewhere rfl rfl (.refl s.world)⟩
  | writeFiles _ => exact ⟨_, .elsewhere rfl rfl (.refl s.world)⟩
  | other step _ _ _ => exact ⟨_, step⟩

theorem Accesses.sound {s t : Scene} {history : List Notice} (run : Accesses s history t)
    (sound : s.Sound) : t.Sound := by
  induction run with
  | nil => exact sound
  | snoc _ access ih =>
    obtain ⟨event, step⟩ := access.exists_step
    exact step.sound ih

/-! ## Tables that are as the history tells -/

/-- At such a step the instances only become what they become by themselves. -/
theorem Step.evolves {s t : Scene} {event : Event} (step : Step s event t) (keeps : event.Keeps) :
    s.driver.algorithms.Evolves Instance.Since t.driver.algorithms := by
  cases step with
  | spawn _ => exact .refl Instance.Since.refl _
  | refuse _ => exact .refl Instance.Since.refl _
  | register _ => exact keeps.elim
  | status id => exact Driver.status_evolves _ _ id
  | wait id =>
    show s.driver.algorithms.Evolves _ (s.driver.waitOnce id s.world).2.1.algorithms
    rw [Driver.waitOnce_eq]
    exact Driver.status_evolves _ _ id
  | kill id _ => exact Driver.kill_evolves _ _ id _
  | inputPipe id => exact Driver.inputPipe_evolves _ _ id
  | outputPipe id => exact Driver.outputPipe_evolves _ _ id
  | list progress => exact Driver.pollAll_evolves _ _ progress
  | drain => exact keeps.elim
  | tearDown _ _ => exact .refl Instance.Since.refl _
  | elsewhere _ algorithms _ =>
    rw [algorithms]
    exact .refl Instance.Since.refl _

/-- Every table is as the history tells. -/
structure Driver.Follows (driver : Driver) (history : List Notice) : Prop where
  algorithms : driver.algorithms.Follows Instance.Since (Notice.algorithms history)
  readFiles : driver.readFiles.Follows Eq (Notice.readFiles history)
  writeFiles : driver.writeFiles.Follows Eq (Notice.writeFiles history)

theorem Access.follows {s t : Scene} {notice : Notice} {history : List Notice}
    (access : Access s notice t) (follows : s.driver.Follows history) :
    t.driver.Follows (history ++ [notice]) := by
  obtain ⟨algorithms, reads, writes⟩ := follows
  cases access with
  | @register i _ =>
    have issued := algorithms.insert Instance.Since.refl i
    have registered : { s.driver with algorithms := (s.driver.algorithms.insert i).2 }.Follows
        (history ++ [Notice.algorithm (.issued (s.driver.algorithms.insert i).1 i)]) :=
      ⟨by simpa using issued, by simpa using reads, by simpa using writes⟩
    exact registered
  | drain =>
    have drained := algorithms.drain
    exact ⟨by simpa using drained, by simpa using reads, by simpa using writes⟩
  | readFiles changes =>
    have changed := reads.change (fun _ => rfl) changes
    exact ⟨by simpa using algorithms, by simpa using changed, by simpa using writes⟩
  | writeFiles changes =>
    have changed := writes.change (fun _ => rfl) changes
    exact ⟨by simpa using algorithms, by simpa using reads, by simpa using changed⟩
  | other step keeps sameReads sameWrites =>
    have evolved := algorithms.evolve Instance.Since.trans (step.evolves keeps)
    refine ⟨by simpa using evolved, ?_, ?_⟩
    · rw [sameReads]
      simpa using reads
    · rw [sameWrites]
      simpa using writes

/-- Nobody used the driver yet. -/
structure Scene.New (s : Scene) : Prop where
  fresh : s.Fresh
  readFiles : s.driver.readFiles = .empty
  writeFiles : s.driver.writeFiles = .empty

theorem Accesses.follows {start finish : Scene} {history : List Notice} (new : start.New)
    (run : Accesses start history finish) : finish.driver.Follows history := by
  induction run with
  | nil =>
    refine ⟨?_, ?_, ?_⟩
    · rw [new.fresh.algorithms]
      exact .empty _
    · rw [new.readFiles]
      exact .empty _
    · rw [new.writeFiles]
      exact .empty _
  | snoc _ access ih => exact access.follows ih

/-! ## Operations -/

namespace Driver

variable (driver : Driver) (world : World)

/-- A driver that nobody else uses goes through accesses. -/
def Serves (driver : Driver) (world : World) (history : List Notice) (driver' : Driver)
    (world' : World) : Prop :=
  Accesses { driver, world } history { driver := driver', world := world' }

variable {driver world} in
theorem Serves.append {driver' driver'' : Driver} {world' world'' : World}
    {history future : List Notice} (first : driver.Serves world history driver' world')
    (second : driver'.Serves world' future driver'' world'') :
    driver.Serves world (history ++ future) driver'' world'' :=
  Accesses.append first second

variable {world} in
/-- The rest of the machine goes on. -/
theorem Serves.elapse {after : World} (later : world.Later after) :
    driver.Serves world [.nothing] driver after :=
  .single (.other (.elsewhere rfl rfl later) trivial rfl rfl)

theorem status_accesses (id : AlgorithmId) :
    driver.Serves world [.nothing] (driver.status id world).2.1 (driver.status id world).2.2 := by
  have same : (driver.status id world).2.1.readFiles = driver.readFiles ∧
      (driver.status id world).2.1.writeFiles = driver.writeFiles := by
    unfold status
    split <;> exact ⟨rfl, rfl⟩
  exact .single (.other (.status id) trivial same.1 same.2)

theorem kill_accesses (id : AlgorithmId) :
    driver.Serves world [.nothing] (driver.kill id world).2.1 (driver.kill id world).2.2 := by
  have same : (driver.kill id world).2.1.readFiles = driver.readFiles ∧
      (driver.kill id world).2.1.writeFiles = driver.writeFiles := by
    cases found : driver.algorithms.get? id with
    | none =>
      rw [kill_of_none found]
      exact ⟨rfl, rfl⟩
    | some i =>
      rw [(kill_of_some found world _).2]
      exact ⟨rfl, rfl⟩
  exact .single (.other (.kill id World.progress_nothing) trivial same.1 same.2)

theorem inputPipe_accesses (id : AlgorithmId) :
    driver.Serves world [.nothing] (driver.inputPipe id world).2.1
      (driver.inputPipe id world).2.2 := by
  have same : (driver.inputPipe id world).2.1.readFiles = driver.readFiles ∧
      (driver.inputPipe id world).2.1.writeFiles = driver.writeFiles := by
    unfold inputPipe
    split <;> exact ⟨rfl, rfl⟩
  exact .single (.other (.inputPipe id) trivial same.1 same.2)

theorem outputPipe_accesses (id : AlgorithmId) :
    driver.Serves world [.nothing] (driver.outputPipe id world).2.1
      (driver.outputPipe id world).2.2 := by
  have same := driver.outputPipe_driver id world
  exact .single (.other (.outputPipe id) trivial (congrArg readFiles same) (congrArg writeFiles same))

theorem openHandles_accesses :
    driver.Serves world [.nothing] (driver.openHandles world).2.1 (driver.openHandles world).2.2 :=
  .single (.other (.list World.progress_nothing) trivial rfl rfl)

/-! ### Opening -/

/-- Starting registers an instance, or changes nothing. -/
theorem start_cases (name : String) :
    (∃ e, driver.start name world = (.error e, driver, world)) ∨
      ∃ i after, driver.spawn name world = .ok (i, after) ∧
        driver.start name world =
          (.ok (driver.register i after).1, (driver.register i after).2) := by
  unfold start
  cases spawned : driver.spawn name world with
  | error e => exact .inl ⟨e, rfl⟩
  | ok outcome => exact .inr ⟨outcome.1, outcome.2, rfl, rfl⟩

/-- Opening a file to read from registers a channel of it, or changes nothing. -/
theorem openRead_cases (path : String) :
    (∃ e, driver.openRead path world = (.error e, driver, world)) ∨
      ∃ description host pipe after,
        world.host.openRead world.host.directory path = .ok (description, host) ∧
        after.source? pipe = some { stream := some { description, capacity := bufferSize } } ∧
        driver.openRead path world =
          (.ok (driver.readFiles.insert { path, pipe }).1,
            { driver with readFiles := (driver.readFiles.insert { path, pipe }).2 }, after) := by
  unfold openRead
  cases acquired : acquireRead path world with
  | error e => exact .inl ⟨e, rfl⟩
  | ok outcome =>
    obtain ⟨channel, between⟩ := outcome
    obtain ⟨-, description, host, opened, _, rfl, rfl⟩ := acquireRead_eq_ok_iff.1 acquired
    exact .inr ⟨description, host, _, _, opened, List.getElem?_concat_length, rfl⟩

/-- Opening a file to write to registers a channel of it, or changes nothing. -/
theorem openWrite_cases (path : String) :
    (∃ e, driver.openWrite path world = (.error e, driver, world)) ∨
      ∃ description host pipe after,
        world.host.openWrite world.host.directory path .create = .ok (description, host) ∧
        after.sink? pipe = some { stream := some { description, capacity := bufferSize } } ∧
        driver.openWrite path world =
          (.ok (driver.writeFiles.insert { path, pipe }).1,
            { driver with writeFiles := (driver.writeFiles.insert { path, pipe }).2 }, after) := by
  unfold openWrite
  cases acquired : acquireWrite path world with
  | error e => exact .inl ⟨e, rfl⟩
  | ok outcome =>
    obtain ⟨channel, between⟩ := outcome
    obtain ⟨-, description, host, opened, rfl, rfl⟩ := acquireWrite_eq_ok_iff.1 acquired
    exact .inr ⟨description, host, _, _, opened, List.getElem?_concat_length, rfl⟩

theorem start_accesses (name : String) {id : AlgorithmId}
    (h : (driver.start name world).1 = .ok id) :
    ∃ i, driver.Serves world [.nothing, .algorithm (.issued id i)] (driver.start name world).2.1
      (driver.start name world).2.2 ∧ i.name = name ∧ i.status = .running := by
  rcases driver.start_cases world name with ⟨e, failed⟩ | ⟨i, after, spawned, started⟩
  · rw [failed] at h
    cases h
  · rw [started] at h ⊢
    cases h
    obtain ⟨command, made⟩ := spawn_start spawned
    obtain ⟨-, _, _, _, -, -, given, -⟩ := Instance.start_eq_ok_iff.1 made
    have arrived : Access { driver, world } .nothing { driver, world := after, arriving := [i] } :=
      .other (.spawn spawned) trivial rfl rfl
    have registered := Access.register (s := { driver, world := after, arriving := [i] })
      List.mem_cons_self
    rw [List.erase_cons_head] at registered
    refine ⟨i, (Accesses.single arrived).append (.single registered), ?_⟩
    rw [given]
    exact ⟨rfl, rfl⟩

theorem openRead_accesses (path : String) {id : ReadFileId}
    (h : (driver.openRead path world).1 = .ok id) :
    ∃ channel, driver.Serves world [.nothing, .readFile (.issued id channel)]
        (driver.openRead path world).2.1 (driver.openRead path world).2.2 ∧
      channel.path = path ∧
        (driver.openRead path world).2.2.isReadable channel.pipe = true := by
  have later := (driver.openRead_aside world path).later
  rcases driver.openRead_cases world path with
    ⟨e, failed⟩ | ⟨description, host, pipe, after, _, stream, opened⟩
  · rw [failed] at h
    cases h
  · rw [opened] at h later ⊢
    cases h
    refine ⟨{ path, pipe },
      (Serves.elapse driver later).append (.single (.readFiles (.insert _))), rfl, ?_⟩
    show World.isReadable after pipe = true
    rw [World.isReadable, stream]

theorem openWrite_accesses (path : String) {id : WriteFileId}
    (h : (driver.openWrite path world).1 = .ok id) :
    ∃ channel, driver.Serves world [.nothing, .writeFile (.issued id channel)]
        (driver.openWrite path world).2.1 (driver.openWrite path world).2.2 ∧
      channel.path = path ∧
        (driver.openWrite path world).2.2.isWritable channel.pipe = true := by
  have later := (driver.openWrite_aside world path).later
  rcases driver.openWrite_cases world path with
    ⟨e, failed⟩ | ⟨description, host, pipe, after, _, stream, opened⟩
  · rw [failed] at h
    cases h
  · rw [opened] at h later ⊢
    cases h
    refine ⟨{ path, pipe },
      (Serves.elapse driver later).append (.single (.writeFiles (.insert _))), rfl, ?_⟩
    show World.isWritable after pipe = true
    rw [World.isWritable, stream]

/-! ### Closing -/

theorem closeRead_of_some {driver : Driver} {id : ReadFileId} {channel : Channel ReadHandle}
    (found : driver.readFiles.get? id = some channel) (world : World) :
    (driver.closeRead id world).1 = .ok () ∧
      (driver.closeRead id world).2.1 =
        { driver with readFiles := driver.readFiles.remove id } := by
  unfold closeRead
  rw [found]
  exact ⟨rfl, rfl⟩

/-- A channel to write to is taken out of the table whether or not it can be flushed, which is what
the answer tells. -/
theorem closeWrite_of_some {driver : Driver} {id : WriteFileId} {channel : Channel WriteHandle}
    (found : driver.writeFiles.get? id = some channel) (world : World) :
    (driver.closeWrite id world).1 = (world.closeSink channel.pipe).1.mapError
        (.io (id.text ++ " (" ++ Text.quoted channel.path ++ ")")) ∧
      (driver.closeWrite id world).2.1 =
        { driver with writeFiles := driver.writeFiles.remove id } := by
  unfold closeWrite
  rw [found]
  dsimp only
  rcases world.closeSink channel.pipe with ⟨_ | _, after⟩ <;> exact ⟨rfl, rfl⟩

theorem closeRead_accesses {id : ReadFileId} {channel : Channel ReadHandle}
    (found : driver.readFiles.get? id = some channel) :
    driver.Serves world [.readFile (.closed id), .nothing] (driver.closeRead id world).2.1
      (driver.closeRead id world).2.2 := by
  rw [(closeRead_of_some found world).2]
  have closed : driver.Serves world [.readFile (.closed id)]
      { driver with readFiles := driver.readFiles.remove id } world :=
    .single (.readFiles (.remove found))
  exact closed.append (.elapse _ (driver.closeRead_aside world id).later)

theorem closeWrite_accesses {id : WriteFileId} {channel : Channel WriteHandle}
    (found : driver.writeFiles.get? id = some channel) :
    driver.Serves world [.writeFile (.closed id), .nothing] (driver.closeWrite id world).2.1
      (driver.closeWrite id world).2.2 := by
  rw [(closeWrite_of_some found world).2]
  have closed : driver.Serves world [.writeFile (.closed id)]
      { driver with writeFiles := driver.writeFiles.remove id } world :=
    .single (.writeFiles (.remove found))
  exact closed.append (.elapse _ (driver.closeWrite_aside world id).later)

/-- The instances that were taken out are ended while the tables stay. -/
theorem tearDown_accesses (entries : List (AlgorithmId × Instance)) :
    Accesses { driver, world, leaving := entries } (List.replicate entries.length .nothing)
      { driver
        world := entries.foldl (fun world (id, i) => tearDownInstance id i world) world } := by
  induction entries generalizing world with
  | nil => exact .nil
  | cons entry rest ih =>
    obtain ⟨id, i⟩ := entry
    have ended := Step.tearDown (s := { driver, world, leaving := (id, i) :: rest })
      List.mem_cons_self World.progress_nothing
    rw [List.erase_cons_head] at ended
    exact (Accesses.single (.other ended trivial rfl rfl)).append (ih _)

theorem drainAlgorithms_accesses :
    ∃ n, driver.Serves world (.algorithm .drained :: List.replicate n .nothing)
      (driver.drainAlgorithms world).1 (driver.drainAlgorithms world).2 := by
  have taken := Access.drain (s := { driver, world })
  rw [List.nil_append] at taken
  exact ⟨_, (Accesses.single taken).append (tearDown_accesses _ world _)⟩

theorem drainReads_accesses :
    driver.Serves world [.readFile .drained, .nothing] (driver.drainReads world).1
      (driver.drainReads world).2 := by
  have drained : driver.Serves world [.readFile .drained] (driver.drainReads world).1 world :=
    .single (.readFiles .drain)
  exact drained.append (.elapse _ (driver.drainReads_aside world).later)

theorem drainWrites_accesses :
    driver.Serves world [.writeFile .drained, .nothing] (driver.drainWrites world).1
      (driver.drainWrites world).2 := by
  have drained : driver.Serves world [.writeFile .drained] (driver.drainWrites world).1 world :=
    .single (.writeFiles .drain)
  exact drained.append (.elapse _ (driver.drainWrites_aside world).later)

/-- Closing everything drains each table once. -/
theorem closeAll_accesses :
    ∃ n, driver.Serves world
      (.algorithm .drained :: List.replicate n .nothing ++
        ([.readFile .drained, .nothing] ++ [.writeFile .drained, .nothing]))
      (driver.closeAll world).1 (driver.closeAll world).2 := by
  obtain ⟨n, instances⟩ := driver.drainAlgorithms_accesses world
  have reads := drainReads_accesses (driver.drainAlgorithms world).1
    (driver.drainAlgorithms world).2
  exact ⟨n, instances.append (reads.append (drainWrites_accesses _ _))⟩

end Driver

end AlgorithmDriver

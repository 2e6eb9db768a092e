import AlgorithmDriver.Proofs.Driver.Refusals
import AlgorithmDriver.Proofs.Driver.Releases

/-!
# Operations on stage

What a driver does is made of steps on stage.

* Every operation of a caller is a run (`leads_perform`).
* So is closing everything: each instance is ended step by step (`run_tearDownInstance`), each
  channel is released, and nothing of it is left under way (`run_closeAll`).
* Whatever is under way can be finished, whatever else has happened meanwhile (`goes_finish`).
-/

namespace AlgorithmDriver

open Table (Change)

/-- Noting an instance twice. -/
theorem Driver.note_note (driver : Driver) (id : AlgorithmId) (i i' : Instance) :
    (driver.note id i).note id i' = driver.note id i' := by
  have twice : (driver.algorithms.set id i).set id i' = driver.algorithms.set id i' := by
    unfold Table.set
    simp only [List.map_map]
    congr 1
    refine List.map_congr_left fun entry _ => ?_
    by_cases own : entry.1 = id.raw <;> simp [own]
  unfold note
  rw [twice]

theorem Driver.get?_note {driver : Driver} {id : AlgorithmId} {i : Instance}
    (found : driver.algorithms.get? id = some i) (i' : Instance) :
    (driver.note id i').algorithms.get? id = some i' := by
  show (driver.algorithms.set id i').get? id = some i'
  rw [Table.get?_set, if_pos rfl, found]
  rfl

/-- An entry on record does not matter to a handle that is dropped. -/
theorem World.dropSink_record {world : World} {w : WriteHandle} (shut : world.openSink? w = none)
    (entry : LogEntry) : (world.record entry).dropSink w = (world.dropSink w).record entry := by
  have shut' : (world.record entry).openSink? w = none := shut
  have same : (world.record entry).sink? w = world.sink? w := rfl
  rw [dropSink_of_shut shut, dropSink_of_shut shut', same]
  split <;> rfl

/-- How many steps there are to the end of an instance at most. -/
def Duty.rank : Duty → Nat
  | look => 6
  | kill => 5
  | signal => 4
  | confirm => 3
  | decide => 2
  | reap => 1
  | release => 0

theorem Duty.rank_next {duty : Duty} (more : duty ≠ .release) (status : Status) :
    (duty.next status).rank < duty.rank := by
  cases duty with
  | look | kill | decide =>
    unfold Duty.next
    dsimp only
    split <;> decide
  | signal | confirm | reap => exact Nat.lt_succ_self _
  | release => exact absurd rfl more

namespace Stage

variable {s t : Stage} {deed : Deed} {deeds : List Deed}

theorem Run.single (step : Step s deed t) : Run s [deed] t := .snoc .nil step

/-! ## Operations of callers -/

/-- The driver gets there by steps of its own and of those who use it. -/
def Leads (s : Stage) (driver : Driver) (world : World) : Prop :=
  ∃ deeds t, Run s deeds t ∧ t.driver = driver ∧ t.world = world

theorem Leads.refl (s : Stage) : s.Leads s.driver s.world := ⟨[], s, .nil, rfl, rfl⟩

theorem Leads.of_step (step : Step s deed t) : s.Leads t.driver t.world :=
  ⟨_, t, .single step, rfl, rfl⟩

theorem Leads.cons {driver : Driver} {world : World} (step : Step s deed t)
    (rest : t.Leads driver world) : s.Leads driver world := by
  obtain ⟨deeds, u, run, sameDriver, sameWorld⟩ := rest
  exact ⟨_, u, (Run.single step).append run, sameDriver, sameWorld⟩

theorem leads_start (s : Stage) (name : String) :
    s.Leads (s.driver.start name s.world).2.1 (s.driver.start name s.world).2.2 := by
  rcases s.driver.start_cases s.world name with ⟨e, refused⟩ | ⟨i, after, spawned, started⟩
  · rw [refused]
    exact .refl s
  · rw [started]
    exact .cons (.spawn spawned) (.of_step (.register List.mem_cons_self))

theorem leads_status (s : Stage) (id : AlgorithmId) :
    s.Leads (s.driver.status id s.world).2.1 (s.driver.status id s.world).2.2 := by
  unfold Driver.status
  cases found : s.driver.algorithms.get? id with
  | none => exact .refl s
  | some i => exact .of_step (.look found)

theorem leads_wait_go (id : AlgorithmId) (fuel : Nat) (s : Stage) :
    s.Leads (Driver.wait.go id fuel s.driver s.world).2.1
      (Driver.wait.go id fuel s.driver s.world).2.2 := by
  induction fuel generalizing s with
  | zero => exact .refl s
  | succ fuel ih =>
    obtain ⟨deeds, t, run, sameDriver, sameWorld⟩ := s.leads_status id
    have once : (s.driver.waitOnce id s.world).2 = (t.driver, t.world) := by
      rw [sameDriver, sameWorld]
      unfold Driver.waitOnce
      split <;> (rename_i looked; rw [looked])
    rw [Driver.wait.go]
    rcases outcome : s.driver.waitOnce id s.world with ⟨_ | status, driver', world'⟩
    · rw [outcome] at once
      cases once
      dsimp only
      split
      · exact ⟨deeds, t, run, rfl, rfl⟩
      · have elapsed : t.world.Elsewhere t.world.advance :=
          (World.advance_proceeds t.world).elsewhere
        obtain ⟨more, u, rest, sameDriver, sameWorld⟩ := ih { t with world := t.world.advance }
        exact ⟨_, u, (run.snoc (.elsewhere elapsed)).append rest, sameDriver, sameWorld⟩
    · rw [outcome] at once
      cases once
      exact ⟨deeds, t, run, rfl, rfl⟩

theorem leads_wait (s : Stage) (id : AlgorithmId) :
    s.Leads (s.driver.wait id s.world).2.1 (s.driver.wait id s.world).2.2 := by
  unfold Driver.wait
  exact leads_wait_go id _ s

theorem leads_kill (s : Stage) (id : AlgorithmId) (meanwhile : Interlude)
    (unsent : Option Instance.Unsent) :
    s.Leads (s.driver.kill id s.world meanwhile.pass unsent).2.1
      (s.driver.kill id s.world meanwhile.pass unsent).2.2 := by
  unfold Driver.kill
  cases found : s.driver.algorithms.get? id with
  | none => exact .refl s
  | some i =>
    have looked := Driver.get?_note found (i.poll s.world).1
    refine .cons (.look found) ?_
    simp only [Instance.kill]
    cases status : (i.poll s.world).1.status with
    | running =>
      simp only
      rcases unsent with _ | _ | reason
      · -- The signal is sent.
        refine .cons (.elsewhere (meanwhile.elsewhere _)) (.cons (.signal looked status)
          (.cons (.elsewhere (meanwhile.elsewhere _)) (.cons (.look (Driver.get?_note looked _))
            (.cons (.record (.killed id)) ?_))))
        rw [Driver.note_note, Driver.note_note]
        exact .refl _
      · refine .cons (.elsewhere (meanwhile.elsewhere _)) (.cons (.look looked) ?_)
        rw [Driver.note_note]
        exact .refl _
      · exact .of_step (.elsewhere (meanwhile.elsewhere _))
    | exited code => exact .refl _
    | killed => exact .refl _
    | notFound => exact .refl _

theorem leads_openRead (s : Stage) (path : String) :
    s.Leads (s.driver.openRead path s.world).2.1 (s.driver.openRead path s.world).2.2 := by
  unfold Driver.openRead
  cases opened : Driver.acquireRead path s.world with
  | error e => exact .refl s
  | ok outcome =>
    exact .cons (.acquireRead opened) (.of_step (.registerRead List.mem_cons_self))

theorem leads_openWrite (s : Stage) (path : String) :
    s.Leads (s.driver.openWrite path s.world).2.1 (s.driver.openWrite path s.world).2.2 := by
  unfold Driver.openWrite
  cases opened : Driver.acquireWrite path s.world with
  | error e => exact .refl s
  | ok outcome =>
    exact .cons (.acquireWrite opened) (.of_step (.registerWrite List.mem_cons_self))

theorem leads_readPipe (s : Stage) (id : ReadFileId) :
    s.Leads s.driver (s.driver.readPipe id s.world).2 := by
  unfold Driver.readPipe
  cases found : s.driver.readFiles.get? id with
  | none => exact .refl s
  | some channel => exact .of_step (.lendRead found)

theorem leads_writePipe (s : Stage) (id : WriteFileId) :
    s.Leads s.driver (s.driver.writePipe id s.world).2 := by
  unfold Driver.writePipe
  cases found : s.driver.writeFiles.get? id with
  | none => exact .refl s
  | some channel => exact .of_step (.lendWrite found)

/-- A caller takes a channel to read from out of its table and releases it. -/
theorem run_closeRead (s : Stage) {id : ReadFileId} {channel : Channel ReadHandle}
    (found : s.driver.readFiles.get? id = some channel) :
    Run s [.table (.readFile (.closed id)), .releasedRead .caller id, .silent]
      { s with
        driver := (s.driver.closeRead id s.world).2.1
        world := (s.driver.closeRead id s.world).2.2 } := by
  let taken : Stage :=
    { s with
      driver := { s.driver with readFiles := s.driver.readFiles.remove id }
      closingReads := ⟨.caller, id, channel⟩ :: s.closingReads }
  have released := @Step.releaseRead taken ⟨.caller, id, channel⟩ List.mem_cons_self
  rw [List.erase_cons_head] at released
  unfold Driver.closeRead
  rw [found]
  exact ((Run.single (.takeRead found)).snoc released).snoc
    (.record (.closed (.read id) channel.path))

theorem leads_closeRead (s : Stage) (id : ReadFileId) :
    s.Leads (s.driver.closeRead id s.world).2.1 (s.driver.closeRead id s.world).2.2 := by
  cases found : s.driver.readFiles.get? id with
  | none =>
    rw [(Driver.lacksRead found).close]
    exact .refl s
  | some channel => exact ⟨_, _, s.run_closeRead found, rfl, rfl⟩

/-- A caller takes a channel to write to out of its table and releases it. -/
theorem run_closeWrite (s : Stage) {id : WriteFileId} {channel : Channel WriteHandle}
    (found : s.driver.writeFiles.get? id = some channel) :
    ∃ more, Run s more
        { s with
          driver := (s.driver.closeWrite id s.world).2.1
          world := (s.driver.closeWrite id s.world).2.2 } ∧
      .releasedWrite .caller id (s.world.closeSink channel.pipe).1 ∈ more := by
  let taken : Stage :=
    { s with
      driver := { s.driver with writeFiles := s.driver.writeFiles.remove id }
      closingWrites := ⟨.caller, id, channel⟩ :: s.closingWrites }
  have released := @Step.releaseWrite taken ⟨.caller, id, channel⟩ List.mem_cons_self
  rw [List.erase_cons_head] at released
  have run := (Run.single (.takeWrite found)).snoc released
  unfold Driver.closeWrite
  rw [found]
  dsimp only
  split
  · exact ⟨_, run, List.mem_cons_of_mem _ (List.mem_singleton_self _)⟩
  · exact ⟨_, run.snoc (.record (.closed (.write id) channel.path)),
      List.mem_append_left _ (List.mem_cons_of_mem _ (List.mem_singleton_self _))⟩

theorem leads_closeWrite (s : Stage) (id : WriteFileId) :
    s.Leads (s.driver.closeWrite id s.world).2.1 (s.driver.closeWrite id s.world).2.2 := by
  cases found : s.driver.writeFiles.get? id with
  | none =>
    rw [(Driver.lacksWrite found).close]
    exact .refl s
  | some channel =>
    obtain ⟨_, run, _⟩ := s.run_closeWrite found
    exact ⟨_, _, run, rfl, rfl⟩

/-- Every operation of a caller is a run. -/
theorem leads_perform (s : Stage) (operation : Driver.Operation) :
    s.Leads (operation.perform s.driver s.world).2.1 (operation.perform s.driver s.world).2.2 := by
  cases operation with
  | start name => exact s.leads_start name
  | status id => exact s.leads_status id
  | wait id => exact s.leads_wait id
  | kill id meanwhile unsent => exact s.leads_kill id meanwhile unsent
  | inputPipe id => exact .of_step (.inputPipe id)
  | outputPipe id => exact .of_step (.outputPipe id)
  | openRead path => exact s.leads_openRead path
  | readPipe id => exact s.leads_readPipe id
  | closeRead id => exact s.leads_closeRead id
  | openWrite path => exact s.leads_openWrite path
  | writePipe id => exact s.leads_writePipe id
  | closeWrite id => exact s.leads_closeWrite id

/-! ## Ending instances -/

/-- One stage follows from another. -/
def Goes (s t : Stage) : Prop := ∃ deeds, Run s deeds t

theorem Goes.refl (s : Stage) : s.Goes s := ⟨[], .nil⟩

theorem Goes.trans {u : Stage} (first : s.Goes t) (second : t.Goes u) : s.Goes u := by
  obtain ⟨_, first⟩ := first
  obtain ⟨_, second⟩ := second
  exact ⟨_, first.append second⟩

theorem Goes.of_step (step : Step s deed t) : s.Goes t := ⟨_, .single step⟩

/-- The stage with an instance that is being ended, before all others. -/
def ending (s : Stage) (d : Departure) (rest : List Departure) (world : World) : Stage :=
  { s with world, leaving := d :: rest }

variable (s : Stage) (d : Departure) (rest : List Departure) (world : World)

theorem goes_elsewhere {after : World} (elsewhere : world.Elsewhere after) :
    (s.ending d rest world).Goes (s.ending d rest after) := .of_step (.elsewhere elsewhere)

theorem goes_record (entry : LogEntry) :
    (s.ending d rest world).Goes (s.ending d rest (world.record entry)) := .of_step (.record entry)

variable (id : AlgorithmId) (i : Instance) (meanwhile : Interlude)

/-- The next step of ending an instance. -/
theorem goes_depart (duty : Duty) (more : duty ≠ .release) :
    (s.ending ⟨id, i, duty⟩ rest world).Goes
      (s.ending ⟨id, (Departure.settle ⟨id, i, duty⟩ world).1,
        duty.next (Departure.settle ⟨id, i, duty⟩ world).1.status⟩ rest
        (Departure.settle ⟨id, i, duty⟩ world).2) := by
  rcases Departure.next_cases ⟨id, i, duty⟩ world with ⟨last, _⟩ | ⟨_, next⟩
  · exact absurd last more
  · have step : Step (s.ending ⟨id, i, duty⟩ rest world) _
        { s.ending ⟨id, i, duty⟩ rest world with
          world := (Departure.next ⟨id, i, duty⟩ world).2
          leaving := _ :: (_ :: rest).erase _ } :=
      .depart List.mem_cons_self (congrArg Prod.fst next)
    rw [next, List.erase_cons_head] at step
    exact .of_step step

/-- The last step of ending an instance. -/
theorem run_depose :
    Run (s.ending ⟨id, i, .release⟩ rest world) [.ended id i]
      { s with world := i.releasePipes world, leaving := rest } := by
  have step : Step (s.ending ⟨id, i, .release⟩ rest world) (.ended id i)
      { s.ending ⟨id, i, .release⟩ rest world with
        world := i.releasePipes world
        leaving := (⟨id, i, .release⟩ :: rest).erase ⟨id, i, .release⟩ } :=
    @Step.depose _ ⟨id, i, .release⟩ List.mem_cons_self rfl
  rw [List.erase_cons_head] at step
  exact .single step

/-- An instance that was found running is killed, unless it has ended by then. -/
theorem goes_kill :
    (s.ending ⟨id, i, .kill⟩ rest world).Goes
      (s.ending ⟨id, (i.kill id world meanwhile.pass).2.1, .decide⟩ rest
        (i.kill id world meanwhile.pass).2.2) := by
  refine (s.goes_depart rest world id i .kill Duty.noConfusion).trans ?_
  unfold Instance.kill Departure.settle Duty.next
  dsimp only
  cases status : (i.poll world).1.status with
  | running =>
    refine (s.goes_elsewhere _ rest _ (meanwhile.elsewhere _)).trans ?_
    refine (s.goes_depart rest _ id _ .signal Duty.noConfusion).trans ?_
    refine (s.goes_elsewhere _ rest _ (meanwhile.elsewhere _)).trans ?_
    exact s.goes_depart rest _ id _ .confirm Duty.noConfusion
  | exited code => exact .refl _
  | killed => exact .refl _
  | notFound => exact .refl _

theorem goes_killLeftover :
    (s.ending ⟨id, i, .look⟩ rest world).Goes
      (s.ending ⟨id, (Driver.killLeftover id i world meanwhile.pass).1, .decide⟩ rest
        (Driver.killLeftover id i world meanwhile.pass).2) := by
  refine (s.goes_depart rest world id i .look Duty.noConfusion).trans ?_
  unfold Driver.killLeftover Departure.settle Duty.next
  dsimp only
  cases status : (i.poll world).1.status with
  | running =>
    dsimp only
    refine (s.goes_record _ rest _ (.killingLeftover id (i.poll world).1.name)).trans ?_
    refine (s.goes_elsewhere _ rest _ (meanwhile.elsewhere _)).trans ?_
    refine (s.goes_kill rest _ id _ meanwhile).trans ?_
    split
    · rename_i killed
      rw [killed]
      exact .refl _
    · rename_i e _ _ refused
      rw [refused]
      exact s.goes_record _ rest _ (.cannotKill id e)
  | exited code => exact .refl _
  | killed => exact .refl _
  | notFound => exact .refl _

/-- An instance is ended. -/
theorem run_tearDownInstance :
    ∃ deeds, Run (s.ending ⟨id, i, .look⟩ rest world) deeds
      { s with world := Driver.tearDownInstance id i world meanwhile.pass, leaving := rest } ∧
      ∃ i', .ended id i' ∈ deeds := by
  unfold Driver.tearDownInstance
  obtain ⟨before, killed⟩ := s.goes_killLeftover rest world id i meanwhile
  generalize Driver.killLeftover id i world meanwhile.pass = leftover at killed ⊢
  obtain ⟨i, world⟩ := leftover
  obtain ⟨decided, decide⟩ := (s.goes_elsewhere _ rest _ (meanwhile.elsewhere world)).trans
    (s.goes_depart rest (meanwhile.pass world) id i .decide Duty.noConfusion)
  unfold Departure.settle Duty.next at decide
  dsimp only at decide ⊢
  generalize i.poll (meanwhile.pass world) = looked at decide ⊢
  obtain ⟨i, world⟩ := looked
  have upTo := killed.append decide
  dsimp only at upTo ⊢
  by_cases terminal : i.status.isTerminal = true
  · rw [if_pos terminal] at upTo ⊢
    obtain ⟨reaped, reap⟩ := (s.goes_elsewhere _ rest _ (meanwhile.elsewhere world)).trans
      (s.goes_depart rest (meanwhile.pass world) id i .reap Duty.noConfusion)
    exact ⟨_, (upTo.append reap).append (s.run_depose rest _ id _), _,
      List.mem_append_right _ (List.mem_singleton_self _)⟩
  · rw [if_neg terminal] at upTo ⊢
    exact ⟨_, upTo.append (s.run_depose rest _ id _), _,
      List.mem_append_right _ (List.mem_singleton_self _)⟩

/-! ## Closing everything -/

theorem mem_toList_of_get? {resource : Resource} {α : Type} {table : Table resource α}
    {id : Id resource} {value : α} (found : table.get? id = some value) :
    (id, value) ∈ table.toList := by
  obtain ⟨before, after, entries, _⟩ := List.lookup_eq_some_iff.1 found
  refine List.mem_map.2 ⟨(id.raw, value), ?_, rfl⟩
  rw [entries]
  exact List.mem_append_right _ List.mem_cons_self

/-- All instances that were taken out are ended. -/
theorem run_tearDownInstances (entries : List (AlgorithmId × Instance)) (world : World) :
    ∃ deeds,
      Run { s with world, leaving := entries.map (fun (id, i) => { id, i }) ++ rest } deeds
        { s with
          world := entries.foldl (fun world (id, i) => Driver.tearDownInstance id i world) world
          leaving := rest } ∧
      ∀ id i, (id, i) ∈ entries → ∃ i', .ended id i' ∈ deeds := by
  induction entries generalizing world with
  | nil => exact ⟨[], .nil, fun _ _ h => nomatch h⟩
  | cons entry entries ih =>
    obtain ⟨id, i⟩ := entry
    obtain ⟨first, run, i', ended⟩ :=
      s.run_tearDownInstance (entries.map (fun (id, i) => ⟨id, i, .look⟩) ++ rest) world id i .nothing
    obtain ⟨more, others, all⟩ := ih (Driver.tearDownInstance id i world)
    refine ⟨_, run.append others, fun id' i' mem => ?_⟩
    rcases List.mem_cons.1 mem with same | other
    · cases same
      exact ⟨_, List.mem_append_left _ ended⟩
    · obtain ⟨_, ended⟩ := all id' i' other
      exact ⟨_, List.mem_append_right _ ended⟩

/-- A channel to read from that was taken out is closed. -/
theorem run_tearDownRead (rest : List (Closing .readFile (Channel ReadHandle))) (id : ReadFileId)
    (channel : Channel ReadHandle) (world : World) :
    Run { s with world, closingReads := ⟨.everything, id, channel⟩ :: rest }
      [.silent, .releasedRead .everything id]
      { s with world := Driver.tearDownRead id channel world, closingReads := rest } := by
  let noted : Stage :=
    { s with
      world := world.record (.closingLeftover (.read id) channel.path)
      closingReads := ⟨.everything, id, channel⟩ :: rest }
  have released : Step noted (.releasedRead .everything id)
      { noted with
        world := Driver.tearDownRead id channel world
        closingReads := noted.closingReads.erase ⟨.everything, id, channel⟩ } :=
    @Step.releaseRead noted ⟨.everything, id, channel⟩ List.mem_cons_self
  rw [List.erase_cons_head] at released
  exact (Run.single (.record (.closingLeftover (.read id) channel.path))).snoc released

/-- All channels to read from that were taken out are closed. -/
theorem run_tearDownReads (rest : List (Closing .readFile (Channel ReadHandle)))
    (entries : List (ReadFileId × Channel ReadHandle)) (world : World) :
    ∃ deeds,
      Run { s with
          world
          closingReads := entries.map (fun (id, channel) => ⟨.everything, id, channel⟩) ++ rest } deeds
        { s with
          world := entries.foldl (fun world (id, channel) => Driver.tearDownRead id channel world) world
          closingReads := rest } ∧
      ∀ id channel, (id, channel) ∈ entries → .releasedRead .everything id ∈ deeds := by
  induction entries generalizing world with
  | nil => exact ⟨[], .nil, fun _ _ h => nomatch h⟩
  | cons entry entries ih =>
    obtain ⟨id, channel⟩ := entry
    obtain ⟨more, others, all⟩ := ih (Driver.tearDownRead id channel world)
    refine ⟨_, (s.run_tearDownRead _ id channel world).append others, fun id' channel' mem => ?_⟩
    rcases List.mem_cons.1 mem with same | other
    · cases same
      exact List.mem_append_left _ (List.mem_cons_of_mem _ (List.mem_singleton_self _))
    · exact List.mem_append_right _ (all id' channel' other)

/-- A channel to write to that was taken out is flushed and closed. -/
theorem run_tearDownWrite (rest : List (Closing .writeFile (Channel WriteHandle)))
    (id : WriteFileId) (channel : Channel WriteHandle) (world : World) :
    ∃ deeds,
      Run { s with world, closingWrites := ⟨.everything, id, channel⟩ :: rest } deeds
        { s with world := Driver.tearDownWrite id channel world, closingWrites := rest } ∧
      ∃ r, .releasedWrite .everything id r ∈ deeds := by
  let noted : Stage :=
    { s with
      world := world.record (.closingLeftover (.write id) channel.path)
      closingWrites := ⟨.everything, id, channel⟩ :: rest }
  have released : Step noted
      (.releasedWrite .everything id (noted.world.closeSink channel.pipe).1)
      { noted with
        world := (noted.world.closeSink channel.pipe).2.dropSink channel.pipe
        closingWrites := noted.closingWrites.erase ⟨.everything, id, channel⟩ } :=
    @Step.releaseWrite noted ⟨.everything, id, channel⟩ List.mem_cons_self
  rw [List.erase_cons_head] at released
  have run := (Run.single (.record (s := { s with
    world
    closingWrites := ⟨.everything, id, channel⟩ :: rest })
    (.closingLeftover (.write id) channel.path))).snoc released
  have shut := World.openSink?_closeSink noted.world channel.pipe
  unfold Driver.tearDownWrite
  dsimp only
  split
  · exact ⟨_, run, _, List.mem_cons_of_mem _ (List.mem_singleton_self _)⟩
  · rename_i e _
    rw [World.dropSink_record shut]
    exact ⟨_, run.snoc (.record (.cannotFlush id e)), _,
      List.mem_append_left _ (List.mem_cons_of_mem _ (List.mem_singleton_self _))⟩

/-- All channels to write to that were taken out are flushed and closed. -/
theorem run_tearDownWrites (rest : List (Closing .writeFile (Channel WriteHandle)))
    (entries : List (WriteFileId × Channel WriteHandle)) (world : World) :
    ∃ deeds,
      Run { s with
          world
          closingWrites := entries.map (fun (id, channel) => ⟨.everything, id, channel⟩) ++ rest }
        deeds
        { s with
          world :=
            entries.foldl (fun world (id, channel) => Driver.tearDownWrite id channel world) world
          closingWrites := rest } ∧
      ∀ id channel, (id, channel) ∈ entries → ∃ r, .releasedWrite .everything id r ∈ deeds := by
  induction entries generalizing world with
  | nil => exact ⟨[], .nil, fun _ _ h => nomatch h⟩
  | cons entry entries ih =>
    obtain ⟨id, channel⟩ := entry
    obtain ⟨first, run, r, released⟩ := s.run_tearDownWrite
      (entries.map (fun (id, channel) => ⟨.everything, id, channel⟩) ++ rest) id channel world
    obtain ⟨more, others, all⟩ := ih (Driver.tearDownWrite id channel world)
    refine ⟨_, run.append others, fun id' channel' mem => ?_⟩
    rcases List.mem_cons.1 mem with same | other
    · cases same
      exact ⟨r, List.mem_append_left _ released⟩
    · obtain ⟨r, released⟩ := all id' channel' other
      exact ⟨r, List.mem_append_right _ released⟩

/-- Closing everything is a run.  All that was in the tables is released, and nothing of it is left
under way. -/
theorem run_closeAll :
    ∃ deeds,
      Run s deeds
        { s with
          driver := (s.driver.closeAll s.world).1
          world := (s.driver.closeAll s.world).2 } ∧
      (∀ id i, s.driver.algorithms.get? id = some i → ∃ i', .ended id i' ∈ deeds) ∧
      (∀ id channel, s.driver.readFiles.get? id = some channel →
        .releasedRead .everything id ∈ deeds) ∧
      ∀ id channel, s.driver.writeFiles.get? id = some channel →
        ∃ r, .releasedWrite .everything id r ∈ deeds := by
  -- Each drain starts where the one before it has left the driver and the world.
  obtain ⟨first, ending, ended⟩ :=
    s.takeInstances.run_tearDownInstances s.leaving s.driver.algorithms.toList s.world
  let between : Stage :=
    { s with
      driver := (s.driver.drainAlgorithms s.world).1
      world := (s.driver.drainAlgorithms s.world).2 }
  obtain ⟨second, reading, closedReads⟩ := between.takeReads.run_tearDownReads s.closingReads
    s.driver.readFiles.toList between.world
  let later : Stage :=
    { s with
      driver := (between.driver.drainReads between.world).1
      world := (between.driver.drainReads between.world).2 }
  obtain ⟨third, writing, closedWrites⟩ := later.takeWrites.run_tearDownWrites s.closingWrites
    s.driver.writeFiles.toList later.world
  have algorithms : Run s _ between := (Run.single .takeInstances).append ending
  have readFiles : Run between _ later := (Run.single .takeReads).append reading
  have writeFiles : Run later _ _ := (Run.single .takeWrites).append writing
  refine ⟨_, (algorithms.append readFiles).append writeFiles, ?_, ?_, ?_⟩
  · intro id i found
    obtain ⟨i', mem⟩ := ended id i (mem_toList_of_get? found)
    exact ⟨i', List.mem_append_left _ (List.mem_append_left _ (List.mem_append_right _ mem))⟩
  · intro id channel found
    have mem := closedReads id channel (mem_toList_of_get? found)
    exact List.mem_append_left _ (List.mem_append_right _ (List.mem_append_right _ mem))
  · intro id channel found
    obtain ⟨r, mem⟩ := closedWrites id channel (mem_toList_of_get? found)
    exact ⟨r, List.mem_append_right _ (List.mem_append_right _ mem)⟩

/-! ## Nothing gets stuck -/

/-- The ending of an instance can always go on to its end, from whatever step it has reached. -/
theorem goes_ended (duty : Duty) (i : Instance) (world : World) :
    ∃ after, (s.ending ⟨id, i, duty⟩ rest world).Goes { s with world := after, leaving := rest } := by
  by_cases last : duty = .release
  · rw [last]
    exact ⟨_, _, s.run_depose rest world id i⟩
  · obtain ⟨after, goes⟩ := goes_ended
      (duty.next (Departure.settle ⟨id, i, duty⟩ world).1.status)
      (Departure.settle ⟨id, i, duty⟩ world).1 (Departure.settle ⟨id, i, duty⟩ world).2
    exact ⟨after, (s.goes_depart rest world id i duty last).trans goes⟩
termination_by duty.rank
decreasing_by exact Duty.rank_next last _

theorem goes_endInstances (leaving : List Departure) (s : Stage) (same : s.leaving = leaving) :
    ∃ world, s.Goes { s with world, leaving := [] } := by
  induction leaving generalizing s with
  | nil =>
    rw [← same]
    exact ⟨s.world, .refl s⟩
  | cons d rest ih =>
    obtain ⟨after, goes⟩ := s.goes_ended rest d.id d.duty d.i s.world
    obtain ⟨world, others⟩ := ih { s with world := after, leaving := rest } rfl
    unfold ending at goes
    rw [← same] at goes
    exact ⟨world, goes.trans others⟩

theorem goes_releaseReads (closing : List (Closing .readFile (Channel ReadHandle))) (s : Stage)
    (same : s.closingReads = closing) : ∃ world, s.Goes { s with world, closingReads := [] } := by
  induction closing generalizing s with
  | nil =>
    rw [← same]
    exact ⟨s.world, .refl s⟩
  | cons c rest ih =>
    have released : Step s _ _ := .releaseRead (same ▸ List.mem_cons_self : c ∈ s.closingReads)
    rw [same, List.erase_cons_head] at released
    obtain ⟨world, others⟩ := ih { s with world := _, closingReads := rest } rfl
    exact ⟨world, (Goes.of_step released).trans others⟩

theorem goes_releaseWrites (closing : List (Closing .writeFile (Channel WriteHandle))) (s : Stage)
    (same : s.closingWrites = closing) : ∃ world, s.Goes { s with world, closingWrites := [] } := by
  induction closing generalizing s with
  | nil =>
    rw [← same]
    exact ⟨s.world, .refl s⟩
  | cons c rest ih =>
    have released : Step s _ _ := .releaseWrite (same ▸ List.mem_cons_self : c ∈ s.closingWrites)
    rw [same, List.erase_cons_head] at released
    obtain ⟨world, others⟩ := ih { s with world := _, closingWrites := rest } rfl
    exact ⟨world, (Goes.of_step released).trans others⟩

/-- Whatever is under way out of a table can be finished, without anybody else's help. -/
theorem goes_finish :
    ∃ world, s.Goes { s with world, leaving := [], closingReads := [], closingWrites := [] } := by
  obtain ⟨first, ended⟩ := goes_endInstances s.leaving s rfl
  obtain ⟨second, reads⟩ := goes_releaseReads s.closingReads
    { s with world := first, leaving := [] } rfl
  obtain ⟨third, writes⟩ := goes_releaseWrites s.closingWrites
    { s with world := second, leaving := [], closingReads := [] } rfl
  exact ⟨third, (ended.trans reads).trans writes⟩

end Stage

end AlgorithmDriver

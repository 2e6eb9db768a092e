import AlgorithmDriver.Proofs.Driver.Reports

/-!
# What a call does and what is reported of it

Each call of a driver puts some lines on record.  They are told resource by resource, together with
what became of the resource.

* An instance is started, looked at, killed or ended (`InstanceMove`); a channel is opened, closed,
  lost or left over (`ChannelMove`).  Each of them has lines of its own.
* A call makes one such move for each resource, issues an id if it opens something, and the lines
  tell of its success (`Effect`).  All others stay as they are.
* Every step has such an effect (`Step.effect`), also those that look at all instances or close
  everything.
-/

namespace AlgorithmDriver

namespace Audit

/-! ## What a call can do -/

namespace State

/-- How an instance stands that is in the table. -/
def standing? (s : State) (id : AlgorithmId) : Option Standing :=
  (s.driver.algorithms.get? id).map Instance.standing

/-- The path of a channel that is in its table. -/
def path? (s : State) : ChannelId → Option String
  | .read id => (s.driver.readFiles.get? id).map Channel.path
  | .write id => (s.driver.writeFiles.get? id).map Channel.path

end State

/-- What becomes of an instance by a call that achieves `gain`, and what is reported on it. -/
inductive InstanceMove (gain : Option Success) (id : AlgorithmId) :
    Option Standing → List LogEntry → Option Standing → Prop
  | missing (unstarted : ∀ name, gain ≠ some (.started name id))
      (unkilled : gain ≠ some (.killed id)) : InstanceMove gain id none [] none
  | looks {standing standing' : Standing} {lines : List LogEntry}
      (looks : standing.Looks lines standing') (unstarted : ∀ name, gain ≠ some (.started name id))
      (unkilled : gain ≠ some (.killed id)) :
      InstanceMove gain id (some standing) lines (some standing')
  | started (name : String) (gains : gain = some (.started name id)) :
      InstanceMove gain id none [.started name id] (some ⟨name, .running⟩)
  | killed (name : String) (gains : gain = some (.killed id)) :
      InstanceMove gain id (some ⟨name, .running⟩) [.signalled name, .killed id]
        (some ⟨name, .killed⟩)
  | dismissed {standing : Standing} {lines : List LogEntry}
      (dismissed : standing.Dismissed id lines)
      (unstarted : ∀ name, gain ≠ some (.started name id)) (unkilled : gain ≠ some (.killed id)) :
      InstanceMove gain id (some standing) lines none

/-- A call neither opens nor closes a channel. -/
structure Untouched (gain : Option Success) (loss : Option ChannelId) (channel : ChannelId) :
    Prop where
  unopened : ∀ path, gain ≠ some (.opened path channel)
  unclosed : gain ≠ some (.closed channel)
  unlost : loss ≠ some channel

/-- What is put on record when a channel cannot be flushed. -/
def flaw : ChannelId → Except StreamError Unit → List LogEntry
  | .read _, _ => []
  | .write id, r => Driver.flaw id r

/-- What becomes of a channel by a call that achieves `gain` and loses what was pending in `loss`,
and what is reported on it. -/
inductive ChannelMove (gain : Option Success) (loss : Option ChannelId) (channel : ChannelId) :
    Option String → List LogEntry → Option String → Prop
  | stays (path? : Option String) (untouched : Untouched gain loss channel) :
      ChannelMove gain loss channel path? [] path?
  | opened (path : String) (gains : gain = some (.opened path channel)) (unlost : loss = none) :
      ChannelMove gain loss channel none [.opened path channel] (some path)
  | closed (path : String) (gains : gain = some (.closed channel)) (unlost : loss = none) :
      ChannelMove gain loss channel (some path) [.closed channel path] none
  | unflushed (path : String) (gains : gain = none) (lost : loss = some channel) :
      ChannelMove gain loss channel (some path) [] none
  | leftOver (path : String) (r : Except StreamError Unit)
      (untouched : Untouched gain loss channel) :
      ChannelMove gain loss channel (some path) (.closingLeftover channel path :: flaw channel r)
        none

/-- What a call does to a driver, and what is reported of it. -/
structure Effect (s : State) (call : Call) (told : List Report) (t : State) : Prop where
  log : t.world.log = s.world.log ++ entries told
  /-- Success is told of, and nothing else. -/
  success : (entries told).filterMap LogEntry.success? = call.success?.toList
  instances : ∀ id, InstanceMove call.success? id (s.standing? id) (about told (.algorithm id))
    (t.standing? id)
  channels : ∀ channel, ChannelMove call.success? call.unflushed? channel (s.path? channel)
    (about told (.channel channel)) (t.path? channel)
  algorithms : s.driver.algorithms.Issuing (call.success?.bind Success.algorithm?)
    t.driver.algorithms
  readFiles : s.driver.readFiles.Issuing (call.success?.bind Success.readFile?) t.driver.readFiles
  writeFiles : s.driver.writeFiles.Issuing (call.success?.bind Success.writeFile?)
    t.driver.writeFiles

/-- The ids that were issued so far. -/
structure Keeps (successes : List Success) (s : State) : Prop where
  algorithms : s.driver.algorithms.Issues (successes.filterMap Success.algorithm?)
  readFiles : s.driver.readFiles.Issues (successes.filterMap Success.readFile?)
  writeFiles : s.driver.writeFiles.Issues (successes.filterMap Success.writeFile?)

section Effects

variable {s t : State} {call : Call} {told : List Report} {successes : List Success}

/-- Nothing becomes of an instance. -/
theorem InstanceMove.still {gain : Option Success} {id : AlgorithmId}
    (unstarted : ∀ name, gain ≠ some (.started name id)) (unkilled : gain ≠ some (.killed id))
    (standing? : Option Standing) : InstanceMove gain id standing? [] standing? := by
  cases standing? with
  | none => exact .missing unstarted unkilled
  | some standing => exact .looks (.same standing) unstarted unkilled

theorem Effect.keeps (effect : Effect s call told t) (keeps : Keeps successes s) :
    Keeps (successes ++ call.success?.toList) t := by
  have new {resource : Resource} (issued? : Success → Option (Id resource)) :
      (successes ++ call.success?.toList).filterMap issued? =
        successes.filterMap issued? ++ (call.success?.bind issued?).toList := by
    rw [List.filterMap_append]
    cases call.success? with
    | none => rfl
    | some success => cases h : issued? success <;> simp [h]
  refine ⟨?_, ?_, ?_⟩
  · rw [new]
    exact keeps.algorithms.step effect.algorithms
  · rw [new]
    exact keeps.readFiles.step effect.readFiles
  · rw [new]
    exact keeps.writeFiles.step effect.writeFiles

/-- Nothing happens to the tables, nor is anything put on record. -/
theorem Effect.still (driver : t.driver = s.driver) (log : t.world.log = s.world.log)
    (success : call.success? = none) (unflushed : call.unflushed? = none) :
    Effect s call [] t := by
  obtain ⟨_, world⟩ := t
  obtain rfl := driver
  refine ⟨?_, ?_, fun id => ?_, fun channel => ?_, ?_, ?_, ?_⟩
  · exact log.trans (List.append_nil _).symm
  · rw [success]
    rfl
  · rw [success, about_nil]
    exact @InstanceMove.still none id nofun nofun _
  · rw [success, unflushed, about_nil]
    exact .stays _ ⟨nofun, nofun, nofun⟩
  all_goals
    rw [success]
    exact .keeps rfl (.refl _)

/-- What is seen through `f` after one entry was changed. -/
theorem map_changed {α β : Type} {P Q : Prop} [Decidable P] [Decidable Q] {f : α → β}
    {found a b : Option α} (changed : found = if P then a else b) (same : P ↔ Q) :
    found.map f = if Q then a.map f else b.map f := by
  rw [changed, apply_ite (Option.map f)]
  exact if_congr same rfl rfl

/-- How instances stand after one of them is noted down. -/
theorem standing?_note {id : AlgorithmId} {i : Instance}
    (found : s.driver.algorithms.get? id = some i) (i' : Instance) (world : World)
    (j : AlgorithmId) :
    State.standing? ⟨{ s.driver with algorithms := s.driver.algorithms.set id i' }, world⟩ j =
      if j = id then some i'.standing else s.standing? j := by
  unfold State.standing?
  rw [Table.get?_set]
  split
  · rename_i same
    rw [same, found]
    rfl
  · rfl

/-- One instance is looked at or killed. -/
theorem Effect.note {id : AlgorithmId} {i i' : Instance} {world : World} {lines : List LogEntry}
    (found : s.driver.algorithms.get? id = some i) (log : world.log = s.world.log ++ lines)
    (success : lines.filterMap LogEntry.success? = call.success?.toList)
    (move : InstanceMove call.success? id (some i.standing) lines (some i'.standing))
    (only : ∀ success, call.success? = some success → success = .killed id)
    (unflushed : call.unflushed? = none) :
    Effect s call [⟨.algorithm id, lines⟩]
      ⟨{ s.driver with algorithms := s.driver.algorithms.set id i' }, world⟩ := by
  have quiet {α : Type} {issued? : Success → Option α} (never : issued? (.killed id) = none) :
      call.success?.bind issued? = none := by
    cases h : call.success? with
    | none => rfl
    | some success =>
      rw [only success h]
      exact never
  refine ⟨?_, ?_, fun j => ?_, fun channel => ?_, ?_, ?_, ?_⟩
  · exact log.trans (congrArg (s.world.log ++ ·) (List.append_nil _).symm)
  · exact (congrArg (List.filterMap LogEntry.success?) (List.append_nil lines)).trans success
  · rw [standing?_note found]
    by_cases same : j = id
    · subst same
      rw [if_pos rfl, about_single_self, State.standing?, found]
      exact move
    · rw [if_neg same, about_single_of_ne fun h => same (Subject.algorithm.inj h).symm]
      refine .still (fun name h => nomatch only _ h) (fun h => ?_) _
      exact same (Success.killed.inj (only _ h))
  · rw [about_single_of_ne Subject.noConfusion, unflushed]
    exact .stays _ ⟨fun path h => (nomatch only _ h), fun h => (nomatch only _ h), nofun⟩
  · rw [quiet rfl]
    refine .keeps rfl ?_
    rw [Table.ids_set]
  · rw [quiet rfl]
    exact .keeps rfl (.refl _)
  · rw [quiet rfl]
    exact .keeps rfl (.refl _)

/-- An instance is registered. -/
theorem Effect.register (keeps : Keeps successes s) (i : Instance) (running : i.status = .running)
    {world : World} (log : world.log = s.world.log)
    (success : call.success? = some (.started i.name (s.driver.register i world).1))
    (unflushed : call.unflushed? = none) :
    Effect s call
      [⟨.algorithm (s.driver.register i world).1,
        [.started i.name (s.driver.register i world).1]⟩]
      ⟨(s.driver.register i world).2.1, (s.driver.register i world).2.2⟩ := by
  refine ⟨?_, ?_, fun j => ?_, fun channel => ?_, ?_, ?_, ?_⟩
  · show world.log ++ _ = _
    rw [log]
    rfl
  · rw [success]
    rfl
  · have now : State.standing? ⟨(s.driver.register i world).2.1, (s.driver.register i world).2.2⟩
        j = if j = (s.driver.register i world).1 then some i.standing else s.standing? j :=
      map_changed (keeps.algorithms.get?_inserted i j) .rfl
    rw [now]
    by_cases same : j = (s.driver.register i world).1
    · have missing : s.standing? j = none := by
        rw [same]
        exact congrArg (Option.map Instance.standing) keeps.algorithms.toIssued.get?_next
      have stands : i.standing = ⟨i.name, .running⟩ := congrArg (Standing.mk i.name) running
      rw [if_pos same, missing, ← same, about_single_self, stands]
      exact .started i.name (same ▸ success)
    · rw [if_neg same, about_single_of_ne fun h => same (Subject.algorithm.inj h).symm, success]
      refine @InstanceMove.still (some (.started i.name (s.driver.register i world).1)) j
        (fun name h => same ?_) (fun h => nomatch h) _
      exact (Success.started.inj (Option.some.inj h)).2.symm
  · rw [about_single_of_ne Subject.noConfusion, unflushed, success]
    exact .stays _ ⟨nofun, nofun, nofun⟩
  · rw [success]
    exact .issues i
  · rw [success]
    exact .keeps rfl (.refl _)
  · rw [success]
    exact .keeps rfl (.refl _)

/-- One channel is opened or closed. -/
theorem Effect.channel {channel : ChannelId} {lines : List LogEntry} {path? : Option String}
    (algorithms : t.driver.algorithms = s.driver.algorithms)
    (log : t.world.log = s.world.log ++ lines)
    (success : lines.filterMap LogEntry.success? = call.success?.toList)
    (move : ChannelMove call.success? call.unflushed? channel (s.path? channel) lines path?)
    (paths : ∀ other, t.path? other = if other = channel then path? else s.path? other)
    (gains : ∀ success, call.success? = some success →
      success = .closed channel ∨ ∃ path, success = .opened path channel)
    (loses : ∀ lost, call.unflushed? = some lost → lost = channel)
    (readFiles : s.driver.readFiles.Issuing (call.success?.bind Success.readFile?)
      t.driver.readFiles)
    (writeFiles : s.driver.writeFiles.Issuing (call.success?.bind Success.writeFile?)
      t.driver.writeFiles) :
    Effect s call [⟨.channel channel, lines⟩] t := by
  have unachieved {success : Success} (unclosed : success ≠ .closed channel)
      (unopened : ∀ path, success ≠ .opened path channel) : call.success? ≠ some success := by
    intro h
    rcases gains success h with closed | ⟨path, opened⟩
    · exact unclosed closed
    · exact unopened path opened
  refine ⟨?_, ?_, fun id => ?_, fun other => ?_, ?_, readFiles, writeFiles⟩
  · exact log.trans (congrArg (s.world.log ++ ·) (List.append_nil _).symm)
  · exact (congrArg (List.filterMap LogEntry.success?) (List.append_nil lines)).trans success
  · have same : t.standing? id = s.standing? id := by
      unfold State.standing?
      rw [algorithms]
    rw [about_single_of_ne Subject.noConfusion, same]
    exact .still (fun _ => unachieved nofun nofun) (unachieved nofun nofun) _
  · rw [paths]
    by_cases same : other = channel
    · rw [if_pos same, same, about_single_self]
      exact move
    · rw [if_neg same, about_single_of_ne fun h => same (Subject.channel.inj h).symm]
      exact .stays _
        { unopened := fun _ => unachieved nofun fun _ h => same (Success.opened.inj h).2
          unclosed := unachieved (fun h => same (Success.closed.inj h)) nofun
          unlost := fun h => same (loses _ h) }
  · have unissued : call.success?.bind Success.algorithm? = none := by
      cases h : call.success? with
      | none => rfl
      | some success =>
        rcases gains success h with rfl | ⟨_, rfl⟩
        · rfl
        · rfl
    rw [unissued, algorithms]
    exact .keeps rfl (.refl _)

/-! ## Instances -/

theorem looks_unsuccessful {standing standing' : Standing} {lines : List LogEntry}
    (looks : standing.Looks lines standing') : lines.filterMap LogEntry.success? = [] := by
  cases looks <;> rfl

theorem dismissed_unsuccessful {id : AlgorithmId} {standing : Standing} {lines : List LogEntry}
    (dismissed : standing.Dismissed id lines) : lines.filterMap LogEntry.success? = [] := by
  cases dismissed <;> rfl

theorem start_effect (keeps : Keeps successes s) (name : String) : ∃ told,
    Effect s (.start name (s.driver.start name s.world).1) told
      (after (s.driver.start name s.world)) := by
  unfold Driver.start
  split
  · exact ⟨[], .still rfl rfl rfl rfl⟩
  · rename_i i world spawned
    obtain ⟨log, stands⟩ := Driver.spawn_log spawned
    refine ⟨_, Effect.register keeps i (congrArg Standing.status stands) log ?_ rfl⟩
    rw [show i.name = name from congrArg Standing.name stands]
    rfl

theorem status_effect (s : State) (id : AlgorithmId) : ∃ told,
    Effect s (.status id (s.driver.status id s.world).1) told
      (after (s.driver.status id s.world)) := by
  unfold Driver.status
  split
  · exact ⟨[], .still rfl rfl rfl rfl⟩
  · rename_i i found
    obtain ⟨lines, log, looks⟩ := i.poll_looks s.world
    exact ⟨_, .note found log (looks_unsuccessful looks)
      (.looks looks (fun _ h => nomatch h) (fun h => nomatch h)) (fun _ h => nomatch h) rfl⟩

theorem kill_effect (s : State) (id : AlgorithmId) {meanwhile : World → World}
    (silent : World.Silent meanwhile) : ∃ told,
    Effect s (.kill id (s.driver.kill id s.world meanwhile).1) told
      (after (s.driver.kill id s.world meanwhile)) := by
  unfold Driver.kill
  split
  · exact ⟨[], .still rfl rfl rfl rfl⟩
  · rename_i i found
    have killed := i.kill_cases id s.world silent
    generalize i.kill id s.world meanwhile = outcome at killed
    cases killed with
    | @sent i' world running log stands =>
      have before : i.standing = ⟨i.name, .running⟩ := congrArg (Standing.mk i.name) running
      have log' : (world.record (.killed id)).log =
          s.world.log ++ [.signalled i.name, .killed id] := by
        rw [World.record_log, log, List.append_assoc]
        rfl
      refine ⟨_, .note found log' rfl ?_ ?_ rfl⟩
      · rw [before, stands]
        exact .killed i.name rfl
      · exact fun success h => (Option.some.inj h).symm
    | late _ log looks =>
      exact ⟨_, .note found log (looks_unsuccessful looks)
        (.looks looks (fun _ h => nomatch h) (fun h => nomatch h)) (fun _ h => nomatch h) rfl⟩

/-- Giving out the input of an instance is not put on record. -/
theorem inputPipe_effect (s : State) (id : AlgorithmId) : ∃ told,
    Effect s .other told (after (s.driver.inputPipe id s.world)) := by
  unfold Driver.inputPipe
  split
  · exact ⟨[], .still rfl rfl rfl rfl⟩
  · rename_i i found
    have same : (i.inputPipe s.world).2.1.standing = i.standing ∧
        (i.inputPipe s.world).2.2.log = s.world.log := by
      rcases i.inputPipe_cases s.world with ⟨_, _, answer⟩ | ⟨w, _, _, answer⟩ | answer
      · rw [answer]
        exact ⟨rfl, rfl⟩
      · rw [answer]
        exact ⟨rfl, World.holdSink_log _ w⟩
      · rw [answer]
        exact ⟨rfl, rfl⟩
    have log := same.2.trans (List.append_nil _).symm
    refine ⟨_, .note found log rfl ?_ (fun _ h => nomatch h) rfl⟩
    rw [same.1]
    exact .looks (.same _) (fun _ h => nomatch h) (fun h => nomatch h)

theorem outputPipe_effect (s : State) (id : AlgorithmId) :
    Effect s .other [] (after (s.driver.outputPipe id s.world)) := by
  exact .still (s.driver.outputPipe_driver id s.world)
    (s.driver.outputPipe_world id s.world (P := (·.log = s.world.log)) rfl
      (World.holdSource_log s.world)) rfl rfl

/-- Each instance is looked at and reported on. -/
theorem polls_reports {meanwhile : World → World} (silent : World.Silent meanwhile)
    (items : List (Nat × Instance)) (state : List AlgorithmId × World) : ∃ told,
    (Table.mapAccum.go (Driver.pollNext meanwhile) state items).2.2.log =
      state.2.log ++ entries told ∧
    Covers Subject.algorithm (fun id i lines => ∃ i',
      (id.raw, i') ∈ (Table.mapAccum.go (Driver.pollNext meanwhile) state items).1 ∧
        i.standing.Looks lines i'.standing) (items.map fun (raw, i) => (⟨raw⟩, i)) told := by
  induction items generalizing state with
  | nil => exact ⟨[], (List.append_nil _).symm, .nil⟩
  | cons item items ih =>
    obtain ⟨raw, i⟩ := item
    obtain ⟨lines, log, looks⟩ := i.poll_looks (meanwhile state.2)
    obtain ⟨told, log', covers⟩ := ih (Driver.pollNext meanwhile state ⟨raw⟩ i).2
    refine ⟨⟨.algorithm ⟨raw⟩, lines⟩ :: told, ?_, .cons ⟨rfl, _, List.mem_cons_self, looks⟩ ?_⟩
    · refine log'.trans ?_
      show (i.poll (meanwhile state.2)).2.log ++ _ = _
      rw [log, silent, List.append_assoc]
      rfl
    · refine covers.imp fun item report holds => ?_
      obtain ⟨same, i', mem, looks⟩ := holds
      exact ⟨same, i', List.mem_cons_of_mem _ mem, looks⟩

theorem pollAll_reports {meanwhile : World → World} (silent : World.Silent meanwhile)
    {table : Table .algorithm Instance} (apart : table.ids.Nodup) (world : World) : ∃ told,
    (Driver.pollAll table world meanwhile).2.2.log = world.log ++ entries told ∧
    Covers Subject.algorithm (fun id i lines => ∃ i',
      (Driver.pollAll table world meanwhile).2.1.get? id = some i' ∧
        i.standing.Looks lines i'.standing) table.toList told := by
  obtain ⟨told, log, covers⟩ := polls_reports silent table.entries ([], world)
  -- An entry is found under its id only because the ids are distinct, which the new table inherits.
  refine ⟨told, log, covers.imp fun item report holds => ?_⟩
  obtain ⟨same, i', mem, looks⟩ := holds
  refine ⟨same, i', (Table.mem_entries_iff (Table.keys_nodup ?_) _ _).1 mem, looks⟩
  show (table.mapAccum (Driver.pollNext meanwhile) ([], world)).1.ids.Nodup
  rw [Table.ids_mapAccum]
  exact apart

theorem openHandles_effect (keeps : Keeps successes s) {meanwhile : World → World}
    (silent : World.Silent meanwhile) : ∃ told,
    Effect s (.openHandles (s.driver.openHandles s.world meanwhile).1) told
      (after (s.driver.openHandles s.world meanwhile)) := by
  have apart := keeps.algorithms.apart
  obtain ⟨told, log, covers⟩ := pollAll_reports silent apart s.world
  refine ⟨told, log, ?_, fun id => ?_, fun channel => ?_, ?_, .keeps rfl (.refl _),
    .keeps rfl (.refl _)⟩
  · exact covers.unsuccessful fun _ _ _ ⟨_, _, looks⟩ => looks_unsuccessful looks
  · rcases covers.of_table apart (fun _ _ => Subject.algorithm.inj) id with
      ⟨missing, nothing⟩ | ⟨i, found, i', found', looks⟩
    · have missing' : (after (s.driver.openHandles s.world meanwhile)).standing? id = none :=
        congrArg (Option.map Instance.standing) (Table.mapAccum_get?_none _ _ missing)
      rw [nothing, missing', State.standing?, missing]
      exact .missing nofun nofun
    · have stands : (after (s.driver.openHandles s.world meanwhile)).standing? id =
          some i'.standing := congrArg (Option.map Instance.standing) found'
      rw [stands, State.standing?, found]
      exact .looks looks nofun nofun
  · rw [covers.about_eq_nil fun _ _ => Subject.noConfusion]
    exact .stays _ ⟨nofun, nofun, nofun⟩
  · refine .keeps rfl ?_
    show (s.driver.algorithms.mapAccum (Driver.pollNext meanwhile) ([], s.world)).1.ids.Sublist _
    rw [Table.ids_mapAccum]

/-! ## Channels -/

/-- The paths of the channels after one to read from was opened. -/
theorem path?_openedRead (keeps : Keeps successes s) (channel : Channel ReadHandle) (world : World)
    (other : ChannelId) :
    State.path? ⟨{ s.driver with readFiles := (s.driver.readFiles.insert channel).2 }, world⟩
      other = if other = .read (s.driver.readFiles.insert channel).1 then some channel.path
        else s.path? other := by
  cases other with
  | write id => rfl
  | read id =>
    exact map_changed (keeps.readFiles.get?_inserted channel id) (by rw [ChannelId.read.injEq])

theorem path?_openedWrite (keeps : Keeps successes s) (channel : Channel WriteHandle)
    (world : World) (other : ChannelId) :
    State.path? ⟨{ s.driver with writeFiles := (s.driver.writeFiles.insert channel).2 }, world⟩
      other = if other = .write (s.driver.writeFiles.insert channel).1 then some channel.path
        else s.path? other := by
  cases other with
  | read id => rfl
  | write id =>
    exact map_changed (keeps.writeFiles.get?_inserted channel id) (by rw [ChannelId.write.injEq])

/-- The paths of the channels after one to read from was taken out. -/
theorem path?_closedRead (s : State) (id : ReadFileId) (world : World) (other : ChannelId) :
    State.path? ⟨{ s.driver with readFiles := s.driver.readFiles.remove id }, world⟩ other =
      if other = .read id then none else s.path? other := by
  cases other with
  | write _ => rfl
  | read other => exact map_changed (Table.get?_remove _ id other) (by rw [ChannelId.read.injEq])

theorem path?_closedWrite (s : State) (id : WriteFileId) (world : World) (other : ChannelId) :
    State.path? ⟨{ s.driver with writeFiles := s.driver.writeFiles.remove id }, world⟩ other =
      if other = .write id then none else s.path? other := by
  cases other with
  | read _ => rfl
  | write other => exact map_changed (Table.get?_remove _ id other) (by rw [ChannelId.write.injEq])

theorem openRead_effect (keeps : Keeps successes s) (path : String) : ∃ told,
    Effect s (.openRead path (s.driver.openRead path s.world).1) told
      (after (s.driver.openRead path s.world)) := by
  unfold Driver.openRead
  split
  · exact ⟨[], .still rfl rfl rfl rfl⟩
  · rename_i channel world acquired
    obtain ⟨log, same⟩ := Driver.acquireRead_log acquired
    have missing : s.path? (.read (s.driver.readFiles.insert channel).1) = none :=
      congrArg (Option.map Channel.path) keeps.readFiles.toIssued.get?_next
    let id := (s.driver.readFiles.insert channel).1
    have log' : (world.record (.opened channel.path (.read id))).log =
        s.world.log ++ [.opened path (.read id)] := by
      rw [World.record_log, log, same]
    refine ⟨_, .channel rfl log' rfl ?_ (path?_openedRead keeps channel _) ?_ nofun
      (.issues channel) (.keeps rfl (.refl _))⟩
    · rw [missing, same]
      exact .opened path rfl rfl
    · exact fun success h => .inr ⟨path, (Option.some.inj h).symm⟩

theorem openWrite_effect (keeps : Keeps successes s) (path : String) : ∃ told,
    Effect s (.openWrite path (s.driver.openWrite path s.world).1) told
      (after (s.driver.openWrite path s.world)) := by
  unfold Driver.openWrite
  split
  · exact ⟨[], .still rfl rfl rfl rfl⟩
  · rename_i channel world acquired
    obtain ⟨log, same⟩ := Driver.acquireWrite_log acquired
    have missing : s.path? (.write (s.driver.writeFiles.insert channel).1) = none :=
      congrArg (Option.map Channel.path) keeps.writeFiles.toIssued.get?_next
    let id := (s.driver.writeFiles.insert channel).1
    have log' : (world.record (.opened channel.path (.write id))).log =
        s.world.log ++ [.opened path (.write id)] := by
      rw [World.record_log, log, same]
    refine ⟨_, .channel rfl log' rfl ?_ (path?_openedWrite keeps channel _) ?_ nofun
      (.keeps rfl (.refl _)) (.issues channel)⟩
    · rw [missing, same]
      exact .opened path rfl rfl
    · exact fun success h => .inr ⟨path, (Option.some.inj h).symm⟩

theorem closeRead_effect (s : State) (id : ReadFileId) : ∃ told,
    Effect s (.closeRead id (s.driver.closeRead id s.world).1) told
      (after (s.driver.closeRead id s.world)) := by
  unfold Driver.closeRead
  split
  · exact ⟨[], .still rfl rfl rfl rfl⟩
  · rename_i channel found
    have known : s.path? (.read id) = some channel.path := congrArg (Option.map Channel.path) found
    have log : (((s.world.closeSource channel.pipe).dropSource channel.pipe).record
        (.closed (.read id) channel.path)).log =
          s.world.log ++ [.closed (.read id) channel.path] := by
      rw [World.record_log, World.dropSource_log, World.closeSource_log]
    refine ⟨_, .channel rfl log rfl ?_ (path?_closedRead s id _) ?_ nofun
      (.keeps rfl (Table.ids_remove_sublist _ id)) (.keeps rfl (.refl _))⟩
    · rw [known]
      exact .closed channel.path rfl rfl
    · exact fun success h => .inl (Option.some.inj h).symm

theorem closeWrite_effect (s : State) (id : WriteFileId) : ∃ told,
    Effect s (.closeWrite id (s.driver.closeWrite id s.world).1) told
      (after (s.driver.closeWrite id s.world)) := by
  unfold Driver.closeWrite
  split
  · exact ⟨[], .still rfl rfl rfl rfl⟩
  · rename_i channel found
    have known : s.path? (.write id) = some channel.path := congrArg (Option.map Channel.path) found
    have log := World.closeSink_log s.world channel.pipe
    rcases closed : s.world.closeSink channel.pipe with ⟨r, world⟩
    rw [closed] at log
    have gone := path?_closedWrite s id
    have shorter := Table.ids_remove_sublist s.driver.writeFiles id
    cases r with
    | error e =>
      have log' : (world.dropSink channel.pipe).log = s.world.log ++ [] := by
        rw [World.dropSink_log, log, List.append_nil]
      refine ⟨_, .channel rfl log' rfl ?_ (gone _) nofun ?_ (.keeps rfl (.refl _))
        (.keeps rfl shorter)⟩
      · rw [known]
        exact .unflushed channel.path rfl rfl
      · exact fun lost h => (Option.some.inj h).symm
    | ok _ =>
      have log' : ((world.dropSink channel.pipe).record (.closed (.write id) channel.path)).log =
          s.world.log ++ [.closed (.write id) channel.path] := by
        rw [World.record_log, World.dropSink_log, log]
      refine ⟨_, .channel rfl log' rfl ?_ (gone _) ?_ nofun (.keeps rfl (.refl _))
        (.keeps rfl shorter)⟩
      · rw [known]
        exact .closed channel.path rfl rfl
      · exact fun success h => .inl (Option.some.inj h).symm

/-! ## Everything -/

theorem TearsDown.dismisses {items : List (AlgorithmId × Instance)} {world final : World}
    (torn : TearsDown Dismisses items world final) : ∃ told,
    final.log = world.log ++ entries told ∧
      (entries told).filterMap LogEntry.success? = [] ∧
      Covers Subject.algorithm (fun id i lines => i.standing.Dismissed id lines) items told := by
  have each (id : AlgorithmId) (i : Instance) (before after : World)
      (gone : Dismisses id i before after) : ∃ lines,
      after.log = before.log ++ lines ∧ i.standing.Dismissed id lines := by
    obtain ⟨meanwhile, silent, rfl⟩ := gone
    exact Driver.tearDownInstance_dismissed i before silent
  obtain ⟨told, log, covers⟩ := torn.reports Subject.algorithm each
  exact ⟨told, log, covers.unsuccessful fun _ _ _ => dismissed_unsuccessful, covers⟩

theorem TearsDown.shutsRead {items : List (ReadFileId × Channel ReadHandle)} {world final : World}
    (torn : TearsDown ShutsRead items world final) : ∃ told,
    final.log = world.log ++ entries told ∧
      (entries told).filterMap LogEntry.success? = [] ∧
      Covers (fun id => .channel (.read id))
        (fun id channel lines => lines = [.closingLeftover (.read id) channel.path])
        items told := by
  have each (id : ReadFileId) (channel : Channel ReadHandle) (before after : World)
      (shut : ShutsRead id channel before after) : ∃ lines, after.log = before.log ++ lines ∧
      lines = [.closingLeftover (.read id) channel.path] :=
    ⟨_, shut ▸ Driver.tearDownRead_log id channel before, rfl⟩
  obtain ⟨told, log, covers⟩ := torn.reports (fun id => .channel (.read id)) each
  refine ⟨told, log, covers.unsuccessful ?_, covers⟩
  rintro _ _ _ rfl
  rfl

theorem TearsDown.shutsWrite {items : List (WriteFileId × Channel WriteHandle)}
    {world final : World} (torn : TearsDown ShutsWrite items world final) : ∃ told,
    final.log = world.log ++ entries told ∧
      (entries told).filterMap LogEntry.success? = [] ∧
      Covers (fun id => .channel (.write id))
        (fun id channel lines =>
          ∃ r, lines = .closingLeftover (.write id) channel.path :: Driver.flaw id r)
        items told := by
  have each (id : WriteFileId) (channel : Channel WriteHandle) (before after : World)
      (shut : ShutsWrite id channel before after) : ∃ lines, after.log = before.log ++ lines ∧
      ∃ r, lines = .closingLeftover (.write id) channel.path :: Driver.flaw id r := by
    obtain ⟨r, log⟩ := Driver.tearDownWrite_log id channel before
    exact ⟨_, shut ▸ log, r, rfl⟩
  obtain ⟨told, log, covers⟩ := torn.reports (fun id => .channel (.write id)) each
  refine ⟨told, log, covers.unsuccessful ?_, covers⟩
  rintro _ _ _ ⟨r, rfl⟩
  cases r <;> rfl

/-- Everything is closed, and reported on table by table. -/
theorem closeAll_effect (keeps : Keeps successes s) (closes : ClosesAll s t) : ∃ told,
    Effect s .closeAll told t := by
  obtain ⟨afterInstances, afterReads, instances, reads, writes⟩ := closes.worlds
  obtain ⟨told₁, log₁, quiet₁, covers₁⟩ := instances.dismisses
  obtain ⟨told₂, log₂, quiet₂, covers₂⟩ := reads.shutsRead
  obtain ⟨told₃, log₃, quiet₃, covers₃⟩ := writes.shutsWrite
  obtain ⟨driver, world⟩ := t
  obtain rfl : driver = _ := closes.driver
  refine ⟨told₁ ++ (told₂ ++ told₃), ?_, ?_, fun id => ?_, fun channel => ?_, ?_, ?_, ?_⟩
  · rw [log₃, log₂, log₁, entries_append, entries_append, List.append_assoc, List.append_assoc]
  · rw [entries_append, entries_append, List.filterMap_append, List.filterMap_append, quiet₁,
      quiet₂, quiet₃]
    rfl
  -- What is said about an instance or a channel is said when its own table is emptied.
  · rw [about_append, about_append, covers₂.about_eq_nil fun _ _ => Subject.noConfusion,
      covers₃.about_eq_nil fun _ _ => Subject.noConfusion, List.append_nil, List.append_nil]
    rcases covers₁.of_table keeps.algorithms.apart (fun _ _ => Subject.algorithm.inj) id with
      ⟨missing, nothing⟩ | ⟨i, found, dismissed⟩
    · rw [nothing, State.standing?, missing]
      exact .missing nofun nofun
    · rw [State.standing?, found]
      exact .dismissed dismissed nofun nofun
  · rw [about_append, about_append, covers₁.about_eq_nil fun _ _ => Subject.noConfusion,
      List.nil_append]
    cases channel with
    | read id =>
      have writing : about told₃ (.channel (.read id)) = [] :=
        covers₃.about_eq_nil fun _ _ h => ChannelId.noConfusion (Subject.channel.inj h)
      rw [writing, List.append_nil]
      rcases covers₂.of_table keeps.readFiles.apart
        (fun _ _ h => ChannelId.read.inj (Subject.channel.inj h)) id with
        ⟨missing, nothing⟩ | ⟨channel, found, said⟩
      · rw [nothing, State.path?, missing]
        exact .stays _ ⟨nofun, nofun, nofun⟩
      · rw [said, State.path?, found]
        exact .leftOver channel.path (.ok ()) ⟨nofun, nofun, nofun⟩
    | write id =>
      have reading : about told₂ (.channel (.write id)) = [] :=
        covers₂.about_eq_nil fun _ _ h => ChannelId.noConfusion (Subject.channel.inj h)
      rw [reading, List.nil_append]
      rcases covers₃.of_table keeps.writeFiles.apart
        (fun _ _ h => ChannelId.write.inj (Subject.channel.inj h)) id with
        ⟨missing, nothing⟩ | ⟨channel, found, r, said⟩
      · rw [nothing, State.path?, missing]
        exact .stays _ ⟨nofun, nofun, nofun⟩
      · rw [said, State.path?, found]
        exact .leftOver channel.path r ⟨nofun, nofun, nofun⟩
  · exact .keeps rfl (List.nil_sublist _)
  · exact .keeps rfl (List.nil_sublist _)
  · exact .keeps rfl (List.nil_sublist _)

/-! ## Steps -/

theorem Step.effect (step : Step s call t) (keeps : Keeps successes s) :
    ∃ told, Effect s call told t := by
  cases step with
  | start name => exact start_effect keeps name
  | status id => exact status_effect s id
  | kill id silent => exact kill_effect s id silent
  | inputPipe id => exact inputPipe_effect s id
  | outputPipe id => exact ⟨[], outputPipe_effect s id⟩
  | openRead path => exact openRead_effect keeps path
  | readPipe id =>
    refine ⟨[], .still rfl ?_ rfl rfl⟩
    show (s.driver.readPipe id s.world).2.log = _
    unfold Driver.readPipe
    split
    · rfl
    · exact World.holdSource_log _ _
  | closeRead id => exact closeRead_effect s id
  | openWrite path => exact openWrite_effect keeps path
  | writePipe id =>
    refine ⟨[], .still rfl ?_ rfl rfl⟩
    show (s.driver.writePipe id s.world).2.log = _
    unfold Driver.writePipe
    split
    · rfl
    · exact World.holdSink_log _ _
  | closeWrite id => exact closeWrite_effect s id
  | openHandles silent => exact openHandles_effect keeps silent
  | closeAll closes => exact closeAll_effect keeps closes
  | elsewhere silent => exact ⟨[], .still rfl silent rfl rfl⟩

end Effects

end Audit

end AlgorithmDriver

import AlgorithmDriver.Proofs.Driver.Stage

/-!
# How instances end

A process outlives the driver's interest in it unless somebody waits for it.  Here every instance on
a stage is accounted for, whether it is in the table, on its way into it or being ended.

* `Instance.Accounted` is what is known of an instance: what was noted about it is true, an instance
  that is noted to have exited was waited for, and a killed one is doomed.
* Looking, signalling and waiting keep this (`Accounted.poll`, `Accounted.signal`,
  `Accounted.reap`), and so does every step on stage (`Stage.Step.accounted`).
* An instance that is being ended has been waited for when that is over
  (`Departure.Ready`, `Stage.Run.accounted`).
-/

namespace AlgorithmDriver

/-! ## Looking -/

namespace Instance

/-! ## Accounts -/

/-- An instance keeps its process when it is looked at. -/
theorem poll_process (i : Instance) (world : World) : (i.poll world).1.process = i.process := by
  rcases i.poll_spec world with same | ⟨_, _, _, ⟨_, looked⟩ | ⟨_, looked⟩⟩
  · rw [same]
  · rw [looked]
  · rw [looked]
    rfl

/-- What is known of an instance. -/
structure Accounted (i : Instance) (world : World) (deeds : List Deed) : Prop
    extends i.Sound world where
  started : ∃ p, world.host.process? i.process = some p
  noticed : ∀ code, i.status = .exited code → i.reaped = true
  doomed : i.status = .killed → world.host.Doomed i.process ∧ .signalled i.process ∈ deeds
  waited : i.reaped = true → ∃ p, world.host.process? i.process = some p ∧ p.reaped = true ∧
    ∃ status, p.activity = .ended status

namespace Accounted

variable {i : Instance} {world after : World} {deeds : List Deed}

theorem ahead (accounted : i.Accounted world deeds) (ahead : world.Ahead after) :
    i.Accounted after deeds where
  toSound := accounted.toSound.later ahead.later
  started := by
    obtain ⟨p, found⟩ := accounted.started
    exact ahead.onward.process? found
  noticed := accounted.noticed
  doomed killed :=
    ⟨(accounted.doomed killed).1.later ahead.later ahead.onward, (accounted.doomed killed).2⟩
  waited reaped := by
    obtain ⟨p, found, told, status, ended⟩ := accounted.waited reaped
    obtain ⟨q, found', kept⟩ := ahead.onward.processes _ p found
    obtain ⟨q', found'', ended'⟩ := ahead.later _ status ⟨p, found, ended⟩
    obtain rfl := Option.some.inj (found'.symm.trans found'')
    exact ⟨q, found', kept.reaped told, status, ended'⟩

/-- An instance that was just started. -/
theorem of_start {name : String} {command : Command} {policy : ErrorPolicy}
    (started : Instance.start name command policy world = .ok (i, after)) (deeds : List Deed) :
    i.Accounted after deeds := by
  obtain ⟨-, errors, host, program, _, -, rfl, rfl⟩ := Instance.start_eq_ok_iff.1 started
  exact ⟨.of_running rfl rfl, ⟨_, List.getElem?_concat_length⟩, fun _ h => (nomatch h),
    fun h => (nomatch h), fun h => (nomatch h)⟩

theorem append (accounted : i.Accounted world deeds) (later : List Deed) :
    i.Accounted world (deeds ++ later) :=
  { accounted with
    doomed := fun killed => ⟨(accounted.doomed killed).1,
      List.mem_append_left _ (accounted.doomed killed).2⟩ }

/-- Whoever is told how a process ended has waited for it. -/
theorem told {n : Nat} {host : Host} {status : ExitStatus}
    (answer : (host.tryWait n).1 = some status) :
    (host.tryWait n).2.HasEnded n status ∧ ∃ p, (host.tryWait n).2.process? n = some p ∧
      p.reaped = true ∧ ∃ status, p.activity = .ended status := by
  obtain ⟨q, found', ended⟩ := (Host.tryWait_sameActivities host n).later n status
    (Host.hasEnded_of_tryWait answer)
  obtain ⟨p, found, reaped⟩ := Host.reaped_tryWait answer
  obtain rfl := Option.some.inj (found'.symm.trans found)
  exact ⟨⟨q, found', ended⟩, q, found', reaped, status, ended⟩

theorem poll (accounted : i.Accounted world deeds) :
    (i.poll world).1.Accounted (i.poll world).2 deeds := by
  have ahead : world.Ahead { world with host := (world.host.tryWait i.process).2 } :=
    ⟨(Host.tryWait_sameActivities world.host i.process).later,
      Host.tryWait_onward world.host i.process⟩
  rcases i.poll_spec world with same | ⟨status, _, answer, ⟨stopped, looked⟩ | ⟨_, looked⟩⟩
  · rw [same]
    exact accounted
  · rw [looked]
    have kept := accounted.ahead ahead
    exact ⟨⟨fun running => absurd running stopped, kept.exited, kept.known⟩, kept.started,
      fun _ _ => rfl, kept.doomed, fun _ => (told answer).2⟩
  · rw [looked]
    obtain ⟨ended, p, found, reaped, gone⟩ := told answer
    have exited : (({ i with reaped := true } : Instance).terminate (.exited status.code)
        world).1.Accounted (({ world with host := (world.host.tryWait i.process).2 } : World).record
          (.exited i.name status.code)) deeds :=
      ⟨⟨fun h => (nomatch h), fun code h => ⟨status, ended, (Status.exited.inj h).symm⟩,
        fun h => (nomatch h)⟩, ⟨p, found⟩, fun _ _ => rfl, fun h => (nomatch h),
        fun _ => ⟨p, found, reaped, gone⟩⟩
    exact exited.ahead ⟨releasePipes_later _ _, releasePipes_onward _ _⟩

/-- Handing out the input changes nothing of that. -/
theorem inputPipe (accounted : i.Accounted world deeds) :
    (i.inputPipe world).2.1.Accounted world deeds := by
  refine i.inputPipe_instance world (P := (·.Accounted world deeds)) accounted fun w => ?_
  exact ⟨⟨accounted.running, accounted.exited, accounted.known⟩, accounted.started,
    accounted.noticed, accounted.doomed, accounted.waited⟩

theorem signal (accounted : i.Accounted world deeds) (running : i.status = .running) :
    (i.signal world).1.Accounted (i.signal world).2 (deeds ++ [.signalled i.process]) := by
  obtain ⟨p, found⟩ := accounted.started
  have sent := Host.doomed_send found
  have stays := Host.send_onward world.host i.process Signal.kill
  obtain ⟨q, found'⟩ := stays.process? found
  have fresh := accounted.running running
  have killed : (i.terminate .killed world).1.Accounted
      (({ world with host := world.host.send i.process Signal.kill } : World).record
        (.signalled i.name)) (deeds ++ [.signalled i.process]) :=
    ⟨⟨fun h => (nomatch h), fun _ h => (nomatch h), fun h => (nomatch h)⟩, ⟨q, found'⟩,
      fun _ h => (nomatch h), fun _ => ⟨sent, List.mem_append_right _ (List.mem_singleton_self _)⟩,
      fun h => absurd (fresh.symm.trans h) Bool.false_ne_true⟩
  exact killed.ahead ⟨releasePipes_later _ _, releasePipes_onward _ _⟩

/-- An instance that is not running is waited for. -/
theorem reap (accounted : i.Accounted world deeds) (stopped : i.status ≠ .running) :
    (i.reap world).1.Accounted (i.reap world).2 deeds ∧ (i.reap world).1.reaped = true ∧
      (i.reap world).1.status = i.status := by
  rcases i.reap_spec world with
    ⟨reaped, same⟩ | ⟨unreaped, silent, _⟩ | ⟨_, answer, ⟨_, same⟩ | ⟨running, _⟩⟩
  · rw [same]
    exact ⟨accounted, reaped, rfl⟩
  · -- An instance that was not waited for yet was killed, and so there is an answer.
    have killed : i.status = .killed := by
      cases status : i.status with
      | running => exact absurd status stopped
      | exited code => exact absurd (accounted.noticed code status) (by simp [unreaped])
      | killed => rfl
      | notFound => exact absurd status accounted.known
    obtain ⟨status, answer⟩ := Host.tryWait_of_doomed (accounted.doomed killed).1
    rw [silent] at answer
    cases answer
  · rw [same]
    have ahead : world.Ahead
        { world with host := ((world.host.deliver i.process).tryWait i.process).2 } :=
      ⟨(Host.deliver_later world.host i.process).trans
          (Host.tryWait_sameActivities _ i.process).later,
        (Host.deliver_onward world.host i.process).trans (Host.tryWait_onward _ i.process)⟩
    have kept := accounted.ahead ahead
    exact ⟨⟨⟨fun running => absurd running stopped, kept.exited, kept.known⟩, kept.started,
      fun _ _ => rfl, kept.doomed, fun _ => (told answer).2⟩, rfl, rfl⟩
  · exact absurd running stopped

end Accounted

end Instance

/-! ## Departures -/

namespace Departure

variable {d d' : Departure} {world : World} {deeds : List Deed}

/-- What is known of an instance that is being ended, according to what comes next. -/
def Ready (d : Departure) : Prop :=
  match d.duty with
  | .look => True
  | .kill | .signal => d.i.status = .running
  | .confirm => d.i.status = .killed
  | .decide | .reap => d.i.status ≠ .running
  | .release => d.i.status ≠ .running ∧ d.i.reaped = true

theorem settle_ahead (d : Departure) (world : World) : world.Ahead (d.settle world).2 := by
  unfold settle
  split
  · exact ⟨d.i.signal_later world, d.i.signal_onward world⟩
  · exact ⟨d.i.reap_later world, d.i.reap_onward world⟩
  · exact ⟨d.i.poll_later world, d.i.poll_onward world⟩

theorem next_ahead (d : Departure) (world : World) : world.Ahead (d.next world).2 := by
  rcases d.next_cases world with ⟨_, next⟩ | ⟨_, next⟩
  · rw [next]
    exact ⟨d.i.releasePipes_later world, d.i.releasePipes_onward world⟩
  · rw [next]
    exact d.settle_ahead world

/-- An instance that is being ended stays accounted for, and ready for what comes next. -/
theorem settle_ready (accounted : d.i.Accounted world deeds) (ready : d.Ready)
    (more : d.duty ≠ .release) :
    Ready { d with i := (d.settle world).1, duty := d.duty.next (d.settle world).1.status } ∧
      (d.settle world).1.Accounted (d.settle world).2
        (deeds ++ [if d.duty = .signal then .signalled d.i.process else .silent]) := by
  obtain ⟨id, i, duty⟩ := d
  have looked := accounted.poll
  have stays := (i.poll_looked world).status_of_stopped
  cases duty with
  | look =>
    refine ⟨?_, looked.append _⟩
    by_cases running : (i.poll world).1.status = .running <;>
      simp [Ready, Duty.next, settle, running]
  | kill =>
    refine ⟨?_, looked.append _⟩
    by_cases running : (i.poll world).1.status = .running <;>
      simp [Ready, Duty.next, settle, running]
  | signal => exact ⟨rfl, accounted.signal ready⟩
  | confirm =>
    have killed : i.status = .killed := ready
    refine ⟨?_, looked.append _⟩
    show (i.poll world).1.status ≠ .running
    rw [stays (by rw [killed]; decide), killed]
    decide
  | decide =>
    have stopped : i.status ≠ .running := ready
    refine ⟨?_, looked.append _⟩
    have known := looked.known
    have same : (i.poll world).1.status = i.status := stays stopped
    rw [same] at known
    cases status : i.status with
    | running => exact absurd status stopped
    | notFound => exact absurd status known
    | exited code => simp [Ready, Duty.next, settle, same, status, Status.isTerminal]
    | killed => simp [Ready, Duty.next, settle, same, status, Status.isTerminal]
  | reap =>
    have stopped : i.status ≠ .running := ready
    obtain ⟨kept, reaped, same⟩ := accounted.reap stopped
    refine ⟨⟨?_, reaped⟩, kept.append _⟩
    show (i.reap world).1.status ≠ .running
    rw [same]
    exact stopped
  | release => exact absurd rfl more

end Departure

namespace Stage

variable {s t : Stage} {deed : Deed} {deeds : List Deed}

/-! ## Runs -/

/-- No step takes anything back. -/
theorem Step.ahead (step : Step s deed t) : s.world.Ahead t.world := by
  cases step with
  | spawn spawned =>
    obtain ⟨command, started⟩ := Driver.spawn_start spawned
    exact ⟨(Instance.start_later started).1, Instance.start_onward started⟩
  | @look id i found => exact ⟨i.poll_later _, i.poll_onward _⟩
  | @signal id i found _ => exact ⟨i.signal_later _, i.signal_onward _⟩
  | inputPipe id =>
    exact s.driver.inputPipe_world id s.world (.refl _) fun w =>
      ⟨World.holdSink_later _ w, World.holdSink_onward _ w⟩
  | outputPipe id =>
    exact s.driver.outputPipe_world id s.world (.refl _) fun r =>
      ⟨World.holdSource_later _ r, World.holdSource_onward _ r⟩
  | @depart d _ _ _ => exact d.next_ahead s.world
  | @depose d _ _ => exact d.next_ahead s.world
  | acquireRead opened =>
    exact ⟨Driver.acquireRead_later opened, Driver.acquireRead_onward opened⟩
  | @releaseRead c _ =>
    exact ⟨(World.closeSource_later _ c.value.pipe).trans (World.dropSource_later _ _),
      (World.closeSource_onward _ c.value.pipe).trans (World.dropSource_onward _ _)⟩
  | acquireWrite opened =>
    exact ⟨Driver.acquireWrite_later opened, Driver.acquireWrite_onward opened⟩
  | @releaseWrite c _ =>
    exact ⟨(World.closeSink_later _ c.value.pipe).trans (World.dropSink_later _ _),
      (World.closeSink_onward _ c.value.pipe).trans (World.dropSink_onward _ _)⟩
  | lendRead _ => exact ⟨World.holdSource_later _ _, World.holdSource_onward _ _⟩
  | lendWrite _ => exact ⟨World.holdSink_later _ _, World.holdSink_onward _ _⟩
  | holdSource _ => exact ⟨World.holdSource_later _ _, World.holdSource_onward _ _⟩
  | dropSource _ => exact ⟨World.dropSource_later _ _, World.dropSource_onward _ _⟩
  | closeSource _ => exact ⟨World.closeSource_later _ _, World.closeSource_onward _ _⟩
  | read _ done => exact ⟨World.read_later done, World.read_onward done⟩
  | holdSink _ => exact ⟨World.holdSink_later _ _, World.holdSink_onward _ _⟩
  | dropSink _ => exact ⟨World.dropSink_later _ _, World.dropSink_onward _ _⟩
  | closeSink _ => exact ⟨World.closeSink_later _ _, World.closeSink_onward _ _⟩
  | write _ done => exact ⟨World.write_later done, World.write_onward done⟩
  | flush _ => exact ⟨World.flush_later _ _, World.flush_onward _ _⟩
  | elsewhere elsewhere => exact elsewhere.toAhead
  | register _ | takeInstances | registerRead _ | takeRead _ | takeReads | registerWrite _
    | takeWrite _ | takeWrites | record _ => exact ⟨.refl _, .refl _⟩

/-- Every instance is accounted for. -/
structure Accounted (deeds : List Deed) (s : Stage) : Prop where
  instances : ∀ i ∈ s.instances, i.Accounted s.world deeds
  leaving : ∀ d ∈ s.leaving, d.Ready

/-- No instance is added. -/
theorem Accounted.still (accounted : s.Accounted deeds) (ahead : s.world.Ahead t.world)
    (instances : ∀ i ∈ t.instances, i ∈ s.instances) (leaving : t.leaving ⊆ s.leaving) :
    t.Accounted (deeds ++ [deed]) where
  instances i mem := ((accounted.instances i (instances i mem)).ahead ahead).append _
  leaving d mem := accounted.leaving d (leaving mem)

/-- One instance becomes another. -/
theorem Accounted.change {i i' : Instance} {rest : List Instance} (accounted : s.Accounted deeds)
    (ahead : s.world.Ahead t.world) (has : s.instances.Perm (i :: rest))
    (instances : t.instances.Perm (i' :: rest))
    (changed : i'.Accounted t.world (deeds ++ [deed])) (leaving : ∀ d ∈ t.leaving, d.Ready) :
    t.Accounted (deeds ++ [deed]) where
  instances j mem := by
    rcases List.mem_cons.1 (instances.mem_iff.1 mem) with rfl | other
    · exact changed
    · have old := accounted.instances j (has.mem_iff.2 (List.mem_cons_of_mem _ other))
      exact (old.ahead ahead).append _
  leaving := leaving

theorem Accounted.start {name : String} {command : Command} {policy : ErrorPolicy} {i : Instance}
    (accounted : s.Accounted deeds) (ahead : s.world.Ahead t.world)
    (started : Instance.start name command policy s.world = .ok (i, t.world))
    (instances : t.instances.Perm (i :: s.instances)) (leaving : t.leaving ⊆ s.leaving) :
    t.Accounted (deeds ++ [deed]) where
  instances j mem := by
    rcases List.mem_cons.1 (instances.mem_iff.1 mem) with rfl | other
    · exact .of_start started _
    · exact ((accounted.instances j other).ahead ahead).append _
  leaving d mem := accounted.leaving d (leaving mem)

theorem Step.accounted (step : Step s deed t) (follows : s.driver.Follows (notices deeds))
    (accounted : s.Accounted deeds) : t.Accounted (deeds ++ [deed]) := by
  have ahead := step.ahead
  have known {id : AlgorithmId} {i : Instance} (found : s.driver.algorithms.get? id = some i) :
      i.Accounted s.world deeds :=
    accounted.instances i (List.mem_append_left _ (Table.mem_values found))
  cases step with
  | @spawn name i world spawned =>
    obtain ⟨command, started⟩ := Driver.spawn_start spawned
    exact accounted.start ahead started List.perm_middle (List.Subset.refl _)
  | @register i arrived =>
    refine accounted.still ahead (fun j mem => ?_) (List.Subset.refl _)
    have moved : s.instances.Perm
        ({ s.after (s.driver.register i s.world) with arriving := s.arriving.erase i }.instances) := by
      show (s.driver.algorithms.values ++ _).Perm ((s.driver.algorithms.insert i).2.values ++ _)
      rw [Table.values_insert]
      exact perm_erase_cons arrived
    exact moved.mem_iff.2 mem
  | @look id i found =>
    obtain ⟨rest, has, after⟩ := instances_of_get? follows found
    exact accounted.change ahead has (after _ _) ((known found).poll.append _) accounted.leaving
  | @signal id i found running =>
    obtain ⟨rest, has, after⟩ := instances_of_get? follows found
    exact accounted.change ahead has (after _ _) ((known found).signal running) accounted.leaving
  | inputPipe id =>
    cases found : s.driver.algorithms.get? id with
    | none =>
      rw [Driver.inputPipe_of_none found]
      exact accounted.still (.refl _) (fun _ mem => mem) (List.Subset.refl _)
    | some i =>
      obtain ⟨rest, has, after⟩ := instances_of_get? follows found
      rw [Driver.inputPipe_of_some found] at ahead ⊢
      exact accounted.change ahead has (after _ s.world)
        (((known found).inputPipe.ahead ahead).append _) accounted.leaving
  | outputPipe id =>
    refine accounted.still ahead ?_ (List.Subset.refl _)
    show ∀ i ∈ (s.driver.outputPipe id s.world).2.1.algorithms.values ++ _, _
    rw [Driver.outputPipe_driver]
    exact fun _ mem => mem
  | takeInstances =>
    refine ⟨fun i mem => ?_, fun d mem => ?_⟩
    · have old := accounted.instances i (s.takeInstances_perm.mem_iff.2 mem)
      exact (old.ahead ahead).append _
    · rcases List.mem_append.1 mem with new | old
      · obtain ⟨_, _, rfl⟩ := List.mem_map.1 new
        trivial
      · exact accounted.leaving d old
  | @depart d d' leaving goes =>
    have has := instances_of_leaving leaving
    have own := accounted.instances d.i (has.mem_iff.2 List.mem_cons_self)
    obtain ⟨more, rfl, next⟩ := Departure.next_of_goes goes
    rw [next] at ahead ⊢
    obtain ⟨ready, settled⟩ := Departure.settle_ready own (accounted.leaving d leaving) more
    refine accounted.change ahead has Holdings.Sound.perm_station settled ?_
    intro other mem
    rcases List.mem_cons.1 mem with rfl | old
    · exact ready
    · exact accounted.leaving other (List.mem_of_mem_erase old)
  | @depose d leaving gone =>
    have has := instances_of_leaving leaving
    exact accounted.still ahead (fun i mem => has.mem_iff.2 (List.mem_cons_of_mem _ mem))
      List.erase_subset
  | acquireRead | registerRead | lendRead | takeRead | takeReads | releaseRead | acquireWrite
    | registerWrite | lendWrite | takeWrite | takeWrites | releaseWrite | holdSource | dropSource
    | closeSource | read | holdSink | dropSink | closeSink | write | flush | record | elsewhere =>
    exact accounted.still ahead (fun _ mem => mem) (List.Subset.refl _)

theorem Run.accounted {start : Stage} (new : start.New) (run : Run start deeds s) :
    s.Accounted deeds := by
  induction run with
  | nil =>
    obtain ⟨config, world, rfl⟩ := new.eq
    exact ⟨List.forall_mem_nil _, List.forall_mem_nil _⟩
  | snoc run step ih => exact step.accounted (run.sound new).follows ih

end Stage

end AlgorithmDriver

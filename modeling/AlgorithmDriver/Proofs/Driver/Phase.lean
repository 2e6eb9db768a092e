import AlgorithmDriver.Proofs.Driver.Run

/-!
# Phases

Whatever callers do at once and whenever the process ends, an id goes through four phases, and never
back: it is not issued yet, its instance is running, its instance has ended, and its instance was
taken out of the table.  `Phase.Next` is this automaton, with what shows of each of its steps.

* Looking, killing, listing and the rest change the phase of an id as the automaton says
  (`Driver.phase_status`, `Driver.next_kill`, `Driver.phase_pollAll`).
* Every step of a run is a step of the automaton, for every id (`Step.next`).
-/

namespace AlgorithmDriver

/-! ## Phases -/

/-- What has become of an id. -/
inductive Phase where
  /-- It was not issued yet. -/
  | coming
  | running (process : Nat)
  | ended (process : Nat) (status : Status)
  /-- Its instance was taken out of the table. -/
  | gone
  deriving DecidableEq

namespace Phase

/-- The status that is reported in a phase. -/
def status : Phase → Status
  | coming => .notFound
  | running _ => .running
  | ended _ status => status
  | gone => .notFound

/-- The phase of an instance that is registered. -/
def ofInstance (i : Instance) : Phase :=
  match i.status with
  | .running => running i.process
  | status => ended i.process status

/-- The phase once all instances were taken out of the table. -/
def drained : Phase → Phase
  | coming => coming
  | _ => gone

/-- What a look at an instance can change. -/
inductive Noticed (world : World) : Phase → Phase → Prop
  | nothing (phase : Phase) : Noticed world phase phase
  | exit {process : Nat} {status : ExitStatus} (exited : world.host.HasEnded process status) :
      Noticed world (running process) (ended process (.exited status.code))

@[simp] theorem status_ofInstance (i : Instance) : (ofInstance i).status = i.status := by
  unfold ofInstance
  split
  · rename_i h
    exact h.symm
  · rfl

theorem ofInstance_of_running {i : Instance} (h : i.status = .running) :
    ofInstance i = running i.process := by
  unfold ofInstance
  rw [h]

theorem ofInstance_of_stopped {i : Instance} (h : i.status ≠ .running) :
    ofInstance i = ended i.process i.status := by
  unfold ofInstance
  split
  · rename_i running
    exact absurd running h
  · rfl

theorem ofInstance_congr {i i' : Instance} (process : i'.process = i.process)
    (status : i'.status = i.status) : ofInstance i' = ofInstance i := by
  unfold ofInstance
  rw [process, status]

end Phase

open Phase in
theorem Instance.Looked.noticed {world later : World} {i i' : Instance}
    (looked : Instance.Looked world i i') (h : world.Later later) :
    Noticed later (ofInstance i) (ofInstance i') := by
  cases looked with
  | same process status _ =>
    rw [ofInstance_congr process status]
    exact .nothing _
  | @exited status isRunning ended process noted =>
    have stopped : i'.status ≠ .running := by
      rw [noted]
      intro same
      cases same
    rw [ofInstance_of_running isRunning, ofInstance_of_stopped stopped, process, noted]
    exact .exit (h _ _ ended)

/-- What has become of an id of a driver. -/
def Driver.phase (driver : Driver) (id : AlgorithmId) : Phase :=
  match driver.algorithms.get? id with
  | some i => .ofInstance i
  | none => if driver.algorithms.next ≤ id.raw then .coming else .gone

namespace Driver

variable {driver : Driver} {id other : AlgorithmId} {i old : Instance}

theorem phase_of_some (h : driver.algorithms.get? id = some i) :
    driver.phase id = .ofInstance i := by
  unfold phase
  rw [h]

theorem phase_of_none (h : driver.algorithms.get? id = none) :
    driver.phase id = .coming ∨ driver.phase id = .gone := by
  unfold phase
  rw [h]
  by_cases issued : driver.algorithms.next ≤ id.raw
  · exact .inl (if_pos issued)
  · exact .inr (if_neg issued)

theorem status_phase_of_none (h : driver.algorithms.get? id = none) :
    (driver.phase id).status = .notFound := by
  rcases phase_of_none h with phase | phase
  · rw [phase]
    rfl
  · rw [phase]
    rfl

theorem phase_set_self (h : driver.algorithms.get? id = some old) :
    { driver with algorithms := driver.algorithms.set id i }.phase id = .ofInstance i := by
  refine phase_of_some ?_
  show (driver.algorithms.set id i).get? id = some i
  rw [Table.get?_set, if_pos rfl, h]
  rfl

theorem phase_set_ne (h : other ≠ id) :
    { driver with algorithms := driver.algorithms.set id i }.phase other = driver.phase other := by
  unfold phase
  rw [Table.get?_set, if_neg h, Table.next_set]

theorem phase_drain (issued : driver.algorithms.Issued) :
    { driver with algorithms := driver.algorithms.drain.2 }.phase id =
      (driver.phase id).drained := by
  unfold phase
  rw [Table.get?_drain, Table.next_drain]
  cases h : driver.algorithms.get? id with
  | none =>
    by_cases coming : driver.algorithms.next ≤ id.raw
    · simp only [if_pos coming, Phase.drained]
    · simp only [if_neg coming, Phase.drained]
  | some i =>
    have live := issued id i h
    simp only [if_neg (Nat.not_le.2 live), Phase.ofInstance]
    split <;> rfl

/-- The id under which an instance is registered was not issued before. -/
theorem phase_register (issued : driver.algorithms.Issued) (world : World) :
    driver.phase (driver.register i world).1 = .coming ∧
      (driver.register i world).2.1.phase (driver.register i world).1 = .ofInstance i := by
  refine ⟨?_, phase_of_some (issued.get?_inserted i)⟩
  unfold phase
  show (match driver.algorithms.get? ⟨driver.algorithms.next⟩ with
    | some i => Phase.ofInstance i
    | none => if driver.algorithms.next ≤ driver.algorithms.next then .coming else .gone) = _
  rw [issued.get?_next]
  exact if_pos (Nat.le_refl _)

theorem phase_register_ne (world : World) (h : id ≠ (driver.register i world).1) :
    (driver.register i world).2.1.phase id = driver.phase id := by
  have other : id.raw ≠ driver.algorithms.next := by
    rintro same
    refine h ?_
    show id = ⟨driver.algorithms.next⟩
    rw [← same]
  unfold phase
  show (match (driver.algorithms.insert i).2.get? id with
    | some i => Phase.ofInstance i
    | none => if driver.algorithms.next + 1 ≤ id.raw then .coming else .gone) = _
  rw [Table.get?_insert, if_neg other, Option.or_none]
  have bound : driver.algorithms.next + 1 ≤ id.raw ↔ driver.algorithms.next ≤ id.raw := by omega
  simp only [bound]

end Driver

/-! ## Steps of a life -/

namespace Event

/-- The id that a step is about. -/
def subject? : Event → Option AlgorithmId
  | started id _ => some id
  | looked id _ => some id
  | waited id _ => some id
  | killed id _ => some id
  | _ => none

/-- Whether all instances were taken out of the table. -/
def isDrained : Event → Bool
  | drained => true
  | _ => false

/-- The status that a step reports for an id: what a look shows, or what waiting for it returns. -/
def status? (id : AlgorithmId) : Event → Option Status
  | looked other status => if other = id then some status else none
  | waited other answer => if other = id then answer else none
  | _ => none

/-- Whether a step is a kill of an id that succeeds. -/
def isKill (id : AlgorithmId) : Event → Bool
  | killed other (.ok ()) => other = id
  | _ => false

variable {id : AlgorithmId} {event : Event}

theorem isKill_iff : event.isKill id = true ↔ event = .killed id (.ok ()) := by
  unfold isKill
  split
  · simp
  · rename_i other
    constructor
    · intro h
      cases h
    · rintro rfl
      exact absurd rfl (other id)

theorem status?_of_apart (h : event.subject? ≠ some id) : event.status? id = none := by
  cases event with
  | looked other status =>
    exact if_neg fun same => h (congrArg some same)
  | waited other answer =>
    exact if_neg fun same => h (congrArg some same)
  | _ => rfl

theorem isKill_of_apart (h : event.subject? ≠ some id) : event.isKill id = false := by
  rw [Bool.eq_false_iff]
  intro kill
  rw [isKill_iff.1 kill] at h
  exact h rfl

end Event

namespace Phase

/-- A step in the life of an id, with what shows of it. -/
inductive Next (world : World) (id : AlgorithmId) : Phase → Event → Phase → Prop
  /-- A step that is not about the id.  All the same an exit may be noticed. -/
  | apart {phase phase' : Phase} {event : Event} (other : event.subject? ≠ some id)
      (held : event.isDrained = false) (noticed : Noticed world phase phase') :
      Next world id phase event phase'
  | drain (phase : Phase) : Next world id phase .drained phase.drained
  | start (process : Nat) : Next world id coming (.started id process) (running process)
  | look {phase phase' : Phase} (noticed : Noticed world phase phase') :
      Next world id phase (.looked id phase'.status) phase'
  | wait {phase phase' : Phase} (noticed : Noticed world phase phase') :
      Next world id phase
        (.waited id (if phase'.status = .running then none else some phase'.status)) phase'
  | kill (process : Nat) :
      Next world id (running process) (.killed id (.ok ())) (ended process .killed)
  | refuse {phase : Phase} {process : Nat} {status : Status}
      (noticed : Noticed world phase (ended process status)) :
      Next world id phase (.killed id (.error (.alreadyExited id))) (ended process status)
  | miss {phase : Phase} (missing : phase = coming ∨ phase = gone) :
      Next world id phase (.killed id (.error (.notFound id.text))) phase

/-- A step that is not about the id, and at which nothing is noticed. -/
theorem Next.still {world : World} {id : AlgorithmId} {phase phase' : Phase} {event : Event}
    (other : event.subject? ≠ some id) (held : event.isDrained = false) (same : phase' = phase) :
    Next world id phase event phase' := by
  subst same
  exact .apart other held (.nothing _)

end Phase

theorem Instance.Killed.next {world later : World} {id : AlgorithmId} {i i' : Instance}
    {r : Except DriverError Unit} (killed : Instance.Killed world id i r i')
    (h : world.Later later) :
    Phase.Next later id (.ofInstance i) (.killed id r) (.ofInstance i') := by
  cases killed with
  | refused looked stopped =>
    have noticed := looked.noticed h
    rw [Phase.ofInstance_of_stopped stopped] at noticed ⊢
    exact .refuse noticed
  | done running process noted =>
    have stopped : i'.status ≠ .running := by
      rw [noted]
      intro same
      cases same
    rw [Phase.ofInstance_of_running running, Phase.ofInstance_of_stopped stopped, process, noted]
    exact .kill i.process

section Operations

variable {driver : Driver} {world later : World}

/-- A look at an instance is noticed by its id alone, and reports the phase that follows. -/
theorem Driver.phase_status (id other : AlgorithmId)
    (h : (driver.status id world).2.2.Later later) :
    Phase.Noticed later (driver.phase other) ((driver.status id world).2.1.phase other) ∧
      (driver.status id world).1 = ((driver.status id world).2.1.phase id).status := by
  have earlier := (status_later driver id world).trans h
  unfold Driver.status
  cases found : driver.algorithms.get? id with
  | none => exact ⟨.nothing _, (status_phase_of_none found).symm⟩
  | some i =>
    dsimp only
    rw [phase_set_self found, Phase.status_ofInstance]
    refine ⟨?_, rfl⟩
    by_cases same : other = id
    · subst same
      rw [phase_set_self found, phase_of_some found]
      exact (Instance.poll_looked i world).noticed earlier
    · rw [phase_set_ne same]
      exact .nothing _

/-- A kill is a step in the life of its id, and no other id notices it. -/
theorem Driver.next_kill (id other : AlgorithmId) (meanwhile : World → World)
    (h : world.Later later) :
    Phase.Next later other (driver.phase other) (.killed id (driver.kill id world meanwhile).1)
      ((driver.kill id world meanwhile).2.1.phase other) := by
  by_cases same : other = id
  · subst same
    cases found : driver.algorithms.get? other with
    | none =>
      rw [kill_of_none found]
      exact .miss (phase_of_none found)
    | some i =>
      obtain ⟨answer, noted⟩ := kill_of_some found world meanwhile
      rw [answer, noted, phase_set_self found, phase_of_some found]
      exact (Instance.kill_killed i other world meanwhile).next h
  · refine .apart (fun h => same (Option.some.inj h).symm) rfl ?_
    cases found : driver.algorithms.get? id with
    | none =>
      rw [kill_of_none found]
      exact .nothing _
    | some i =>
      rw [(kill_of_some found world meanwhile).2, phase_set_ne same]
      exact .nothing _

theorem Driver.phase_inputPipe (id other : AlgorithmId) :
    (driver.inputPipe id world).2.1.phase other = driver.phase other := by
  unfold Driver.inputPipe
  cases found : driver.algorithms.get? id with
  | none => rfl
  | some i =>
    dsimp only
    by_cases same : other = id
    · subst same
      rw [phase_set_self found, phase_of_some found]
      obtain ⟨process, status, _⟩ := Instance.inputPipe_same i world
      exact Phase.ofInstance_congr process status
    · exact phase_set_ne same

theorem Driver.phase_outputPipe (id other : AlgorithmId) :
    (driver.outputPipe id world).2.1.phase other = driver.phase other := by
  rw [Driver.outputPipe_driver]

/-- Listing the running instances can be noticed by every id. -/
theorem Driver.phase_pollAll (id : AlgorithmId) {meanwhile : World → World}
    (progress : World.Progress meanwhile)
    (h : (Driver.pollAll driver.algorithms world meanwhile).2.2.Later later) :
    Phase.Noticed later (driver.phase id)
      ({ driver with
        algorithms := (Driver.pollAll driver.algorithms world meanwhile).2.1 }.phase id) := by
  cases found : driver.algorithms.get? id with
  | none =>
    have missing := pollAll_get?_none world meanwhile found
    unfold phase
    rw [found, missing]
    exact .nothing _
  | some i =>
    obtain ⟨between, _, result, after⟩ := pollAll_get? driver.algorithms world progress found
    rw [phase_of_some found, phase_of_some result]
    exact (Instance.poll_looked i between).noticed (after.trans h)

end Operations

/-- Every step of a run is a step in the life of every id. -/
theorem Step.next {s t : Scene} {event : Event} (h : Step s event t) (sound : s.Sound)
    {world : World} (later : t.world.Later world) (id : AlgorithmId) :
    Phase.Next world id (s.driver.phase id) event (t.driver.phase id) := by
  have earlier := h.later.trans later
  cases h with
  | spawn _ => exact .still (fun h => nomatch h) rfl rfl
  | refuse _ => exact .still (fun h => nomatch h) rfl rfl
  | @register i arrived =>
    by_cases same : id = (s.driver.register i s.world).1
    · subst same
      obtain ⟨coming, registered⟩ := Driver.phase_register sound.driver.issued (i := i) s.world
      show Phase.Next world _ _ _ ((s.driver.register i s.world).2.1.phase _)
      rw [coming, registered, Phase.ofInstance_of_running (sound.arriving i arrived).1]
      exact .start i.process
    · exact .still (fun h => same (Option.some.inj h).symm) rfl
        (Driver.phase_register_ne s.world same)
  | status other =>
    obtain ⟨noticed, reported⟩ := Driver.phase_status other id later
    by_cases same : other = id
    · subst same
      rw [reported]
      exact .look noticed
    · exact .apart (fun h => same (Option.some.inj h)) rfl noticed
  | wait other =>
    rw [Scene.after, Driver.waitOnce_eq] at later ⊢
    obtain ⟨noticed, reported⟩ := Driver.phase_status other id later
    by_cases same : other = id
    · subst same
      dsimp only
      rw [reported]
      exact .wait noticed
    · exact .apart (fun h => same (Option.some.inj h)) rfl noticed
  | kill other progress => exact Driver.next_kill other id _ earlier
  | inputPipe other =>
    exact .still (fun h => nomatch h) rfl (Driver.phase_inputPipe other id)
  | outputPipe other =>
    exact .still (fun h => nomatch h) rfl (Driver.phase_outputPipe other id)
  | list progress =>
    exact .apart (fun h => nomatch h) rfl (Driver.phase_pollAll id progress later)
  | drain =>
    show Phase.Next world id _ _ (Driver.phase _ _)
    rw [Driver.phase_drain sound.driver.issued]
    exact .drain _
  | tearDown _ _ => exact .still (fun h => nomatch h) rfl rfl
  | @elsewhere driver _ _ algorithms _ =>
    have same : driver.phase id = s.driver.phase id := by
      unfold Driver.phase
      rw [algorithms]
    exact .still (fun h => nomatch h) rfl same

end AlgorithmDriver

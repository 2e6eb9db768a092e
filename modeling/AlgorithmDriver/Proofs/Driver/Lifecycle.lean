import AlgorithmDriver.Proofs.Driver.Phase
import AlgorithmDriver.Proofs.Driver.Resolution

/-!
# The life of an instance

What callers are told about an id that was started, over a whole run.

* Reports are `running` for a while, then one terminal status, and `notFound` once all instances
  were taken out of the table (`Phase.Steps.of_running`, `Phase.Steps.of_ended`,
  `Phase.Steps.of_gone`).
* A caller who waits looks again and again while the others go on (`Waits`).
* Main result: `Run.lifecycle` puts together what callers can rely on.
-/

namespace AlgorithmDriver

/-! ## Whole lives -/

namespace Phase

/-- Some steps in the life of an id. -/
inductive Steps (world : World) (id : AlgorithmId) : Phase → List Event → Phase → Prop
  | nil (phase : Phase) : Steps world id phase [] phase
  | cons {phase phase' phase'' : Phase} {event : Event} {events : List Event}
      (next : Next world id phase event phase') (rest : Steps world id phase' events phase'') :
      Steps world id phase (event :: events) phase''

variable {world : World} {id : AlgorithmId} {phase phase' : Phase} {event : Event}

/-- What is reported is the phase that follows. -/
theorem Next.status_eq (h : Next world id phase event phase') {status : Status}
    (reported : event.status? id = some status) : status = phase'.status := by
  cases h with
  | apart other _ _ =>
    rw [Event.status?_of_apart other] at reported
    cases reported
  | look _ =>
    simp only [Event.status?, if_true, Option.some.injEq] at reported
    exact reported.symm
  | wait _ =>
    simp only [Event.status?, if_true] at reported
    split at reported
    · cases reported
    · exact (Option.some.inj reported).symm
  | _ => cases reported

/-- The four ways in which a phase goes over into the next one. -/
theorem Next.inversion (h : Next world id phase event phase') :
    (event.isDrained = true ∧ event.isKill id = false ∧ phase' = phase.drained) ∨
    (event.isDrained = false ∧ event.isKill id = true ∧
      ∃ process, phase = running process ∧ phase' = ended process .killed) ∨
    (event.isDrained = false ∧ event.isKill id = false ∧
      ∃ process, event = .started id process ∧ phase = coming ∧ phase' = running process) ∨
    (event.isDrained = false ∧ event.isKill id = false ∧ (∀ process, event ≠ .started id process) ∧
      Noticed world phase phase') := by
  cases h with
  | apart other held noticed =>
    refine .inr (.inr (.inr ⟨held, Event.isKill_of_apart other, ?_, noticed⟩))
    rintro process rfl
    exact other rfl
  | drain => exact .inl ⟨rfl, rfl, rfl⟩
  | start process => exact .inr (.inr (.inl ⟨rfl, rfl, process, rfl, rfl, rfl⟩))
  | look noticed => exact .inr (.inr (.inr ⟨rfl, rfl, (fun _ h => nomatch h), noticed⟩))
  | wait noticed => exact .inr (.inr (.inr ⟨rfl, rfl, (fun _ h => nomatch h), noticed⟩))
  | kill process => exact .inr (.inl ⟨rfl, decide_eq_true rfl, process, rfl, rfl⟩)
  | refuse noticed => exact .inr (.inr (.inr ⟨rfl, rfl, (fun _ h => nomatch h), noticed⟩))
  | miss _ => exact .inr (.inr (.inr ⟨rfl, rfl, (fun _ h => nomatch h), .nothing _⟩))

/-- An id that is not issued yet is not killed, and stays what it is until it is issued. -/
theorem Next.of_coming (h : Next world id coming event phase') :
    event.isKill id = false ∧
      ((phase' = coming ∧ ∀ process, event ≠ .started id process) ∨
        ∃ process, event = .started id process ∧ phase' = running process) := by
  rcases h.inversion with ⟨isDrained, kill, rfl⟩ | ⟨_, _, _, h, _⟩ |
    ⟨_, kill, process, rfl, _, rfl⟩ | ⟨_, kill, other, noticed⟩
  · refine ⟨kill, .inl ⟨rfl, ?_⟩⟩
    rintro process rfl
    cases isDrained
  · cases h
  · exact ⟨kill, .inr ⟨process, rfl, rfl⟩⟩
  · cases noticed
    exact ⟨kill, .inl ⟨rfl, other⟩⟩

/-- A kill of an instance that has ended is refused. -/
theorem Next.refused {process : Nat} {status : Status} {r : Except DriverError Unit}
    (h : Next world id (ended process status) (.killed id r) phase') :
    r = .error (.alreadyExited id) := by
  cases h with
  | apart other _ _ => exact absurd rfl other
  | refuse _ => rfl
  | miss missing => rcases missing with h | h <;> cases h

end Phase

namespace Event

/-- The statuses that were reported for an id. -/
def statuses (id : AlgorithmId) (events : List Event) : List Status :=
  events.filterMap (status? id)

/-- What happened up to the first time that all instances were taken out of their table. -/
def untilDrained (events : List Event) : List Event :=
  events.takeWhile fun event => !event.isDrained

/-- What happened from then on. -/
def fromDrained (events : List Event) : List Event :=
  events.dropWhile fun event => !event.isDrained

/-- How often an id was killed with success. -/
def kills (id : AlgorithmId) (events : List Event) : Nat := events.countP (isKill id)

variable {id : AlgorithmId} {event : Event} {events : List Event}

theorem kills_cons_of_false (h : event.isKill id = false) :
    kills id (event :: events) = kills id events :=
  List.countP_cons_of_neg (Bool.eq_false_iff.1 h)

theorem kills_cons_of_true (h : event.isKill id = true) :
    kills id (event :: events) = kills id events + 1 :=
  List.countP_cons_of_pos h

theorem kills_append (before after : List Event) :
    kills id (before ++ after) = kills id before + kills id after :=
  List.countP_append

theorem kills_eq_zero_iff : kills id events = 0 ↔ .killed id (.ok ()) ∉ events := by
  unfold kills
  rw [List.countP_eq_zero]
  constructor
  · intro none mem
    exact none _ mem (isKill_iff.2 rfl)
  · intro absent event mem kill
    exact absent (isKill_iff.1 kill ▸ mem)

theorem untilDrained_cons_of_false (h : event.isDrained = false) :
    untilDrained (event :: events) = event :: untilDrained events := by
  unfold untilDrained
  rw [List.takeWhile_cons_of_pos (by rw [h]; rfl)]

theorem untilDrained_cons_of_true (h : event.isDrained = true) :
    untilDrained (event :: events) = [] := by
  unfold untilDrained
  rw [List.takeWhile_cons_of_neg (by rw [h]; exact Bool.false_ne_true)]

theorem fromDrained_cons_of_false (h : event.isDrained = false) :
    fromDrained (event :: events) = fromDrained events := by
  unfold fromDrained
  rw [List.dropWhile_cons_of_pos (by rw [h]; rfl)]

theorem fromDrained_cons_of_true (h : event.isDrained = true) :
    fromDrained (event :: events) = event :: events := by
  unfold fromDrained
  rw [List.dropWhile_cons_of_neg (by rw [h]; exact Bool.false_ne_true)]

theorem statuses_eq_append (events : List Event) :
    statuses id events = statuses id (untilDrained events) ++ statuses id (fromDrained events) := by
  unfold statuses untilDrained fromDrained
  rw [← List.filterMap_append, List.takeWhile_append_dropWhile]

theorem mem_statuses_cons {status : Status} (h : status ∈ statuses id (event :: events)) :
    event.status? id = some status ∨ status ∈ statuses id events := by
  obtain ⟨e, mem, reported⟩ := List.mem_filterMap.1 h
  rcases List.mem_cons.1 mem with rfl | mem
  · exact .inl reported
  · exact .inr (List.mem_filterMap.2 ⟨e, mem, reported⟩)

end Event

open Event in
/-- If nothing but the phase after a step is reported from then on, then the step reports nothing
else either. -/
theorem Phase.Next.reports {world : World} {id : AlgorithmId} {phase phase' : Phase} {event : Event}
    {events : List Event} (next : Next world id phase event phase')
    (later : ∀ status ∈ statuses id events, status = phase'.status) :
    ∀ status ∈ statuses id (event :: events), status = phase'.status := by
  intro status mem
  rcases mem_statuses_cons mem with now | mem
  · exact next.status_eq now
  · exact later status mem

namespace Phase.Steps

open Event

variable {world : World} {id : AlgorithmId} {events : List Event} {last : Phase}

/-- An id that is gone is not found any more, and is not killed any more. -/
theorem of_gone (h : Steps world id .gone events last) :
    (∀ status ∈ statuses id events, status = .notFound) ∧ kills id events = 0 := by
  generalize start : Phase.gone = phase at h
  induction h with
  | nil => exact ⟨(fun _ h => nomatch h), rfl⟩
  | @cons phase phase' _ event events next rest ih =>
    subst start
    have stays : phase' = .gone ∧ event.isKill id = false := by
      rcases next.inversion with ⟨_, kill, rfl⟩ | ⟨_, _, _, h, _⟩ | ⟨_, _, _, _, h, _⟩ |
        ⟨_, kill, _, noticed⟩
      · exact ⟨rfl, kill⟩
      · cases h
      · cases h
      · cases noticed
        exact ⟨rfl, kill⟩
    obtain ⟨rfl, kill⟩ := stays
    obtain ⟨reports, none⟩ := ih rfl
    exact ⟨next.reports reports, (kills_cons_of_false kill).trans none⟩

/-- An instance that has ended keeps its status for as long as it is registered, and is not killed
any more. -/
theorem of_ended {process : Nat} {noted : Status}
    (h : Steps world id (.ended process noted) events last) :
    (∀ status ∈ statuses id (untilDrained events), status = noted) ∧
      (∀ status ∈ statuses id (fromDrained events), status = .notFound) ∧
      (∀ r, .killed id r ∈ untilDrained events → r = .error (.alreadyExited id)) ∧
      kills id events = 0 := by
  generalize start : Phase.ended process noted = phase at h
  induction h with
  | nil => exact ⟨(fun _ h => nomatch h), (fun _ h => nomatch h), (fun _ h => nomatch h), rfl⟩
  | @cons phase phase' _ event events next rest ih =>
    subst start
    rcases next.inversion with ⟨isDrained, kill, rfl⟩ | ⟨_, _, _, h, _⟩ | ⟨_, _, _, _, h, _⟩ |
      ⟨held, kill, _, noticed⟩
    · obtain ⟨reports, none⟩ := of_gone rest
      rw [untilDrained_cons_of_true isDrained, fromDrained_cons_of_true isDrained]
      exact ⟨(fun _ h => nomatch h), next.reports reports, (fun _ h => nomatch h),
        (kills_cons_of_false kill).trans none⟩
    · cases h
    · cases h
    · cases noticed
      obtain ⟨same, gone, refused, none⟩ := ih rfl
      rw [untilDrained_cons_of_false held, fromDrained_cons_of_false held]
      refine ⟨next.reports same, gone, ?_, (kills_cons_of_false kill).trans none⟩
      intro r h
      rcases List.mem_cons.1 h with rfl | later
      · exact next.refused
      · exact refused r later

/-- A running instance is reported as running for a while, and then with one terminal status: as
killed if a kill succeeded, and else with the code with which its process ended. -/
theorem of_running {process : Nat} (h : Steps world id (.running process) events last) :
    (∃ n m terminal, terminal.isTerminal = true ∧
      statuses id (untilDrained events) =
        List.replicate n .running ++ List.replicate m terminal ∧
      (kills id events = 1 ∧ terminal = .killed ∨
        kills id events = 0 ∧ (m = 0 ∨
          ∃ status, world.host.HasEnded process status ∧ terminal = .exited status.code))) ∧
      ∀ status ∈ statuses id (fromDrained events), status = .notFound := by
  generalize start : Phase.running process = phase at h
  induction h with
  | nil => exact ⟨⟨0, 0, .killed, rfl, rfl, .inr ⟨rfl, .inl rfl⟩⟩, (fun _ h => nomatch h)⟩
  | @cons phase phase' _ event events next rest ih =>
    subst start
    rcases next.inversion with ⟨isDrained, kill, rfl⟩ | ⟨held, kill, _, h, rfl⟩ |
      ⟨_, _, _, _, h, _⟩ | ⟨held, kill, _, noticed⟩
    · obtain ⟨reports, none⟩ := of_gone rest
      rw [untilDrained_cons_of_true isDrained, fromDrained_cons_of_true isDrained,
        kills_cons_of_false kill]
      exact ⟨⟨0, 0, .killed, rfl, rfl, .inr ⟨none, .inl rfl⟩⟩, next.reports reports⟩
    · obtain ⟨same, gone, _, none⟩ := of_ended rest
      rw [untilDrained_cons_of_false held, fromDrained_cons_of_false held,
        kills_cons_of_true kill, none]
      have reports := List.eq_replicate_of_mem (next.reports same)
      exact ⟨⟨0, _, .killed, rfl, reports, .inl ⟨rfl, rfl⟩⟩, gone⟩
    · cases h
    · rw [untilDrained_cons_of_false held, fromDrained_cons_of_false held,
        kills_cons_of_false kill]
      cases noticed with
      | nothing =>
        obtain ⟨⟨n, m, terminal, isTerminal, reports, outcome⟩, gone⟩ := ih rfl
        refine ⟨?_, gone⟩
        unfold statuses at reports ⊢
        rw [List.filterMap_cons]
        cases now : event.status? id with
        | none => exact ⟨n, m, terminal, isTerminal, reports, outcome⟩
        | some status =>
          refine ⟨n + 1, m, terminal, isTerminal, ?_, outcome⟩
          rw [reports, next.status_eq now, List.replicate_succ]
          rfl
      | @exit _ status exited =>
        obtain ⟨same, gone, _, none⟩ := of_ended rest
        have reports := List.eq_replicate_of_mem (next.reports same)
        refine ⟨⟨0, _, .exited status.code, rfl, reports, .inr ⟨none, .inr ?_⟩⟩, gone⟩
        exact ⟨status, exited, rfl⟩

/-- An id that was issued is not issued again. -/
theorem not_started {phase : Phase} (h : Steps world id phase events last)
    (issued : phase ≠ .coming) (process : Nat) : .started id process ∉ events := by
  induction h with
  | nil => exact List.not_mem_nil
  | @cons phase phase' _ event events next rest ih =>
    have stays : phase' ≠ .coming ∧ event ≠ .started id process := by
      rcases next.inversion with ⟨isDrained, _, rfl⟩ | ⟨_, kill, _, _, rfl⟩ | ⟨_, _, _, _, rfl, _⟩ |
        ⟨_, _, other, noticed⟩
      · refine ⟨?_, ?_⟩
        · cases phase with
          | coming => exact absurd rfl issued
          | _ => exact (fun h => nomatch h)
        · rintro rfl
          cases isDrained
      · refine ⟨(fun h => nomatch h), ?_⟩
        rintro rfl
        cases kill
      · exact absurd rfl issued
      · refine ⟨?_, other process⟩
        cases noticed with
        | nothing => exact issued
        | exit _ => exact fun h => nomatch h
    rw [List.mem_cons, not_or]
    exact ⟨stays.2.symm, ih stays.1⟩

/-- Before its id is issued, nothing of an instance is reported and it is not killed; and its id is
issued once. -/
theorem of_coming (h : Steps world id .coming events last) :
    kills id events ≤ 1 ∧
      ∀ before after process, events = before ++ .started id process :: after →
        kills id before = 0 ∧ Steps world id (.running process) after last := by
  generalize start : Phase.coming = phase at h
  induction h with
  | nil =>
    refine ⟨Nat.zero_le 1, ?_⟩
    intro before after process h
    exact absurd h.symm (List.append_ne_nil_of_right_ne_nil before (List.cons_ne_nil _ _))
  | @cons phase phase' last event events next rest ih =>
    subst start
    obtain ⟨kill, ⟨rfl, other⟩ | ⟨process, rfl, rfl⟩⟩ := next.of_coming
    · obtain ⟨once, issued⟩ := ih rfl
      rw [kills_cons_of_false kill]
      refine ⟨once, ?_⟩
      intro before after process h
      cases before with
      | nil =>
        cases h
        exact absurd rfl (other process)
      | cons first before =>
        cases h
        obtain ⟨none, steps⟩ := issued before after process rfl
        exact ⟨(kills_cons_of_false kill).trans none, steps⟩
    · have once : kills id events ≤ 1 := by
        obtain ⟨⟨_, _, _, _, _, outcome⟩, _⟩ := of_running rest
        rcases outcome with ⟨kills, _⟩ | ⟨kills, _⟩
        · omega
        · omega
      rw [kills_cons_of_false kill]
      refine ⟨once, ?_⟩
      intro before after other h
      cases before with
      | nil =>
        cases h
        exact ⟨rfl, rest⟩
      | cons first before =>
        cases h
        have issued : .started id other ∈ before ++ .started id other :: after :=
          List.mem_append_right before List.mem_cons_self
        exact absurd issued (not_started rest (fun h => nomatch h) other)

end Phase.Steps

/-! ## Runs -/

/-- A run is a life of every id. -/
theorem Run.steps {s t : Scene} {events : List Event} (h : Run s events t) (sound : s.Sound)
    {world : World} (later : t.world.Later world) (id : AlgorithmId) :
    Phase.Steps world id (s.driver.phase id) events (t.driver.phase id) := by
  induction h with
  | nil s => exact .nil _
  | cons step rest ih =>
    exact .cons (step.next sound (rest.later.trans later) id) (ih (step.sound sound) later)

/-- Every event of a run shows of some step of it. -/
theorem Run.exists_step {s t : Scene} {events : List Event} (h : Run s events t) {event : Event}
    (mem : event ∈ events) : ∃ a b, Step a event b := by
  induction h with
  | nil s => cases mem
  | cons step _ ih =>
    rcases List.mem_cons.1 mem with rfl | mem
    · exact ⟨_, _, step⟩
    · exact ih mem

/-- What waiting returns is never `running`. -/
theorem Run.waited_ne_running {s t : Scene} {events : List Event} (h : Run s events t)
    {id : AlgorithmId} {status : Status} (mem : .waited id (some status) ∈ events) :
    status ≠ .running := by
  obtain ⟨a, b, step⟩ := h.exists_step mem
  generalize shown : Event.waited id (some status) = event at step
  cases step with
  | wait other =>
    rw [Driver.waitOnce_eq, Event.waited.injEq] at shown
    obtain ⟨_, answer⟩ := shown
    split at answer
    · cases answer
    · rename_i stopped
      rw [Option.some.injEq] at answer
      rw [answer]
      exact stopped
  | _ => cases shown

/-! ### Waiting -/

/-- A caller waits for an instance: it looks again and again, while the others go on, until a look
gives an answer. -/
inductive Waits (id : AlgorithmId) : Scene → List Event → Status → Scene → Prop
  | answered {s t : Scene} {status : Status} (look : Step s (.waited id (some status)) t) :
      Waits id s [.waited id (some status)] status t
  | again {s t u v : Scene} {status : Status} {meanwhile events : List Event}
      (look : Step s (.waited id none) t) (others : Run t meanwhile u)
      (rest : Waits id u events status v) :
      Waits id s (.waited id none :: (meanwhile ++ events)) status v

namespace Waits

variable {id : AlgorithmId} {s t : Scene} {events : List Event} {status : Status}

theorem run (h : Waits id s events status t) : Run s events t := by
  induction h with
  | answered look => exact .single look
  | again look others _ ih => exact .cons look (others.append ih)

theorem answer_mem (h : Waits id s events status t) : .waited id (some status) ∈ events := by
  induction h with
  | answered look => exact List.mem_singleton_self _
  | again _ _ _ ih => exact List.mem_cons_of_mem _ (List.mem_append_right _ ih)

/-- However long it takes, who waits is never told that the instance is running. -/
theorem ne_running (h : Waits id s events status t) : status ≠ .running :=
  h.run.waited_ne_running h.answer_mem

end Waits

/-- Waiting with nobody else around: a run of looks, which is a whole wait if it gets an answer. -/
theorem Scene.wait_go (s : Scene) (id : AlgorithmId) (fuel : Nat) :
    ∃ events, Run s events (s.after (Driver.wait.go id fuel s.driver s.world)) ∧
      ∀ status, (Driver.wait.go id fuel s.driver s.world).1 = some status →
        Waits id s events status (s.after (Driver.wait.go id fuel s.driver s.world)) := by
  induction fuel generalizing s with
  | zero => exact ⟨[], .nil s, fun _ h => nomatch h⟩
  | succ fuel ih =>
    have look := Step.wait (s := s) id
    rw [Driver.wait.go]
    rcases outcome : s.driver.waitOnce id s.world with ⟨_ | status, driver, world⟩
    · rw [outcome] at look
      dsimp only at look ⊢
      split
      · exact ⟨_, .single look, fun _ h => nomatch h⟩
      · let resumed : Scene := { s with driver, world := world.advance }
        obtain ⟨events, run, answered⟩ := ih resumed
        have advanced : Run { s with driver, world } [.silent] resumed :=
          .single (.elsewhere rfl rfl (World.advance_later world))
        exact ⟨_, .cons look (advanced.append run), fun status h =>
          .again look advanced (answered status h)⟩
    · rw [outcome] at look
      refine ⟨_, .single look, ?_⟩
      intro other h
      cases h
      exact .answered look

theorem Scene.wait (s : Scene) (id : AlgorithmId) :
    ∃ events, Run s events (s.after (s.driver.wait id s.world)) ∧
      ∀ status, (s.driver.wait id s.world).1 = some status →
        Waits id s events status (s.after (s.driver.wait id s.world)) :=
  s.wait_go id World.patience

/-- Who waits for an instance whose process has ended is answered at the first look. -/
theorem Scene.Sound.wait_eq {s : Scene} (sound : s.Sound) {id : AlgorithmId} {i : Instance}
    {status : ExitStatus} (found : s.driver.algorithms.get? id = some i)
    (ended : s.world.host.HasEnded i.process status) :
    (s.driver.wait id s.world).1 = some (s.driver.status id s.world).1 := by
  have look : (s.driver.waitOnce id s.world).1 = some (s.driver.status id s.world).1 := by
    rw [Driver.waitOnce_eq, if_neg (sound.status_ne_running found ended)]
  rcases outcome : s.driver.waitOnce id s.world with ⟨answer, driver, world⟩
  rw [outcome] at look
  dsimp only at look
  subst look
  rw [Driver.wait, show World.patience = (World.patience - 1) + 1 from rfl, Driver.wait.go, outcome]

/-- Once a terminal status was noted, every kill is refused for as long as the instance is
registered. -/
theorem Run.killed_of_terminal {s t : Scene} {events : List Event} (h : Run s events t)
    (sound : s.Sound) {id : AlgorithmId} {i : Instance}
    (found : s.driver.algorithms.get? id = some i) (terminal : i.status.isTerminal = true)
    {r : Except DriverError Unit} (mem : .killed id r ∈ Event.untilDrained events) :
    r = .error (.alreadyExited id) := by
  have stopped : i.status ≠ .running := by
    intro running
    rw [running] at terminal
    cases terminal
  have steps := h.steps sound (.refl t.world) id
  rw [Driver.phase_of_some found, Phase.ofInstance_of_stopped stopped] at steps
  exact steps.of_ended.2.2.1 r mem

/-- Nothing was issued by a new driver. -/
theorem Scene.Fresh.phase {s : Scene} (fresh : s.Fresh) (id : AlgorithmId) :
    s.driver.phase id = .coming ∨ s.driver.phase id = .gone := by
  refine Driver.phase_of_none ?_
  rw [fresh.algorithms]
  exact Table.get?_empty id

/-- At most one kill of an id succeeds. -/
theorem Run.kills_le_one {start finish : Scene} {events : List Event} (fresh : start.Fresh)
    (run : Run start events finish) (id : AlgorithmId) : Event.kills id events ≤ 1 := by
  have steps := run.steps fresh.sound (.refl finish.world) id
  rcases fresh.phase id with phase | phase
  · rw [phase] at steps
    exact steps.of_coming.1
  · rw [phase] at steps
    rw [steps.of_gone.2]
    exact Nat.zero_le 1

/-- After an id was issued, its instance is running. -/
theorem Run.steps_of_started {start finish : Scene} {before after : List Event} {id : AlgorithmId}
    {process : Nat} (fresh : start.Fresh)
    (run : Run start (before ++ .started id process :: after) finish) :
    Event.kills id before = 0 ∧
      Phase.Steps finish.world id (.running process) after (finish.driver.phase id) := by
  have steps := run.steps fresh.sound (.refl finish.world) id
  rcases fresh.phase id with phase | phase
  · rw [phase] at steps
    exact steps.of_coming.2 before after process rfl
  · rw [phase] at steps
    have issued : .started id process ∈ before ++ .started id process :: after :=
      List.mem_append_right before List.mem_cons_self
    exact absurd issued (steps.not_started (fun h => nomatch h) process)

open Event in
/-- **The life of an instance.**  Whatever callers do at once with a new driver, and whenever and
however processes end, for every id that was started:

* up to the time that all instances are taken out of their table, it is reported as running for a
  while and then with one terminal status, and from then on as not found;
* at most one kill of it succeeds, and the terminal status is `killed` exactly if one does;
* an exit is reported with the code of its process, or 128 more than the signal that ended it;
* once a terminal status was noted, every kill is refused while the instance is registered.

Nobody who waits for an instance is ever told that it is running: no look tells them so, nor a
whole wait with others going on in between, nor one with nobody else around, which is such a wait.
An instance whose process has ended is not found running either, and who waits for it is answered
at once. -/
theorem Run.lifecycle {start finish : Scene} {events before after : List Event} {id : AlgorithmId}
    {process : Nat} (fresh : start.Fresh) (run : Run start events finish)
    (started : events = before ++ .started id process :: after) :
    (∃ n m k terminal, terminal.isTerminal = true ∧
      statuses id (untilDrained after) =
        List.replicate n .running ++ List.replicate m terminal ∧
      statuses id (fromDrained after) = List.replicate k .notFound) ∧
    kills id events ≤ 1 ∧
    (∀ status ∈ statuses id after, status.isTerminal = true →
      (status = .killed ↔ .killed id (.ok ()) ∈ events)) ∧
    (∀ code, .exited code ∈ statuses id after →
      finish.world.host.HasEnded process (.exited code) ∨
        ∃ signal, finish.world.host.HasEnded process (.signaled signal) ∧ code = 128 + signal) ∧
    (∀ other status, .waited other (some status) ∈ events → status ≠ .running) ∧
    (∀ earlier between later, Run start earlier between → Run between later finish →
      ∀ i, between.driver.algorithms.get? id = some i → i.status.isTerminal = true →
        ∀ r, .killed id r ∈ untilDrained later → r = .error (.alreadyExited id)) ∧
    (∀ earlier between, Run start earlier between → ∀ other,
      (∀ looks status later, Waits other between looks status later → status ≠ .running) ∧
      (∀ status, (between.driver.wait other between.world).1 = some status →
        ∃ looks, Waits other between looks status
          (between.after (between.driver.wait other between.world)))) ∧
    (∀ earlier between, Run start earlier between →
      ∀ other i status, between.driver.algorithms.get? other = some i →
        between.world.host.HasEnded i.process status →
          (between.driver.status other between.world).1 ≠ .running ∧
          (between.driver.wait other between.world).1 =
            some (between.driver.status other between.world).1) := by
  have once := run.kills_le_one fresh id
  subst started
  obtain ⟨none, steps⟩ := run.steps_of_started fresh
  obtain ⟨⟨n, m, terminal, isTerminal, held, outcome⟩, dropped⟩ := steps.of_running
  have killed : kills id after = 0 ↔
      .killed id (.ok ()) ∉ before ++ .started id process :: after := by
    rw [← kills_eq_zero_iff]
    have apart : isKill id (.started id process) = false := rfl
    rw [kills_append, none, Nat.zero_add, kills_cons_of_false apart]
  -- A terminal status can only have been reported while the instance was registered.
  have reported : ∀ status ∈ statuses id after, status.isTerminal = true →
      status = terminal ∧ 0 < m := by
    intro status mem final
    rw [statuses_eq_append, held, List.mem_append, List.mem_append] at mem
    rcases mem with (mem | mem) | mem
    · rw [(List.mem_replicate.1 mem).2] at final
      cases final
    · obtain ⟨some, rfl⟩ := List.mem_replicate.1 mem
      exact ⟨rfl, Nat.pos_of_ne_zero some⟩
    · rw [dropped status mem] at final
      cases final
  refine ⟨⟨n, m, _, terminal, isTerminal, held, List.eq_replicate_of_mem dropped⟩, once, ?_, ?_,
    fun other status mem => run.waited_ne_running mem, ?_, ?_, ?_⟩
  · intro status mem final
    obtain ⟨rfl, some⟩ := reported status mem final
    rcases outcome with ⟨one, rfl⟩ | ⟨zero, exited⟩
    · refine ⟨fun _ => Classical.byContradiction fun absent => ?_, fun _ => rfl⟩
      rw [killed.2 absent] at one
      cases one
    · refine ⟨fun h => ?_, fun h => absurd h (killed.1 zero)⟩
      rcases exited with rfl | ⟨_, _, rfl⟩
      · cases some
      · cases h
  · intro code mem
    obtain ⟨rfl, some⟩ := reported (.exited code) mem rfl
    rcases outcome with ⟨_, h⟩ | ⟨_, rfl | ⟨status, ended, same⟩⟩
    · cases h
    · cases some
    · rw [Status.exited.injEq] at same
      subst same
      cases status with
      | exited code => exact .inl ended
      | signaled signal => exact .inr ⟨signal, ended, rfl⟩
  · intro earlier between later first second i found final r mem
    exact second.killed_of_terminal (first.sound fresh.sound) found final mem
  · intro earlier between _ other
    obtain ⟨looks, _, answered⟩ := between.wait other
    exact ⟨fun _ _ _ waits => waits.ne_running, fun status h => ⟨looks, answered status h⟩⟩
  · intro earlier between first other i status found ended
    have sound := first.sound fresh.sound
    exact ⟨sound.status_ne_running found ended, sound.wait_eq found ended⟩

/-! ## A short life -/

/-- A new driver on a machine whose only program exits with code 3. -/
def Scene.sample : Scene where
  driver := { config := { directory := some "/" } }
  world := { host := { files := ⟨[.directory 0 [("three", 1)], .program fun _ => .result 3]⟩ } }

/-- The instance of the program. -/
def Instance.sample : Instance where
  name := "three"
  process := 0
  input := .owned ⟨0⟩
  output := some ⟨0⟩

/-- The scene after the program was started. -/
def Scene.sampleStarted : Scene where
  driver := Scene.sample.driver
  world :=
    { host :=
        { files := Scene.sample.world.host.files
          pipes := [[], []]
          descriptions :=
            [{ object := .readEnd 0 }, { object := .writeEnd 0 }, { object := .readEnd 1 },
             { object := .writeEnd 1 }]
          processes :=
            [{ parent := none
               activity := .running (.result 3)
               descriptors := [(0, 0), (1, 3), (2, 0)]
               directory := 0 }] }
      sources := [{ stream := some { description := 2, capacity := 0 } }]
      sinks := [{ stream := some { description := 1, capacity := 0 } }] }
  arriving := [.sample]

theorem Scene.sample_find : Scene.sample.world.host.files.find 0 "/three" = .ok 1 := by
  have names : Path.names "/three" = ["three"] := by decide +kernel
  exact FileTree.find_entry (by decide +kernel) (by decide) (by decide +kernel) names rfl (by decide)
    (by decide) (by decide +kernel) rfl nofun

theorem Scene.sample_resolve :
    Scene.sample.driver.config.resolve Scene.sample.world.host "three" =
      .ok { program := "/three" } :=
  Config.resolve_of_program rfl rfl ⟨by decide, by decide, by decide, by decide⟩ (by decide +kernel)
    (by decide) Scene.sample_find rfl

theorem Scene.sample_spawned : Scene.sample.driver.spawn "three" Scene.sample.world =
    .ok (.sample, Scene.sampleStarted.world) := by
  let host := Scene.sample.world.host.hold Scene.sample.world.errors
  have loaded : host.loadCommand host.directory host.searchPath "/three"
      (Instance.given { program := "/three" } Scene.sample.world.host) = .ok (.result 3) :=
    Host.loadCommand_of_program (by decide) Scene.sample_find rfl (by decide +kernel) host.searchPath
  have started : Instance.start "three" { program := "/three" } .inherit Scene.sample.world =
      .ok (.sample, Scene.sampleStarted.world) :=
    Instance.start_eq_ok_iff.2 ⟨rfl, _, host, _, rfl, loaded, rfl, rfl⟩
  exact Driver.spawn_eq_ok_iff.2 ⟨_, Scene.sample_resolve, started⟩

theorem Scene.sample_spawn : Step Scene.sample .silent Scene.sampleStarted :=
  .spawn Scene.sample_spawned

/-- The world after the instance was registered. -/
def Scene.sampleRegistered : World := Scene.sampleStarted.world.record (.started "three" ⟨1⟩)

/-- The world after the file of the program was opened for reading. -/
def Scene.sampleRead : World :=
  { Scene.sampleRegistered with
    host :=
      { Scene.sampleRegistered.host with
        descriptions := Scene.sampleRegistered.host.descriptions ++ [{ object := .node 1 }] }
    sources :=
      Scene.sampleRegistered.sources ++
        [{ stream := some { description := 4, capacity := bufferSize } }] }

theorem Scene.sample_acquireRead : Driver.acquireRead "/three" Scene.sampleRegistered =
    .ok ({ path := "/three", pipe := ⟨1⟩ }, Scene.sampleRead) := by
  have opened : Scene.sampleRegistered.host.openRead 0 "/three" = .ok (4, Scene.sampleRead.host) :=
    Host.openRead_eq_ok_iff.2 ⟨1, Scene.sample_find, rfl, rfl⟩
  exact Driver.acquireRead_eq_ok_iff.2 ⟨by decide +kernel, _, _, opened, rfl, rfl, rfl⟩

/-- An instance is started, seen running, ends, and is found to have exited with the code of its
process. -/
theorem Run.lifecycle_sample : Scene.sample.Fresh ∧ ∃ finish,
    Run Scene.sample
      ([.silent] ++ .started ⟨1⟩ 0 :: [.looked ⟨1⟩ .running, .silent, .looked ⟨1⟩ (.exited 3),
        .killed ⟨1⟩ (.error (.alreadyExited ⟨1⟩)), .drained, .looked ⟨1⟩ .notFound]) finish ∧
    (finish.world.host.HasEnded 0 (.exited 3) ∨
      ∃ signal, finish.world.host.HasEnded 0 (.signaled signal) ∧ 3 = 128 + signal) := by
  have fresh : Scene.sample.Fresh := ⟨rfl, rfl, rfl⟩
  refine ⟨fresh, ?_⟩
  have run : ∃ finish, Run Scene.sample
      ([.silent] ++ .started ⟨1⟩ 0 :: [.looked ⟨1⟩ .running, .silent, .looked ⟨1⟩ (.exited 3),
        .killed ⟨1⟩ (.error (.alreadyExited ⟨1⟩)), .drained, .looked ⟨1⟩ .notFound]) finish := by
    refine Run.exists_cons Scene.sample_spawn ?_
    refine Run.exists_cons (.register (i := .sample) List.mem_cons_self) ?_
    refine Run.exists_cons (.status ⟨1⟩) ?_
    refine Run.exists_cons (.elsewhere rfl rfl (World.settle_later _)) ?_
    refine Run.exists_cons (.status ⟨1⟩) ?_
    refine Run.exists_cons (.kill ⟨1⟩ World.progress_nothing) ?_
    refine Run.exists_cons .drain ?_
    exact ⟨_, .single (.status ⟨1⟩)⟩
  obtain ⟨finish, run⟩ := run
  refine ⟨finish, run, ?_⟩
  obtain ⟨_, _, _, exits, _⟩ := Run.lifecycle fresh run rfl
  exact exits 3 (by decide)

end AlgorithmDriver

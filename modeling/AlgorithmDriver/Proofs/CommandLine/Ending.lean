import AlgorithmDriver.Proofs.CommandLine.Turns
import AlgorithmDriver.Proofs.Driver.Dismissal

/-!
# How a run ends

The driver of a run has a single instance, that of the algorithm, and looks at it only in the end.

* `Exchange.Tended` says so while the run goes on, and `Exchange.Left` what is left when it is over:
  the process has been waited for, and the driver has nothing any more.
* Up to the last turn of the main party, no party does anything to a process (`Turn.processes`,
  `Feeding.processes`).  So an algorithm that is found to have exited ended on its own
  (`Exchange.Exited`).
* `Exchange.Concluded` puts this together; every step keeps it.
-/

namespace AlgorithmDriver.CommandLine.Exchange

variable {c : Connection} {e e' : Exchange} {i : Instance}

/-! ## The driver of a run -/

/-- The algorithm is the only instance of the driver, and was not found to have ended. -/
structure Tended (c : Connection) (e : Exchange) (i : Instance) : Prop where
  single : e.driver.algorithms.entries = [(c.id.raw, i)]
  process : i.process = c.process
  running : i.status = .running
  accounted : i.Accounted e.world []

/-- The driver has nothing any more, and the process of the algorithm has been waited for. -/
structure Left (c : Connection) (e : Exchange) : Prop where
  algorithms : e.driver.algorithms.entries = []
  readFiles : e.driver.readFiles.entries = []
  writeFiles : e.driver.writeFiles.entries = []
  waited : e.world.host.Waited c.process

/-- The process of the algorithm has ended with this code, which is that of its exit or belongs to the
signal that ended it. -/
def Exited (c : Connection) (code : Nat) (host : Host) : Prop :=
  ∃ status, host.HasEnded c.process status ∧
    (status = .exited code ∨ ∃ signal, status = .signaled signal ∧ code = 128 + signal)

/-- How the driver and the process stand, while the run goes on and when it is over. -/
structure Concluded (c : Connection) (e : Exchange) : Prop where
  tended : e.result? = none → ∃ i, Tended c e i
  left : e.result? ≠ none → Left c e
  exited : ∀ code, e.result? = some (.ok code) → Exited c code e.world.host

theorem Tended.found (tended : Tended c e i) : e.driver.algorithms.get? c.id = some i := by
  unfold Table.get?
  rw [tended.single, List.lookup_cons_self]

theorem Tended.ahead (tended : Tended c e i) (same : e'.driver.algorithms = e.driver.algorithms)
    (ahead : e.world.Ahead e'.world) : Tended c e' i :=
  ⟨same ▸ tended.single, tended.process, tended.running, tended.accounted.ahead ahead⟩

theorem Exited.later {code : Nat} {host after : Host} (exited : Exited c code host)
    (later : host.Later after) : Exited c code after := by
  obtain ⟨status, ended, how⟩ := exited
  exact ⟨status, later _ _ ended, how⟩

/-- Whoever does not touch the driver leaves it at that. -/
theorem Concluded.ahead (concluded : Concluded c e) (driver : e'.driver = e.driver)
    (stage : e'.stage = e.stage) (ahead : e.world.Ahead e'.world) : Concluded c e' := by
  have result : e'.result? = e.result? := by
    unfold result?
    rw [stage]
  refine ⟨fun going => ?_, fun ended => ?_, fun code ended => ?_⟩
  · obtain ⟨i, tended⟩ := concluded.tended (result ▸ going)
    exact ⟨i, tended.ahead (driver ▸ rfl) ahead⟩
  · obtain ⟨algorithms, readFiles, writeFiles, waited⟩ := concluded.left (result ▸ ended)
    exact ⟨driver ▸ algorithms, driver ▸ readFiles, driver ▸ writeFiles, ahead.waited waited⟩
  · exact (concluded.exited code (result ▸ ended)).later ahead.later

/-! ## What parties do to processes -/

/-- The main party does nothing to processes as long as the run goes on. -/
theorem Turn.processes (turn : Turn e e') (going : e'.result? = none) :
    e'.world.host.processes = e.world.host.processes := by
  cases turn with
  | noInput => exact (World.dropSink_processes _ _).trans (World.closeSink_processes _ _)
  | input _ _ opened =>
    have same := Driver.acquireRead_processes opened
    exact (World.holdSource_processes _ _).trans same
  | noOutput => exact World.holdSink_processes _ _
  | output _ _ opened =>
    have same := Driver.acquireWrite_processes opened
    exact (World.holdSink_processes _ _).trans same
  | piece _ goes => exact goes.copies.processes
  | collected _ goes => exact (World.dropSink_processes _ _).trans goes.copies.processes
  | noFile => rfl
  | flushed => exact Driver.closeWrite_processes _ _ _
  | noFeeder => rfl
  | joined _ _ noted =>
    rcases noted with rfl | ⟨entry, rfl⟩
    · exact Driver.closeRead_processes _ _ _
    · exact Driver.closeRead_processes _ _ _
  | halts => cases going

theorem Feeding.processes (feeding : Feeding e e') :
    e'.world.host.processes = e.world.host.processes := by
  cases feeding with
  | onward _ goes => exact goes.copies.processes
  | done _ goes =>
    refine (World.dropSource_processes _ _).trans ((World.dropSink_processes _ _).trans ?_)
    exact (World.closeSink_processes _ _).trans goes.copies.processes

theorem dropOutput_processes (stage : Stage) (world : World) :
    (dropOutput stage world).host.processes = world.host.processes := by
  unfold dropOutput
  split
  · exact (World.dropSink_processes _ _).trans (World.dropSource_processes _ _)
  · exact World.dropSource_processes _ _
  · exact (World.dropSink_processes _ _).trans (World.dropSource_processes _ _)
  · exact World.dropSource_processes _ _
  · exact World.dropSource_processes _ _
  · exact World.dropSource_processes _ _
  · rfl

theorem Touch.onward {after : World} (touch : Touch c e after) : e.world.Onward after := by
  cases touch with
  | manages manages => exact manages.spares.onward
  | opensRead _ opens manages => exact opens.onward.trans manages.spares.onward
  | opensWrite _ _ opens manages => exact opens.onward.trans manages.spares.onward
  | copies _ copies manages => exact copies.ahead.onward.trans manages.spares.onward

theorem Turn.ahead (turn : Turn e e') (plan : Plan c e) (going : e'.result? = none) :
    e.world.Ahead e'.world :=
  ⟨.of_processes (turn.processes going), (turn.touch plan).onward⟩

theorem Feeding.ahead (feeding : Feeding e e') : e.world.Ahead e'.world := by
  have processes := feeding.processes
  obtain ⟨_, _, _, copies, manages⟩ := feeding.touch
  exact ⟨.of_processes processes, copies.ahead.onward.trans manages.spares.onward⟩

/-! ## The end -/

/-- Whoever ends a run waits for the process of the algorithm. -/
theorem finish_left {m : Exchange} {deeds : List Deed}
    (single : m.driver.algorithms.entries = [(c.id.raw, i)]) (process : i.process = c.process)
    (accounted : i.Accounted m.world deeds) (result : Except RunError Nat) :
    Left c (m.finish result) := by
  have dropped : m.world.Ahead (dropOutput m.stage m.world) :=
    ⟨.of_processes (dropOutput_processes m.stage m.world), (dropOutput_manages _ _).spares.onward⟩
  have waited := Driver.closeAll_waited single (accounted.ahead dropped)
  rw [process] at waited
  exact ⟨rfl, rfl, rfl, waited⟩

theorem finish_later (m : Exchange) (result : Except RunError Nat) :
    m.world.Later (m.finish result).world := by
  have dropped : m.world.Later (dropOutput m.stage m.world) :=
    .of_processes (dropOutput_processes m.stage m.world)
  exact dropped.trans (Driver.closeAll_later _ _)

/-- An instance that is found to have exited has ended, and its code says how. -/
theorem exited_of_poll {world : World} {code : Nat} (running : i.status = .running)
    (process : i.process = c.process) (found : (i.poll world).1.status = .exited code) :
    Exited c code world.host := by
  rcases i.poll_spec world with same | ⟨status, ended, _, ⟨stopped, _⟩ | ⟨_, looked⟩⟩
  · rw [same, running] at found
    cases found
  · exact absurd running stopped
  · rw [looked] at found
    obtain rfl : status.code = code := Status.exited.inj found
    refine ⟨status, process ▸ ended, ?_⟩
    cases status with
    | exited code => exact .inl rfl
    | signaled signal => exact .inr ⟨signal, rfl, rfl⟩

/-- What the main party leaves to clean up. -/
theorem Halts.left {result : Except RunError Nat} {m : Exchange} (halts : Halts e result m)
    (plan : Plan c e) (tended : Tended c e i) : Left c (m.finish result) := by
  cases halts with
  | unopened => exact finish_left tended.single tended.process tended.accounted _
  | @uncopied _ _ _ world stage ended =>
    have copied := tended.accounted.ahead (Transfer.step_goes ended).copies.ahead
    exact @finish_left c i { e with world } _ tended.single tended.process copied _
  | @unflushed s id _ _ _ =>
    have closed : e.world.Ahead (e.driver.closeWrite id e.world).2.2 :=
      ⟨.of_processes (Driver.closeWrite_processes _ _ _), (Driver.closeWrite_manages _ _ _).spares.onward⟩
    refine finish_left ?_ tended.process (tended.accounted.ahead closed) _
    show (e.driver.closeWrite id e.world).2.1.algorithms.entries = _
    rw [(closeWrite_driver e.driver id e.world).2]
    exact tended.single
  | @exited s j code stage found status =>
    have has := plan.has
    rw [stage] at has
    obtain rfl : j = i := Option.some.inj (found.symm.trans (has.1 ▸ tended.found))
    refine finish_left ?_ ((j.poll_process e.world).trans tended.process) tended.accounted.poll _
    show (e.driver.algorithms.set s.id (j.poll e.world).1).entries = _
    unfold Table.set
    rw [tended.single, has.1]
    simp

/-- Every turn but the last one leaves the driver's instance alone. -/
theorem Turn.algorithms (turn : Turn e e') (going : e'.result? = none) :
    e'.driver.algorithms = e.driver.algorithms := by
  cases turn with
  | flushed => exact (closeWrite_driver _ _ _).2
  | joined => exact (Driver.closeRead_aside _ _ _).algorithms
  | halts => cases going
  | _ => rfl

/-- A run that is over does not go on. -/
theorem Turn.going (turn : Turn e e') : e.result? = none := by
  refine result?_eq_none_iff.2 fun result «over» => ?_
  cases turn with
  | halts halts =>
    cases halts with
    | unopened _ early =>
      rcases early with ⟨_, _, stage⟩ | ⟨_, stage⟩ <;> cases stage.symm.trans «over»
    | uncopied stage => cases stage.symm.trans «over»
    | unflushed _ stage => cases stage.symm.trans «over»
    | exited stage => cases stage.symm.trans «over»
  | noInput stage | input stage | noOutput stage | output stage | piece stage | collected stage
    | noFile stage | flushed stage | noFeeder stage | joined stage => cases stage.symm.trans «over»

/-- A run that is over has no next turn. -/
theorem going_of_mainStep (step : e.mainStep = some e') : e.result? = none := by
  refine result?_eq_none_iff.2 fun result «over» => ?_
  unfold mainStep at step
  rw [«over»] at step
  cases step

theorem Concluded.turn (concluded : Concluded c e) (plan : Plan c e)
    (step : e.mainStep = some e') : Turn e e' := by
  obtain ⟨i, tended⟩ := concluded.tended (going_of_mainStep step)
  exact plan.turn tended.found tended.running step

theorem Concluded.ofTurn (concluded : Concluded c e) (plan : Plan c e) (turn : Turn e e') :
    Concluded c e' := by
  obtain ⟨i, tended⟩ := concluded.tended turn.going
  by_cases going : e'.result? = none
  · refine ⟨fun _ => ⟨i, tended.ahead (turn.algorithms going) (turn.ahead plan going)⟩,
      fun ended => absurd going ended, fun code ended => ?_⟩
    cases going.symm.trans ended
  · cases turn with
    | @halts m result halts =>
      refine ⟨(fun going => nomatch going), fun _ => halts.left plan tended, fun code ended => ?_⟩
      obtain rfl : result = .ok code := Option.some.inj ended
      cases halts with
      | @exited s j _ stage found status =>
        have has := plan.has
        rw [stage] at has
        obtain rfl : j = i := Option.some.inj (found.symm.trans (has.1 ▸ tended.found))
        have ended := exited_of_poll tended.running tended.process status
        exact ended.later ((j.poll_later e.world).trans (finish_later { e with
          driver := e.driver.note s.id (j.poll e.world).1, world := (j.poll e.world).2 } (.ok code)))
    | _ => exact absurd rfl going

theorem Concluded.ofFeeding (concluded : Concluded c e) (feeding : Feeding e e') :
    Concluded c e' := by
  have ahead := feeding.ahead
  cases feeding <;> exact concluded.ahead rfl rfl ahead

theorem Concluded.ofOthers {took put : Bytes} {world : World} (concluded : Concluded c e)
    (others : c.Others took put e.world world) : Concluded c { e with world } :=
  concluded.ahead rfl rfl others.toAhead

end AlgorithmDriver.CommandLine.Exchange

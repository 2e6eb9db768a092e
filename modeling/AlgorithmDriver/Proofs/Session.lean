import AlgorithmDriver.Proofs.Driver.Operations
import AlgorithmDriver.Session

/-!
# Sessions as runs

Several drivers share one machine.  To each of them, what a session does with the others, with
handles and with processes is only the rest of the machine going on.

* Each step of a session is a run of each of its drivers (`step_advances`).
* So is a whole session (`play_advances`); what callers can rely on in runs holds in sessions.
-/

namespace AlgorithmDriver.Session

/-! ## Steps on a driver -/

theorem startMany_run (name : String) (count : Nat) (driver : Driver) (world : World) :
    ∃ events, driver.Runs world events (startMany name count driver world).2.1
      (startMany name count driver world).2.2 := by
  induction count generalizing driver world with
  | zero => exact ⟨[], .nil driver world⟩
  | succ count ih =>
    obtain ⟨events, started, _⟩ := driver.start_run world name
    rw [startMany]
    rcases outcome : driver.start name world with ⟨_ | id, driver', world'⟩
    · rw [outcome] at started
      exact ⟨events, started⟩
    · rw [outcome] at started
      obtain ⟨more, run⟩ := ih driver' world'
      exact ⟨events ++ more, started.append run⟩

/-- A step on a driver is a run of it. -/
theorem onDriver_run (driver : Driver) (world : World) (operation : Operation) :
    ∃ events, driver.Runs world events (onDriver driver world operation).2.1
      (onDriver driver world operation).2.2 := by
  cases operation with
  | start name =>
    obtain ⟨events, run, _⟩ := driver.start_run world name
    exact ⟨events, run⟩
  | startMany name count => exact startMany_run name count driver world
  | status id => exact ⟨_, driver.status_run world id⟩
  | wait id =>
    obtain ⟨events, run, _⟩ := driver.wait_run world id
    exact ⟨events, run⟩
  | kill id => exact ⟨_, driver.kill_run world id⟩
  | openRead path => exact ⟨_, (driver.openRead_aside world path).run⟩
  | openWrite path => exact ⟨_, (driver.openWrite_aside world path).run⟩
  | closeRead id => exact ⟨_, (driver.closeRead_aside world id).run⟩
  | closeWrite id => exact ⟨_, (driver.closeWrite_aside world id).run⟩
  | openHandles => exact ⟨_, driver.openHandles_run world⟩
  | closeAll =>
    obtain ⟨n, run⟩ := driver.closeAll_run world
    exact ⟨_, run⟩
  | _ => exact ⟨[], .nil driver world⟩

/-- Asking a driver for a handle is a run of it. -/
theorem handleFrom_run {driver driver' : Driver} {world world' : World} {operation : Operation}
    {r : Except DriverError (Option (String × Handle))}
    (h : handleFrom driver world operation = some (r, driver', world')) :
    ∃ events, driver.Runs world events driver' world' := by
  cases operation with
  | input id slot =>
    cases h
    exact ⟨_, driver.inputPipe_run world id⟩
  | output id slot =>
    cases h
    exact ⟨_, driver.outputPipe_run world id⟩
  | readPipe id slot =>
    cases h
    exact ⟨_, (driver.readPipe_aside world id).run⟩
  | writePipe id slot =>
    cases h
    exact ⟨_, (driver.writePipe_aside world id).run⟩
  | _ => cases h

/-! ## Steps on handles -/

theorem dropHandle_later (world : World) (handle : Handle) :
    world.Later (dropHandle world handle) := by
  cases handle with
  | read handle => exact World.dropSource_later world handle
  | write handle => exact World.dropSink_later world handle

theorem onReader_later (world : World) (handle : ReadHandle) (operation : Operation) :
    world.Later (onReader world handle operation).2 := by
  cases operation with
  | close slot => exact World.closeSource_later world handle
  | read slot count =>
    have later := World.readOnce_later world handle count
    rw [onReader]
    split <;> rename_i outcome <;> rw [outcome] at later <;> exact later
  | readExact slot count =>
    have later := World.readExact_later world handle count
    rw [onReader]
    split <;> rename_i outcome <;> rw [outcome] at later <;> exact later
  | readLine slot =>
    have later := World.readLine_later world handle
    rw [onReader]
    split <;> rename_i outcome <;> rw [outcome] at later <;> exact later
  | readAll slot =>
    have later := World.readAll_later world handle
    rw [onReader]
    split <;> rename_i outcome <;> rw [outcome] at later <;> exact later
  | _ => exact .refl world

theorem onWriter_later (world : World) (handle : WriteHandle) (operation : Operation) :
    world.Later (onWriter world handle operation).2 := by
  cases operation with
  | close slot => exact World.closeSink_later world handle
  | write slot data => exact World.writeAll_later world handle data
  | writeOnce slot data =>
    have later := World.writeOnce_later world handle data
    rw [onWriter]
    split <;> rename_i outcome <;> rw [outcome] at later <;> exact later
  | flush slot => exact World.flush_later world handle
  | _ => exact .refl world

theorem onHandle_later (world : World) (handle : Handle) (operation : Operation) :
    world.Later (onHandle world handle operation).2 := by
  unfold onHandle
  split
  · exact .refl world
  · exact .refl world
  · exact onReader_later world _ _
  · exact onWriter_later world _ _

/-! ## Whole sessions -/

/-- Every driver of a session goes through a run. -/
def Advances (before after : Session) : Prop :=
  ∀ (k : Nat) (driver : Driver), before.drivers[k]? = some driver →
    ∃ driver' events, after.drivers[k]? = some driver' ∧
      driver.Runs before.world events driver' after.world

namespace Advances

theorem trans {a b c : Session} (hab : a.Advances b) (hbc : b.Advances c) : a.Advances c := by
  intro k driver found
  obtain ⟨driver', events, found', run⟩ := hab k driver found
  obtain ⟨driver'', more, found'', run'⟩ := hbc k driver' found'
  exact ⟨driver'', events ++ more, found'', run.append run'⟩

/-- No driver is touched. -/
theorem of_later {before after : Session} (same : after.drivers = before.drivers)
    (later : before.world.Later after.world) : before.Advances after := by
  intro k driver found
  exact ⟨driver, _, same ▸ found, .elapse driver later⟩

theorem refl (session : Session) : session.Advances session := of_later rfl (.refl _)

/-- One driver goes through a run; to the others it is the machine going on. -/
theorem of_run {session : Session} {number : Nat} {driver driver' : Driver} {world : World}
    {events : List Event} (found : session.drivers[number]? = some driver)
    (run : driver.Runs session.world events driver' world) :
    session.Advances { session with drivers := session.drivers.set number driver', world } := by
  intro k other found'
  by_cases same : number = k
  · subst same
    rw [found, Option.some.injEq] at found'
    subst found'
    have bound : number < session.drivers.length := (List.getElem?_eq_some_iff.1 found).1
    exact ⟨driver', events, List.getElem?_set_self bound, run⟩
  · exact ⟨other, _, (List.getElem?_set_ne same).trans found', .elapse other run.later⟩

end Advances

theorem clear_advances (session : Session) (slot : String) :
    session.Advances (session.clear slot) := by
  unfold clear
  split
  · exact .refl session
  · exact .of_later rfl (dropHandle_later _ _)

theorem store_advances (session : Session) (slot : String) (handle : Handle) :
    session.Advances (session.store slot handle) :=
  (clear_advances session slot).trans (.of_later rfl (.refl _))

theorem copyHandle_advances (session : Session) (source slot : String) :
    session.Advances (session.copyHandle source slot).2 := by
  unfold copyHandle
  split
  · exact .refl session
  · rename_i handle _
    cases handle with
    | read handle =>
      have copied : session.Advances { session with world := session.world.holdSource handle } :=
        .of_later rfl (World.holdSource_later _ handle)
      exact copied.trans (store_advances _ slot _)
    | write handle =>
      have copied : session.Advances { session with world := session.world.holdSink handle } :=
        .of_later rfl (World.holdSink_later _ handle)
      exact copied.trans (store_advances _ slot _)

theorem copyStream_advances (session : Session) (source sink : String) :
    session.Advances (session.copyStream source sink).2 := by
  unfold copyStream
  split
  · rename_i source sink _ _
    have later := World.copy_later session.world source sink
    split <;> rename_i outcome <;> rw [outcome] at later <;> exact .of_later rfl later
  · exact .refl session

theorem stepDriver_advances (session : Session) (number : Nat) (operation : Operation) :
    session.Advances (session.stepDriver number operation).2 := by
  unfold stepDriver
  split
  · exact .refl session
  · rename_i driver found
    split
    · rename_i asked
      obtain ⟨events, run⟩ := handleFrom_run asked
      have advanced := Advances.of_run found run
      dsimp only
      split
      · exact advanced
      · exact advanced
      · exact advanced.trans (store_advances _ _ _)
    · obtain ⟨events, run⟩ := onDriver_run driver session.world operation
      exact .of_run found run

/-- Each step of a session is a run of each of its drivers. -/
theorem step_advances (session : Session) (number : Nat) (operation : Operation) :
    session.Advances (session.step number operation).2 := by
  have settled : session.Advances { session with world := session.world.settle } :=
    .of_later rfl (World.settle_later _)
  refine settled.trans ?_
  unfold step
  dsimp only
  split
  · exact clear_advances _ _
  · exact copyHandle_advances _ _ _
  · exact copyStream_advances _ _ _
  · exact .refl _
  · split
    · exact stepDriver_advances _ number _
    · split
      · exact .refl _
      · exact .of_later rfl (onHandle_later _ _ _)

/-- What is left of a session after some steps. -/
def play (session : Session) (steps : List (Nat × Operation)) : Session :=
  steps.foldl (fun session step => (session.step step.1 step.2).2) session

/-- A whole session is a run of each of its drivers. -/
theorem play_advances (session : Session) (steps : List (Nat × Operation)) :
    session.Advances (session.play steps) := by
  induction steps generalizing session with
  | nil => exact .refl session
  | cons first rest ih => exact (step_advances session first.1 first.2).trans (ih _)

end AlgorithmDriver.Session

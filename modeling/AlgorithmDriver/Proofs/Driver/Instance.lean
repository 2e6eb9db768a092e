import AlgorithmDriver.Proofs.Driver.Later

/-!
# What a look at an instance can change

Two flags guard what the driver notes about an instance: its status, and whether its process was
waited for.  A look changes the status only when a running instance is found to have ended
(`poll_cases`), and a kill makes an instance `killed` only if it was running up to then
(`kill_cases`), whatever the process does before, between and after.

`Sound` says that what was noted is true: a running instance was not waited for, and an exit was
noted with the code of its process.
-/

namespace AlgorithmDriver.Instance

/-! ## True notes -/

/-- What is noted about an instance is true. -/
structure Sound (i : Instance) (world : World) : Prop where
  running : i.status = .running → i.reaped = false
  exited : ∀ code, i.status = .exited code →
    ∃ status, world.host.HasEnded i.process status ∧ code = status.code
  known : i.status ≠ .notFound

/-- What is true stays true. -/
theorem Sound.later {i : Instance} {before after : World} (sound : i.Sound before)
    (later : before.Later after) : i.Sound after where
  running := sound.running
  exited code h := by
    obtain ⟨status, ended, same⟩ := sound.exited code h
    exact ⟨status, later _ _ ended, same⟩
  known := sound.known

/-- An instance that was just started, or whose pipes were handed out since. -/
theorem Sound.of_running {i : Instance} {world : World} (running : i.status = .running)
    (fresh : i.reaped = false) : i.Sound world where
  running _ := fresh
  exited code h := by
    rw [running] at h
    cases h
  known h := by
    rw [running] at h
    cases h

/-! ## Looking -/

/-- What a look can change: it finds a running instance to have exited, and notes with which code,
or it changes nothing that shows. -/
inductive Looked (world : World) (i : Instance) : Instance → Prop
  | same {i' : Instance} (process : i'.process = i.process) (status : i'.status = i.status)
      (reaped : i.status = .running → i'.reaped = i.reaped) : Looked world i i'
  | exited {i' : Instance} {status : ExitStatus} (running : i.status = .running)
      (ended : world.host.HasEnded i.process status) (process : i'.process = i.process)
      (noted : i'.status = .exited status.code) : Looked world i i'

theorem poll_looked (i : Instance) (world : World) : Looked world i (i.poll world).1 := by
  rcases i.poll_spec world with same | ⟨status, ended, _, ⟨stopped, looked⟩ | ⟨running, looked⟩⟩
  · rw [same]
    exact .same rfl rfl fun _ => rfl
  · rw [looked]
    exact .same rfl rfl fun running => absurd running stopped
  · rw [looked]
    exact .exited running ended rfl rfl

/-- Handing out the input changes nothing that a look could find. -/
theorem inputPipe_same (i : Instance) (world : World) :
    (i.inputPipe world).2.1.process = i.process ∧ (i.inputPipe world).2.1.status = i.status ∧
      (i.inputPipe world).2.1.reaped = i.reaped :=
  i.inputPipe_instance world (P := fun i' =>
    i'.process = i.process ∧ i'.status = i.status ∧ i'.reaped = i.reaped) ⟨rfl, rfl, rfl⟩
    fun _ => ⟨rfl, rfl, rfl⟩

theorem Looked.sound {i i' : Instance} {world : World} (looked : Looked world i i')
    (sound : i.Sound world) : i'.Sound world := by
  cases looked with
  | same process status reaped =>
    refine ⟨fun running => ?_, fun code exited => ?_, ?_⟩
    · rw [status] at running
      rw [reaped running]
      exact sound.running running
    · rw [status] at exited
      rw [process]
      exact sound.exited code exited
    · rw [status]
      exact sound.known
  | @exited status running ended process noted =>
    refine ⟨fun running' => ?_, fun code exited => ?_, ?_⟩
    · rw [noted] at running'
      cases running'
    · rw [noted, Status.exited.injEq] at exited
      rw [process]
      exact ⟨status, ended, exited.symm⟩
    · rw [noted]
      intro h
      cases h

/-- Once an instance is not running any more, its status stays. -/
theorem Looked.status_of_stopped {i i' : Instance} {world : World} (looked : Looked world i i')
    (stopped : i.status ≠ .running) : i'.status = i.status := by
  cases looked with
  | same _ status _ => exact status
  | exited running _ _ _ => exact absurd running stopped

/-- A look at a running instance whose process has ended does not find it running. -/
theorem poll_status_of_hasEnded {i : Instance} {world : World} {status : ExitStatus}
    (sound : i.Sound world) (ended : world.host.HasEnded i.process status) :
    (i.poll world).1.status ≠ .running := by
  intro running
  by_cases before : i.status = .running
  · have answer := Host.tryWait_of_hasEnded ended
    unfold poll at running
    simp only [sound.running before, Bool.false_eq_true, if_false] at running
    split at running
    · rename_i silent
      rw [silent] at answer
      cases answer
    · simp only [before] at running
      cases running
  · rw [(poll_looked i world).status_of_stopped before] at running
    exact before running

/-! ## Killing -/

/-- What a kill can do: it is refused for an instance that is found to have ended, and else it makes
a running instance `killed`. -/
inductive Killed (world : World) (id : AlgorithmId) (i : Instance) :
    Except DriverError Unit → Instance → Prop
  | refused {i' : Instance} (looked : Looked world i i') (stopped : i'.status ≠ .running) :
      Killed world id i (.error (.alreadyExited id)) i'
  | done {i' : Instance} (running : i.status = .running) (process : i'.process = i.process)
      (noted : i'.status = .killed) : Killed world id i (.ok ()) i'

theorem kill_killed (i : Instance) (id : AlgorithmId) (world : World)
    (meanwhile : World → World) :
    Killed world id i (i.kill id world meanwhile).1 (i.kill id world meanwhile).2.1 := by
  have first := poll_looked i world
  unfold kill
  dsimp only
  split
  · rename_i running
    -- The signal is sent whether or not the process ends before it, and the status is final then.
    have second := poll_looked ((i.poll world).1.signal (meanwhile (i.poll world).2)).1
      (meanwhile ((i.poll world).1.signal (meanwhile (i.poll world).2)).2)
    have stays := second.status_of_stopped fun h => nomatch h
    cases first with
    | same process status _ =>
      refine .done (status.symm.trans running) ?_ stays
      cases second with
      | same process' _ _ => exact process'.trans process
      | exited running' _ _ _ => cases running'
    | exited _ _ _ noted =>
      rw [noted] at running
      cases running
  · rename_i stopped
    exact .refused first stopped

theorem Killed.sound {i i' : Instance} {world : World} {id : AlgorithmId}
    {r : Except DriverError Unit} (killed : Killed world id i r i') (sound : i.Sound world) :
    i'.Sound world := by
  cases killed with
  | refused looked _ => exact looked.sound sound
  | done _ _ noted =>
    refine ⟨fun h => ?_, fun code h => ?_, fun h => ?_⟩
    · rw [noted] at h
      cases h
    · rw [noted] at h
      cases h
    · rw [noted] at h
      cases h

end AlgorithmDriver.Instance

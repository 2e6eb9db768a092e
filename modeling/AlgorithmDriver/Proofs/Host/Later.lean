import AlgorithmDriver.Proofs.Host.FileTree
import AlgorithmDriver.Proofs.Host.Steps

/-!
# What time does to processes

A process that has ended stays as it is: nothing that happens on the host brings it back or changes
how it ended.  `Later` says so of two states of the host, and is what callers may rely on while
others work.

* Opening, reading, writing and closing leave the processes alone (`read_processes`,
  `write_processes`, `release_processes` and the like).
* The reply to a request leaves every process at what it was doing (`Replies.sameActivities`).
* A step of a process, and hence any number of them, leads to a later state (`step_later`,
  `settle_later`, `advance_later`).
-/

namespace AlgorithmDriver.Host

/-! ## Ended processes -/

/-- The process of the given number has ended with the given status. -/
def HasEnded (host : Host) (number : Nat) (status : ExitStatus) : Prop :=
  ∃ p, host.process? number = some p ∧ p.activity = .ended status

/-- Everything that has ended `before` has ended in the same way `after`. -/
def Later (before after : Host) : Prop :=
  ∀ number status, before.HasEnded number status → after.HasEnded number status

namespace Later

theorem refl (host : Host) : host.Later host := fun _ _ h => h

theorem trans {a b c : Host} (hab : a.Later b) (hbc : b.Later c) : a.Later c :=
  fun number status h => hbc number status (hab number status h)

/-- What leaves the processes alone leads to a later state. -/
theorem of_processes {before after : Host} (h : after.processes = before.processes) :
    before.Later after := by
  intro number status ended
  simpa only [HasEnded, process?, h] using ended

end Later

/-- Every process goes on with what it was doing, or has ended as it had. -/
def SameActivities (before after : Host) : Prop :=
  ∀ number, (after.process? number).map Process.activity =
    (before.process? number).map Process.activity

namespace SameActivities

theorem refl (host : Host) : host.SameActivities host := fun _ => rfl

theorem trans {a b c : Host} (hab : a.SameActivities b) (hbc : b.SameActivities c) :
    a.SameActivities c :=
  fun number => (hbc number).trans (hab number)

theorem of_processes {before after : Host} (h : after.processes = before.processes) :
    before.SameActivities after := by
  intro number
  simp only [process?, h]

theorem later {before after : Host} (h : before.SameActivities after) : before.Later after := by
  rintro number status ⟨p, found, ended⟩
  have same := h number
  rw [found, Option.map_some, ended] at same
  obtain ⟨q, found', ended'⟩ := Option.map_eq_some_iff.1 same
  exact ⟨q, found', ended'⟩

/-- A process is found again. -/
theorem process? {before after : Host} (h : before.SameActivities after) {number : Nat}
    {p : Process} (found : before.process? number = some p) :
    ∃ q, after.process? number = some q ∧ q.activity = p.activity := by
  have same := h number
  rw [found, Option.map_some] at same
  exact Option.map_eq_some_iff.1 same

end SameActivities

/-! ## Changing one process -/

theorem process?_setProcess_self {host : Host} {number : Nat} {p q : Process}
    (h : host.process? number = some p) : (host.setProcess number q).process? number = some q := by
  have bound : number < host.processes.length := (List.getElem?_eq_some_iff.1 h).1
  exact List.getElem?_set_self bound

theorem process?_setProcess_ne {host : Host} {number other : Nat} {q : Process}
    (h : number ≠ other) : (host.setProcess number q).process? other = host.process? other :=
  List.getElem?_set_ne h

/-- Changing a process that has not ended leads to a later state. -/
theorem setProcess_later {host : Host} {number : Nat} {p q : Process}
    (found : host.process? number = some p)
    (same : ∀ status, p.activity = .ended status → q.activity = .ended status) :
    host.Later (host.setProcess number q) := by
  rintro other status ⟨r, found', ended⟩
  by_cases h : number = other
  · subst h
    rw [found, Option.some.injEq] at found'
    subst found'
    exact ⟨q, process?_setProcess_self found, same status ended⟩
  · exact ⟨r, (process?_setProcess_ne h).trans found', ended⟩

theorem setProcess_sameActivities {host : Host} {number : Nat} {p q : Process}
    (found : host.process? number = some p) (same : q.activity = p.activity) :
    host.SameActivities (host.setProcess number q) := by
  intro other
  by_cases h : number = other
  · subst h
    rw [found, process?_setProcess_self found, Option.map_some, Option.map_some, same]
  · rw [process?_setProcess_ne h]

/-! ## Descriptions, files and pipes -/

@[simp] theorem setDescription_processes (host : Host) (number : Nat) (d : Description) :
    (host.setDescription number d).processes = host.processes := rfl

@[simp] theorem makePipe_processes (host : Host) :
    host.makePipe.2.2.processes = host.processes := rfl

@[simp] theorem hold_processes (host : Host) (number : Nat) :
    (host.hold number).processes = host.processes := by
  unfold hold
  split <;> rfl

@[simp] theorem release_processes (host : Host) (number : Nat) :
    (host.release number).processes = host.processes := by
  unfold release
  split <;> rfl

theorem AddsNode.processes {host after : Host} {number : Nat} (opens : host.AddsNode number after) :
    after.processes = host.processes := by
  obtain ⟨files, node, appends, -, rfl⟩ := opens
  rfl

theorem read_processes {host after : Host} {number count : Nat} {r : Except Errno Bytes}
    (h : host.read number count = some (r, after)) : after.processes = host.processes := by
  cases read_reads h <;> rfl

theorem write_processes {host after : Host} {number : Nat} {data : Bytes} {r : Except Errno Nat}
    (h : host.write number data = some (r, after)) : after.processes = host.processes := by
  cases write_writes h <;> rfl

/-! ## Signals and ends -/

theorem Adjusts.sameActivities {host after : Host} {number : Nat}
    (adjusts : host.Adjusts number after) : host.SameActivities after := by
  cases adjusts with
  | nothing => exact .refl host
  | process found kept => exact setProcess_sameActivities found kept.activity

/-- Only the process itself changes. -/
theorem Adjusts.process?_ne {host after : Host} {number other : Nat}
    (adjusts : host.Adjusts number after) (h : number ≠ other) :
    after.process? other = host.process? other := by
  cases adjusts with
  | nothing => rfl
  | process => exact process?_setProcess_ne h

theorem send_sameActivities (host : Host) (number : Nat) (signal : Signal) :
    host.SameActivities (host.send number signal) :=
  (send_adjusts host number signal).sameActivities

theorem tryWait_sameActivities (host : Host) (number : Nat) :
    host.SameActivities (host.tryWait number).2 :=
  (tryWait_adjusts host number).sameActivities

/-- An answer about the end of a process is true. -/
theorem hasEnded_of_tryWait {host : Host} {number : Nat} {status : ExitStatus}
    (h : (host.tryWait number).1 = some status) : host.HasEnded number status := by
  unfold tryWait at h
  split at h
  · rename_i p found
    split at h
    · rename_i ended
      cases h
      exact ⟨p, found, ended⟩
    · cases h
  · cases h

/-- Asking in vain changes nothing. -/
theorem tryWait_of_silent {host : Host} {number : Nat} (h : (host.tryWait number).1 = none) :
    (host.tryWait number).2 = host := by
  unfold tryWait at h ⊢
  split
  · rename_i p found
    rw [found] at h
    dsimp only at h ⊢
    split
    · rename_i status ended
      rw [ended] at h
      cases h
    · rfl
  · rfl

/-- Who asks about a process that has ended gets an answer. -/
theorem tryWait_of_hasEnded {host : Host} {number : Nat} {status : ExitStatus}
    (h : host.HasEnded number status) : (host.tryWait number).1 = some status := by
  obtain ⟨p, found, ended⟩ := h
  unfold tryWait
  simp only [found, ended]

theorem foldl_release_processes (descriptors : List (Nat × Nat)) (host : Host) :
    (descriptors.foldl (fun host d => host.release d.2) host).processes = host.processes := by
  induction descriptors generalizing host with
  | nil => rfl
  | cons d rest ih => exact (ih (host.release d.2)).trans (release_processes host d.2)

/-- Ending a process that has not ended yet leads to a later state. -/
theorem finish_later {host : Host} {number : Nat} {p : Process} {program : Program Nat}
    (found : host.process? number = some p) (running : p.activity = .running program)
    (status : ExitStatus) : host.Later (host.finish number status) := by
  unfold finish
  simp only [found]
  have same := foldl_release_processes p.descriptors host
  refine (Later.of_processes same).trans (setProcess_later (p := p) ?_ ?_)
  · simpa only [process?, same] using found
  · intro other ended
    rw [running] at ended
    cases ended

theorem deliver_later (host : Host) (number : Nat) : host.Later (host.deliver number) := by
  unfold deliver
  split
  · rename_i found
    exact finish_later found rfl _
  · exact .refl host

/-! ## Requests -/

theorem bindDescriptor_sameActivities (host : Host) (number descriptor description : Nat) :
    host.SameActivities (host.bindDescriptor number descriptor description) := by
  unfold bindDescriptor
  split
  · exact .refl host
  · rename_i found
    exact setProcess_sameActivities found rfl

theorem closeDescriptor_sameActivities (host : Host) (number descriptor : Nat) :
    host.SameActivities (host.closeDescriptor number descriptor) := by
  unfold closeDescriptor
  split
  · exact .refl host
  · rename_i found
    split
    · exact .refl host
    · refine (setProcess_sameActivities found ?_).trans (.of_processes (release_processes _ _))
      rfl

theorem foldl_closeDescriptor_sameActivities (number : Nat) (descriptors : List (Nat × Nat))
    (host : Host) :
    host.SameActivities
      (descriptors.foldl (fun host d => host.closeDescriptor number d.1) host) := by
  induction descriptors generalizing host with
  | nil => exact .refl host
  | cons d rest ih => exact (closeDescriptor_sameActivities host number d.1).trans (ih _)

theorem closePrivate_sameActivities (host : Host) (number : Nat) :
    host.SameActivities (host.closePrivate number) := by
  unfold closePrivate
  split
  · exact .refl host
  · exact foldl_closeDescriptor_sameActivities number _ host

/-- The reply to a request leaves every process at what it was doing. -/
theorem Replies.sameActivities {host after : Host} {number : Nat} {p : Process}
    (replies : host.Replies number p after) : host.SameActivities after := by
  cases replies with
  | adjusts adjusts => exact adjusts.sameActivities
  | read _ done => exact .of_processes (read_processes done)
  | write _ done => exact .of_processes (write_processes done)
  | signalled _ done =>
    have written : host.SameActivities _ := .of_processes (write_processes done)
    exact written.trans (send_sameActivities _ _ _)
  | opened done =>
    have opened : host.SameActivities _ := .of_processes (openFile_adds done).processes
    exact opened.trans (bindDescriptor_sameActivities _ _ _ _)
  | closed descriptor => exact closeDescriptor_sameActivities host number descriptor
  | @duplicated _ m target _ =>
    have held : host.SameActivities (host.hold m) := .of_processes (hold_processes host m)
    exact (held.trans (closeDescriptor_sameActivities _ _ _)).trans
      (bindDescriptor_sameActivities _ _ _ _)
  | @saved _ m least _ =>
    have held : host.SameActivities (host.hold m) := .of_processes (hold_processes host m)
    exact held.trans (bindDescriptor_sameActivities _ _ _ _)
  | piped first second =>
    have made : host.SameActivities host.makePipe.2.2 := .of_processes (makePipe_processes host)
    exact (made.trans (bindDescriptor_sameActivities _ _ _ _)).trans
      (bindDescriptor_sameActivities _ _ _ _)

/-! ## Steps -/

section Steps

variable {host after : Host} {number : Nat} {p : Process} {program : Program Nat}

/-- Letting a running process go on leads to a later state. -/
theorem resume_later (found : host.process? number = some p)
    (running : p.activity = .running program) (next : Program Nat) :
    host.Later (host.resume number next) := by
  unfold resume
  simp only [found]
  refine setProcess_later found ?_
  intro status ended
  rw [running] at ended
  cases ended

/-- A running process that was replied to can go on. -/
theorem SameActivities.resume_later (same : host.SameActivities after)
    (found : host.process? number = some p) (running : p.activity = .running program)
    (next : Program Nat) : host.Later (after.resume number next) := by
  obtain ⟨q, found', same'⟩ := same.process? found
  exact same.later.trans (Host.resume_later found' (same'.trans running) next)

theorem foldl_hold_processes (descriptors : List (Nat × Nat)) (host : Host) :
    (descriptors.foldl (fun host d => host.hold d.2) host).processes = host.processes := by
  induction descriptors generalizing host with
  | nil => rfl
  | cons d rest ih => exact (ih (host.hold d.2)).trans (hold_processes host d.2)

/-- A new process changes no other. -/
theorem append_process? (host : Host) (processes : List Process) (added : Process)
    (same : processes = host.processes) (found : host.process? number = some p) :
    { host with processes := processes ++ [added] }.process? number = some p := by
  subst same
  exact (List.getElem?_append_left (List.getElem?_eq_some_iff.1 found).1).trans found

/-- Starting a process changes no other. -/
theorem start_later (host : Host) (program : Program Nat) (input output errors : Nat) :
    host.Later (host.start program input output errors).2 := by
  rintro number status ⟨p, found, ended⟩
  exact ⟨p, append_process? _ _ _ rfl found, ended⟩

theorem fork_later (found : host.process? number = some p) (running : p.activity = .running program)
    (next : Reply → Program Nat) : host.Later (host.fork number p next) := by
  unfold fork
  dsimp only
  have same := foldl_hold_processes p.descriptors host
  refine Later.trans ?_ (resume_later (append_process? _ _ _ rfl ?_) running _)
  · rintro other status ⟨q, found', ended⟩
    refine ⟨q, append_process? _ _ _ rfl ?_, ended⟩
    simpa only [process?, same] using found'
  · simpa only [process?, same] using found

theorem replace_later (found : host.process? number = some p)
    (running : p.activity = .running program) (next : Program Nat) :
    host.Later (host.replace number next) := by
  have same := closePrivate_sameActivities host number
  obtain ⟨q, found', same'⟩ := same.process? found
  refine same.later.trans ?_
  unfold replace
  simp only [found']
  refine setProcess_later found' ?_
  intro status ended
  rw [same', running] at ended
  cases ended

/-- A step of a process leads to a later state. -/
theorem step_later (h : host.step number = some after) : host.Later after := by
  obtain ⟨p, program, found, running, steps⟩ := step_steps h
  cases steps with
  | delivered => exact deliver_later host number
  | finished status => exact finish_later found running status
  | forked next => exact fork_later found running next
  | replaced next => exact replace_later found running next
  | resumed replied next => exact replied.sameActivities.resume_later found running next
  | adjusts adjusts => exact adjusts.sameActivities.later

theorem turn_later (number steps : Nat) (host : Host) (moved : Bool) :
    host.Later (turn number steps host moved).1 := by
  induction steps generalizing host moved with
  | zero => exact .refl host
  | succ steps ih =>
    rw [turn]
    split
    · exact .refl host
    · rename_i stepped
      exact (step_later stepped).trans (ih _ _)

theorem round_later (host : Host) : host.Later host.round.1 := by
  unfold round
  generalize List.range host.processes.length = numbers
  generalize false = moved
  induction numbers generalizing host moved with
  | nil => exact .refl host
  | cons number rest ih => exact (turn_later number turnLength host moved).trans (ih _ _)

theorem settleFor_later (rounds : Nat) (host : Host) : host.Later (settleFor rounds host) := by
  induction rounds generalizing host with
  | zero => exact .refl host
  | succ rounds ih =>
    rw [settleFor]
    have later := round_later host
    split
    · rename_i moved
      rw [moved] at later
      exact later.trans (ih _)
    · rename_i still
      rw [still] at later
      exact later

/-- Letting the processes run leads to a later state. -/
theorem settle_later (host : Host) : host.Later host.settle := settleFor_later mostRounds host

theorem advance_later (host : Host) : host.Later host.advance := by
  unfold advance
  dsimp only
  split
  · exact settle_later host
  · split
    · exact settle_later host
    · refine (settle_later host).trans (Later.trans (.of_processes ?_) (settle_later _))
      rfl

end Steps

end AlgorithmDriver.Host

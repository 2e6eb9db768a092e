import AlgorithmDriver.Proofs.Host.Later
import AlgorithmDriver.Proofs.Host.WriteEnd

/-!
# What is never taken back

Some things that happen on the host are for good.  A process that was waited for stays so, a signal
that will end a process is not forgotten, and a description stays that of its object.  `Onward` says this
of two states of the host, and every step of a process leads onward (`step_onward`,
`Proceeds.onward`).

So a process that was sent the kill signal is doomed (`Doomed`): it has ended or will end before it
does anything else, and who waits for it is told how it ended (`tryWait_of_doomed`).
-/

namespace AlgorithmDriver

/-- What is known of a process stays true. -/
structure Process.Onward (p q : Process) : Prop where
  reaped : p.reaped = true → q.reaped = true
  fatal : p.fatal.isSome = true → q.fatal.isSome = true

theorem Process.Onward.refl (p : Process) : p.Onward p := ⟨id, id⟩

theorem Process.Kept.onward {p q : Process} (kept : p.Kept q) : p.Onward q :=
  ⟨kept.reaped, kept.fatal⟩

/-- A description stays that of its object. -/
structure Description.Onward (d e : Description) : Prop where
  object : e.object = d.object
  appends : e.appends = d.appends

theorem Description.Onward.refl (d : Description) : d.Onward d := ⟨rfl, rfl⟩

namespace Host

/-- No process and no description is lost, nor what is known of them. -/
structure Onward (before after : Host) : Prop where
  processes : ∀ n p, before.process? n = some p → ∃ q, after.process? n = some q ∧ p.Onward q
  descriptions : ∀ (n : Nat) (d : Description), before.descriptions[n]? = some d →
    ∃ e, after.descriptions[n]? = some e ∧ d.Onward e

variable {host before after : Host} {n m : Nat} {p q : Process}

namespace Onward

theorem refl (host : Host) : host.Onward host :=
  ⟨fun _ p found => ⟨p, found, .refl p⟩, fun _ d found => ⟨d, found, .refl d⟩⟩

theorem trans {a b c : Host} (hab : a.Onward b) (hbc : b.Onward c) : a.Onward c where
  processes n p found := by
    obtain ⟨q, found, first⟩ := hab.processes n p found
    obtain ⟨r, found, second⟩ := hbc.processes n q found
    exact ⟨r, found, second.reaped ∘ first.reaped, second.fatal ∘ first.fatal⟩
  descriptions n d found := by
    obtain ⟨e, found, first⟩ := hab.descriptions n d found
    obtain ⟨f, found, second⟩ := hbc.descriptions n e found
    exact ⟨f, found, second.object.trans first.object, second.appends.trans first.appends⟩

/-- What leaves processes and descriptions alone. -/
theorem of_same (processes : after.processes = before.processes)
    (descriptions : after.descriptions = before.descriptions) : before.Onward after where
  processes n p found := ⟨p, by rw [process?, processes]; exact found, .refl p⟩
  descriptions n d found := ⟨d, by rw [descriptions]; exact found, .refl d⟩

/-- A process is found again. -/
theorem process? (onward : before.Onward after) (found : before.process? n = some p) :
    ∃ q, after.process? n = some q := by
  obtain ⟨q, found, _⟩ := onward.processes n p found
  exact ⟨q, found⟩

theorem setProcess (found : host.process? n = some p) (onward : p.Onward q) :
    host.Onward (host.setProcess n q) where
  processes m r found' := by
    by_cases same : n = m
    · subst same
      obtain rfl := Option.some.inj (found.symm.trans found')
      exact ⟨q, process?_setProcess_self found, onward⟩
    · exact ⟨r, (process?_setProcess_ne same).trans found', .refl r⟩
  descriptions _ d found := ⟨d, found, .refl d⟩

theorem setDescription {d e : Description} (found : host.descriptions[n]? = some d)
    (onward : d.Onward e) : host.Onward (host.setDescription n e) where
  processes _ p found := ⟨p, found, .refl p⟩
  descriptions m f found' := by
    by_cases same : n = m
    · subst same
      obtain rfl := Option.some.inj (found.symm.trans found')
      exact ⟨e, List.getElem?_set_self (List.getElem?_eq_some_iff.1 found).1, onward⟩
    · exact ⟨f, (List.getElem?_set_ne same).trans found', .refl f⟩

/-- Numbers of descriptions stay. -/
theorem length_le (onward : before.Onward after) :
    before.descriptions.length ≤ after.descriptions.length := by
  refine Nat.le_of_not_lt fun bound => ?_
  obtain ⟨e, found, _⟩ :=
    onward.descriptions after.descriptions.length _ (List.getElem?_eq_getElem bound)
  exact Nat.lt_irrefl _ (List.getElem?_eq_some_iff.1 found).1

end Onward

/-! ## Descriptions, files and pipes -/

theorem hold_onward (host : Host) (n : Nat) : host.Onward (host.hold n) := by
  unfold hold
  split
  · rename_i found
    exact .setDescription found ⟨rfl, rfl⟩
  · exact .refl host

theorem release_onward (host : Host) (n : Nat) : host.Onward (host.release n) := by
  unfold release
  split
  · rename_i found
    exact .setDescription found ⟨rfl, rfl⟩
  · exact .refl host

theorem describe_onward (host : Host) (d : Description) : host.Onward (host.describe d).2 where
  processes _ p found := ⟨p, found, .refl p⟩
  descriptions _ e found :=
    ⟨e, (List.getElem?_append_left (List.getElem?_eq_some_iff.1 found).1).trans found, .refl e⟩

theorem makePipe_onward (host : Host) : host.Onward host.makePipe.2.2 := by
  have piped : host.Onward { host with pipes := host.pipes ++ [[]] } :=
    .of_same rfl rfl
  exact (piped.trans (describe_onward _ _)).trans (describe_onward _ _)

theorem AddsNode.onward (opens : host.AddsNode n after) : host.Onward after := by
  obtain ⟨files, node, appends, -, rfl⟩ := opens
  have changed : host.Onward { host with files } := .of_same rfl rfl
  exact changed.trans (describe_onward _ _)

/-- The description was made in between. -/
def Made (before after : Host) (n : Nat) : Prop :=
  before.descriptions.length ≤ n ∧ n < after.descriptions.length

theorem Made.onward {a b c d : Host} (made : b.Made c n) (earlier : a.Onward b)
    (later : c.Onward d) : a.Made d n :=
  ⟨Nat.le_trans earlier.length_le made.1, Nat.lt_of_lt_of_le made.2 later.length_le⟩

theorem describe_made (host : Host) (d : Description) :
    host.Made (host.describe d).2 (host.describe d).1 := by
  refine ⟨Nat.le_refl _, ?_⟩
  show host.descriptions.length < (host.descriptions ++ [d]).length
  rw [List.length_append]
  exact Nat.lt_succ_self _

theorem makePipe_made (host : Host) : host.Made host.makePipe.2.2 host.makePipe.1 ∧
    host.Made host.makePipe.2.2 host.makePipe.2.1 := by
  let piped : Host := { host with pipes := host.pipes ++ [[]] }
  have started : host.Onward piped := .of_same rfl rfl
  have first := describe_made piped { object := .readEnd host.pipes.length }
  have second := describe_made (piped.describe { object := .readEnd host.pipes.length }).2
    { object := .writeEnd host.pipes.length }
  exact ⟨first.onward started (describe_onward _ _),
    second.onward (started.trans (describe_onward _ _)) (.refl _)⟩

theorem AddsNode.made (opens : host.AddsNode n after) : host.Made after n := by
  obtain ⟨files, node, appends, rfl, rfl⟩ := opens
  exact describe_made { host with files } _

theorem read_onward {count : Nat} {r : Except Errno Bytes}
    (h : host.read n count = some (r, after)) : host.Onward after := by
  cases read_reads h with
  | unknown | failed | ended | wrongEnd => exact .refl host
  | node found => exact .setDescription found ⟨rfl, rfl⟩
  | pipe => exact .of_same rfl rfl

theorem write_onward {data : Bytes} {r : Except Errno Nat}
    (h : host.write n data = some (r, after)) : host.Onward after := by
  cases write_writes h with
  | unknown | failed | nothing | broken | wrongEnd => exact .refl host
  | @node _ _ files found =>
    have changed : host.Onward { host with files } := .of_same rfl rfl
    exact changed.trans (.setDescription found ⟨rfl, rfl⟩)
  | pipe => exact .of_same rfl rfl

/-! ## Signals and ends -/

theorem Adjusts.onward (adjusts : host.Adjusts n after) : host.Onward after := by
  cases adjusts with
  | nothing => exact .refl host
  | process found kept => exact .setProcess found kept.onward

theorem send_onward (host : Host) (n : Nat) (signal : Signal) :
    host.Onward (host.send n signal) :=
  (send_adjusts host n signal).onward

theorem tryWait_onward (host : Host) (n : Nat) : host.Onward (host.tryWait n).2 :=
  (tryWait_adjusts host n).onward

theorem foldl_hold_onward (entries : List (Nat × Nat)) (host : Host) :
    host.Onward (entries.foldl (fun host d => host.hold d.2) host) := by
  induction entries generalizing host with
  | nil => exact .refl host
  | cons d rest ih => exact (hold_onward host d.2).trans (ih _)

theorem foldl_release_onward (entries : List (Nat × Nat)) (host : Host) :
    host.Onward (entries.foldl (fun host d => host.release d.2) host) := by
  induction entries generalizing host with
  | nil => exact .refl host
  | cons d rest ih => exact (release_onward host d.2).trans (ih _)

theorem finish_onward (host : Host) (n : Nat) (status : ExitStatus) :
    host.Onward (host.finish n status) := by
  unfold finish
  split
  · exact .refl host
  · rename_i p found
    refine (foldl_release_onward p.descriptors host).trans (.setProcess (p := p) ?_ ⟨id, id⟩)
    rw [process?, foldl_release_processes]
    exact found

theorem deliver_onward (host : Host) (n : Nat) : host.Onward (host.deliver n) := by
  unfold deliver
  split
  · exact finish_onward host n _
  · exact .refl host

/-! ## Requests -/

theorem bindDescriptor_onward (host : Host) (n descriptor description : Nat) :
    host.Onward (host.bindDescriptor n descriptor description) := by
  unfold bindDescriptor
  split
  · exact .refl host
  · rename_i found
    exact .setProcess found ⟨id, id⟩

theorem closeDescriptor_onward (host : Host) (n descriptor : Nat) :
    host.Onward (host.closeDescriptor n descriptor) := by
  unfold closeDescriptor
  split
  · exact .refl host
  · rename_i found
    split
    · exact .refl host
    · refine (Onward.setProcess found ?_).trans (release_onward _ _)
      exact ⟨id, id⟩

theorem closePrivate_onward (host : Host) (n : Nat) : host.Onward (host.closePrivate n) := by
  have each (entries : List (Nat × Nat)) (host : Host) :
      host.Onward (entries.foldl (fun host d => host.closeDescriptor n d.1) host) := by
    induction entries generalizing host with
    | nil => exact .refl host
    | cons d rest ih => exact (closeDescriptor_onward host n d.1).trans (ih _)
  unfold closePrivate
  split
  · exact .refl host
  · exact each _ host

/-- The reply to a request leads onward. -/
theorem Replies.onward (replies : host.Replies n p after) : host.Onward after := by
  cases replies with
  | adjusts adjusts => exact adjusts.onward
  | read _ done => exact read_onward done
  | write _ done => exact write_onward done
  | signalled _ done => exact (write_onward done).trans (send_onward _ _ _)
  | opened done => exact (openFile_adds done).onward.trans (bindDescriptor_onward _ _ _ _)
  | closed descriptor => exact closeDescriptor_onward host n descriptor
  | duplicated =>
    exact ((hold_onward host _).trans (closeDescriptor_onward _ _ _)).trans
      (bindDescriptor_onward _ _ _ _)
  | saved => exact (hold_onward host _).trans (bindDescriptor_onward _ _ _ _)
  | piped =>
    exact ((makePipe_onward host).trans (bindDescriptor_onward _ _ _ _)).trans
      (bindDescriptor_onward _ _ _ _)

/-! ## Steps -/

theorem resume_onward (host : Host) (n : Nat) (program : Program Nat) :
    host.Onward (host.resume n program) := by
  unfold resume
  split
  · rename_i found
    exact .setProcess found ⟨id, id⟩
  · exact .refl host

/-- A new process changes no other. -/
theorem append_onward (host : Host) (added : Process) :
    host.Onward { host with processes := host.processes ++ [added] } :=
  ⟨fun _ p found => ⟨p, append_process? host _ added rfl found, .refl p⟩,
    fun _ d found => ⟨d, found, .refl d⟩⟩

theorem start_onward (host : Host) (program : Program Nat) (input output errors : Nat) :
    host.Onward (host.start program input output errors).2 := append_onward host _

theorem fork_onward (host : Host) (n : Nat) (p : Process) (next : Reply → Program Nat) :
    host.Onward (host.fork n p next) :=
  ((foldl_hold_onward p.descriptors host).trans (append_onward _ _)).trans (resume_onward _ _ _)

theorem replace_onward (host : Host) (n : Nat) (program : Program Nat) :
    host.Onward (host.replace n program) := by
  have closed := closePrivate_onward host n
  unfold replace
  dsimp only
  split
  · exact closed
  · rename_i found
    exact closed.trans (.setProcess found ⟨id, id⟩)

theorem step_onward (h : host.step n = some after) : host.Onward after := by
  obtain ⟨p, program, found, -, steps⟩ := step_steps h
  cases steps with
  | delivered => exact deliver_onward host n
  | finished status => exact finish_onward host n status
  | forked next => exact fork_onward host n p next
  | replaced next => exact replace_onward host n next
  | resumed replied next => exact replied.onward.trans (resume_onward _ _ _)
  | adjusts adjusts => exact adjusts.onward

theorem Proceeds.onward (h : host.Proceeds after) : host.Onward after := by
  induction h with
  | refl => exact .refl host
  | step _ stepped ih => exact ih.trans (step_onward stepped)
  | elapse _ time ih => exact ih.trans (.of_same rfl rfl)

theorem Proceeds.later (h : host.Proceeds after) : host.Later after := by
  induction h with
  | refl => exact .refl host
  | step _ stepped ih => exact ih.trans (step_later stepped)
  | elapse _ time ih => exact ih.trans (.of_processes rfl)

/-! ## Doomed processes -/

/-- The process has ended, or a signal that ends it was sent to it. -/
def Doomed (host : Host) (n : Nat) : Prop :=
  (∃ status, host.HasEnded n status) ∨ ∃ p, host.process? n = some p ∧ p.fatal.isSome = true

theorem Doomed.later (doomed : before.Doomed n) (later : before.Later after)
    (onward : before.Onward after) : after.Doomed n := by
  rcases doomed with ⟨status, ended⟩ | ⟨p, found, fatal⟩
  · exact .inl ⟨status, later n status ended⟩
  · obtain ⟨q, found, kept⟩ := onward.processes n p found
    exact .inr ⟨q, found, kept.fatal fatal⟩

/-- The kill signal cannot be caught or ignored. -/
theorem doomed_send (found : host.process? n = some p) : (host.send n Signal.kill).Doomed n := by
  cases activity : p.activity with
  | ended status =>
    have ended : host.HasEnded n status := ⟨p, found, activity⟩
    exact .inl ⟨status, (send_sameActivities host n _).later n status ended⟩
  | running program =>
    have standard : disposition p Signal.kill = .standard := rfl
    have sent : host.send n Signal.kill =
        host.setProcess n { p with fatal := p.fatal.or (some Signal.kill) } := by
      unfold send
      simp only [found, activity, standard]
      rfl
    rw [sent]
    refine .inr ⟨_, process?_setProcess_self found, ?_⟩
    cases p.fatal <;> rfl

theorem hasEnded_finish (found : host.process? n = some p) (status : ExitStatus) :
    (host.finish n status).HasEnded n status := by
  have same := foldl_release_processes p.descriptors host
  unfold finish
  simp only [found]
  refine ⟨_, process?_setProcess_self (p := p) ?_, rfl⟩
  rw [process?, same]
  exact found

/-- A fatal signal takes effect when it is delivered. -/
theorem hasEnded_deliver (found : host.process? n = some p) (fatal : p.fatal.isSome = true) :
    ∃ status, (host.deliver n).HasEnded n status := by
  obtain ⟨signal, sent⟩ := Option.isSome_iff_exists.1 fatal
  cases activity : p.activity with
  | ended status => exact ⟨status, deliver_later host n n status ⟨p, found, activity⟩⟩
  | running program =>
    have delivered : host.deliver n = host.finish n (.signaled signal) := by
      obtain ⟨parent, _, descriptors, directory, dispositions, _, caught, wakes, reaped⟩ := p
      cases activity
      cases sent
      unfold deliver
      rw [found]
    rw [delivered]
    exact ⟨_, hasEnded_finish found _⟩

/-- Who waits for a doomed process is told how it ended. -/
theorem tryWait_of_doomed (doomed : host.Doomed n) :
    ∃ status, ((host.deliver n).tryWait n).1 = some status := by
  have ends : ∃ status, (host.deliver n).HasEnded n status := by
    rcases doomed with ⟨status, ended⟩ | ⟨p, found, fatal⟩
    · exact ⟨status, deliver_later host n n status ended⟩
    · exact hasEnded_deliver found fatal
  obtain ⟨status, ended⟩ := ends
  exact ⟨status, tryWait_of_hasEnded ended⟩

/-- A process whose end was told counts as waited for. -/
theorem reaped_tryWait {status : ExitStatus} (answer : (host.tryWait n).1 = some status) :
    ∃ p, (host.tryWait n).2.process? n = some p ∧ p.reaped = true := by
  obtain ⟨p, found, ended⟩ := hasEnded_of_tryWait answer
  have told : (host.tryWait n).2 = host.setProcess n { p with reaped := true } := by
    unfold tryWait
    simp only [found, ended]
  rw [told]
  exact ⟨_, process?_setProcess_self found, rfl⟩

end Host

end AlgorithmDriver

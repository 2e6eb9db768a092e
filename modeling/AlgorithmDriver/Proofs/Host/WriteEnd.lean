import AlgorithmDriver.Proofs.Host.FileTree
import AlgorithmDriver.Proofs.Host.Steps

/-!
# The write end of a pipe that the driver has to itself

The driver writes to a process through a pipe.  As long as the write end is open the process waits
for more input, and only when it is closed the process sees the end.  So it matters that nobody
else has the write end: no process got hold of it, and no second description leads to the pipe.

* `SoleWriter` says that a description is the only one that writes to its pipe, that no process has
  a descriptor of it, and how often it is held.  Whether the pipe has a writer depends on the last
  of these alone (`SoleWriter.hasWriter_iff`).
* What processes do with descriptors, files and pipes of their own keeps this
  (`SoleWriter.replies`, `SoleWriter.fork`, `SoleWriter.finish` and the like), and hence every step of
  a process does (`SoleWriter.step`), and any number of steps (`SoleWriter.proceeds`).
* A pipe that is made on a tidy host has a sole writer (`Tidy.soleWriter_makePipe`).
-/

namespace AlgorithmDriver.Host

/-- The description `number` is the only one that writes to `pipe`.  No process has it, and it is
held `holders` times. -/
structure SoleWriter (host : Host) (number pipe holders : Nat) : Prop where
  described : host.descriptions[number]? = some { object := .writeEnd pipe, holders }
  made : pipe < host.pipes.length
  only : ∀ (n : Nat) (d : Description), host.descriptions[n]? = some d →
    d.object = .writeEnd pipe → n = number
  apart : ∀ p ∈ host.processes, ∀ entry ∈ p.descriptors, entry.2 ≠ number

namespace SoleWriter

variable {host after : Host} {number pipe holders n : Nat} {p : Process}

/-- The pipe has a writer as long as the description is held. -/
theorem hasWriter_iff (sole : host.SoleWriter number pipe holders) :
    host.hasWriter pipe = true ↔ 0 < holders := by
  unfold hasWriter
  rw [List.any_eq_true]
  constructor
  · rintro ⟨d, mem, h⟩
    rw [Bool.and_eq_true, beq_iff_eq, decide_eq_true_iff] at h
    obtain ⟨n, found⟩ := List.mem_iff_getElem?.1 mem
    obtain rfl := sole.only n d found h.1
    obtain rfl := Option.some.inj (sole.described.symm.trans found)
    exact h.2
  · intro held
    refine ⟨_, List.mem_of_getElem? sole.described, ?_⟩
    simp [held]

/-! ## Descriptions, files and pipes -/

/-- Files, the time and the content of pipes do not matter. -/
theorem congr (sole : host.SoleWriter number pipe holders)
    (descriptions : after.descriptions = host.descriptions)
    (pipes : after.pipes.length = host.pipes.length)
    (processes : after.processes = host.processes) : after.SoleWriter number pipe holders where
  described := descriptions ▸ sole.described
  made := pipes ▸ sole.made
  only := descriptions ▸ sole.only
  apart := processes ▸ sole.apart

/-- Another description changes, but not what it reads or writes. -/
theorem setDescription (sole : host.SoleWriter number pipe holders) {d d' : Description}
    (found : host.descriptions[n]? = some d) (other : n ≠ number) (same : d'.object = d.object) :
    (host.setDescription n d').SoleWriter number pipe holders where
  described := (List.getElem?_set_ne other).trans sole.described
  made := sole.made
  only m e h writes := by
    by_cases changed : n = m
    · subst changed
      have bound := (List.getElem?_eq_some_iff.1 found).1
      rw [show (host.setDescription n d').descriptions[n]? = some d' from
        List.getElem?_set_self bound, Option.some.injEq] at h
      subst h
      exact sole.only n d found (same.symm.trans writes)
    · rw [show (host.setDescription n d').descriptions[m]? = host.descriptions[m]? from
        List.getElem?_set_ne changed] at h
      exact sole.only m e h writes
  apart := sole.apart

/-- The description of a file is another one. -/
theorem ne_of_node (sole : host.SoleWriter number pipe holders) {d : Description} {node : Nat}
    (found : host.descriptions[n]? = some d) (object : d.object = .node node) : n ≠ number := by
  rintro rfl
  obtain rfl := Option.some.inj (sole.described.symm.trans found)
  cases object

theorem hold (sole : host.SoleWriter number pipe holders) (other : n ≠ number) :
    (host.hold n).SoleWriter number pipe holders := by
  unfold Host.hold
  split
  · rename_i found
    exact sole.setDescription found other rfl
  · exact sole

theorem release (sole : host.SoleWriter number pipe holders) (other : n ≠ number) :
    (host.release n).SoleWriter number pipe holders := by
  unfold Host.release
  split
  · rename_i found
    exact sole.setDescription found other rfl
  · exact sole

/-- The driver gives up its hold. -/
theorem release_self (sole : host.SoleWriter number pipe holders) :
    (host.release number).SoleWriter number pipe (holders - 1) where
  described := by
    unfold Host.release
    rw [sole.described]
    exact List.getElem?_set_self (List.getElem?_eq_some_iff.1 sole.described).1
  made := by
    unfold Host.release
    rw [sole.described]
    exact sole.made
  only m e h writes := by
    by_cases other : number = m
    · exact other.symm
    · unfold Host.release at h
      rw [sole.described] at h
      rw [show (host.setDescription number _).descriptions[m]? = host.descriptions[m]? from
        List.getElem?_set_ne other] at h
      exact sole.only m e h writes
  apart := by
    unfold Host.release
    rw [sole.described]
    exact sole.apart

/-- A new description that writes elsewhere. -/
theorem describe (sole : host.SoleWriter number pipe holders) {d : Description}
    (foreign : d.object ≠ .writeEnd pipe) :
    (host.describe d).2.SoleWriter number pipe holders ∧ (host.describe d).1 ≠ number := by
  have bound := (List.getElem?_eq_some_iff.1 sole.described).1
  refine ⟨⟨?_, sole.made, ?_, sole.apart⟩, Nat.ne_of_gt bound⟩
  · exact (List.getElem?_append_left bound).trans sole.described
  · intro m e h writes
    rcases Nat.lt_or_ge m host.descriptions.length with old | new
    · rw [show (host.describe d).2.descriptions[m]? = host.descriptions[m]? from
        List.getElem?_append_left old] at h
      exact sole.only m e h writes
    · rw [show (host.describe d).2.descriptions[m]? = [d][m - host.descriptions.length]? from
        List.getElem?_append_right new] at h
      obtain rfl := List.mem_singleton.1 (List.mem_of_getElem? h)
      exact absurd writes foreign

theorem makePipe (sole : host.SoleWriter number pipe holders) :
    host.makePipe.2.2.SoleWriter number pipe holders ∧ host.makePipe.1 ≠ number ∧
      host.makePipe.2.1 ≠ number := by
  have fresh : host.pipes.length ≠ pipe := Nat.ne_of_gt sole.made
  have made : { host with pipes := host.pipes ++ [[]] }.SoleWriter number pipe holders :=
    ⟨sole.described, by simpa using Nat.lt_succ_of_lt sole.made, sole.only, sole.apart⟩
  obtain ⟨readable, first⟩ := made.describe (d := { object := .readEnd host.pipes.length })
    (fun h => nomatch h)
  obtain ⟨writable, second⟩ := readable.describe (d := { object := .writeEnd host.pipes.length })
    (fun h => fresh (Object.writeEnd.inj h))
  exact ⟨writable, first, second⟩

theorem addsNode (sole : host.SoleWriter number pipe holders) (opens : host.AddsNode n after) :
    after.SoleWriter number pipe holders ∧ n ≠ number := by
  obtain ⟨files, node, appends, rfl, rfl⟩ := opens
  have changed : { host with files }.SoleWriter number pipe holders := sole.congr rfl rfl rfl
  exact changed.describe fun h => nomatch h

theorem read (sole : host.SoleWriter number pipe holders) {count : Nat} {r : Except Errno Bytes}
    (h : host.read n count = some (r, after)) : after.SoleWriter number pipe holders := by
  cases read_reads h with
  | unknown | failed | ended | wrongEnd => exact sole
  | node found object => exact sole.setDescription found (sole.ne_of_node found object) rfl
  | pipe => exact sole.congr rfl (List.length_set ..) rfl

/-- Also what the driver writes to the pipe itself. -/
theorem write (sole : host.SoleWriter number pipe holders) {data : Bytes} {r : Except Errno Nat}
    (h : host.write n data = some (r, after)) : after.SoleWriter number pipe holders := by
  cases write_writes h with
  | unknown | failed | nothing | broken | wrongEnd => exact sole
  | @node _ _ files found object =>
    have changed : { host with files }.SoleWriter number pipe holders := sole.congr rfl rfl rfl
    exact changed.setDescription found (sole.ne_of_node found object) rfl
  | pipe => exact sole.congr rfl (List.length_set ..) rfl

/-! ## Processes -/

theorem apart_of (sole : host.SoleWriter number pipe holders) (found : host.process? n = some p) :
    ∀ entry ∈ p.descriptors, entry.2 ≠ number :=
  sole.apart p (List.mem_of_getElem? found)

/-- A process changes, but gets no descriptor of the write end. -/
theorem setProcess (sole : host.SoleWriter number pipe holders)
    (apart : ∀ entry ∈ p.descriptors, entry.2 ≠ number) :
    (host.setProcess n p).SoleWriter number pipe holders where
  described := sole.described
  made := sole.made
  only := sole.only
  apart q mem := by
    rcases List.mem_or_eq_of_mem_set mem with old | rfl
    · exact sole.apart q old
    · exact apart

theorem appendProcess (sole : host.SoleWriter number pipe holders)
    (apart : ∀ entry ∈ p.descriptors, entry.2 ≠ number) :
    { host with processes := host.processes ++ [p] }.SoleWriter number pipe holders where
  described := sole.described
  made := sole.made
  only := sole.only
  apart q mem := by
    rcases List.mem_append.1 mem with old | new
    · exact sole.apart q old
    · obtain rfl := List.mem_singleton.1 new
      exact apart

theorem of_denoted {descriptor : Nat} (apart : ∀ entry ∈ p.descriptors, entry.2 ≠ number)
    (h : denoted p descriptor = some n) : n ≠ number := by
  obtain ⟨before, after, same, _⟩ := List.lookup_eq_some_iff.1 h
  refine apart (descriptor, n) ?_
  rw [same]
  exact List.mem_append_right _ List.mem_cons_self

theorem foldl_hold {entries : List (Nat × Nat)} (sole : host.SoleWriter number pipe holders)
    (apart : ∀ entry ∈ entries, entry.2 ≠ number) :
    (entries.foldl (fun host d => host.hold d.2) host).SoleWriter number pipe holders := by
  induction entries generalizing host with
  | nil => exact sole
  | cons entry rest ih =>
    obtain ⟨first, others⟩ := List.forall_mem_cons.1 apart
    exact ih (sole.hold first) others

theorem foldl_release {entries : List (Nat × Nat)} (sole : host.SoleWriter number pipe holders)
    (apart : ∀ entry ∈ entries, entry.2 ≠ number) :
    (entries.foldl (fun host d => host.release d.2) host).SoleWriter number pipe holders := by
  induction entries generalizing host with
  | nil => exact sole
  | cons entry rest ih =>
    obtain ⟨first, others⟩ := List.forall_mem_cons.1 apart
    exact ih (sole.release first) others

theorem finish (sole : host.SoleWriter number pipe holders) (n : Nat) (status : ExitStatus) :
    (host.finish n status).SoleWriter number pipe holders := by
  unfold Host.finish
  split
  · exact sole
  · rename_i found
    refine (sole.foldl_release (sole.apart_of found)).setProcess ?_
    intro entry mem
    cases mem

theorem deliver (sole : host.SoleWriter number pipe holders) (n : Nat) :
    (host.deliver n).SoleWriter number pipe holders := by
  unfold Host.deliver
  split
  · exact sole.finish n _
  · exact sole

/-- Nothing that is noted of a process gives the write end away. -/
theorem adjusts (sole : host.SoleWriter number pipe holders) (adjusts : host.Adjusts n after) :
    after.SoleWriter number pipe holders := by
  cases adjusts with
  | nothing => exact sole
  | process found kept => exact sole.setProcess (kept.descriptors ▸ sole.apart_of found)

theorem send (sole : host.SoleWriter number pipe holders) (n : Nat) (signal : Signal) :
    (host.send n signal).SoleWriter number pipe holders :=
  sole.adjusts (send_adjusts host n signal)

theorem tryWait (sole : host.SoleWriter number pipe holders) (n : Nat) :
    (host.tryWait n).2.SoleWriter number pipe holders :=
  sole.adjusts (tryWait_adjusts host n)

/-! ## Requests -/

theorem bindDescriptor (sole : host.SoleWriter number pipe holders) {descriptor description : Nat}
    (other : description ≠ number) :
    (host.bindDescriptor n descriptor description).SoleWriter number pipe holders := by
  unfold Host.bindDescriptor
  split
  · exact sole
  · rename_i found
    refine sole.setProcess ?_
    intro entry mem
    rcases List.mem_cons.1 mem with rfl | mem
    · exact other
    · exact sole.apart_of found entry (List.mem_filter.1 mem).1

theorem closeDescriptor (sole : host.SoleWriter number pipe holders) (n descriptor : Nat) :
    (host.closeDescriptor n descriptor).SoleWriter number pipe holders := by
  unfold Host.closeDescriptor
  split
  · exact sole
  · rename_i found
    have apart := sole.apart_of found
    split
    · exact sole
    · rename_i denotes
      refine SoleWriter.release (sole.setProcess ?_) (of_denoted apart denotes)
      intro entry mem
      exact apart entry (List.mem_filter.1 mem).1

theorem foldl_closeDescriptor (sole : host.SoleWriter number pipe holders) (n : Nat)
    (entries : List (Nat × Nat)) :
    (entries.foldl (fun host d => host.closeDescriptor n d.1) host).SoleWriter number pipe
      holders := by
  induction entries generalizing host with
  | nil => exact sole
  | cons entry rest ih => exact ih (sole.closeDescriptor n entry.1)

theorem closePrivate (sole : host.SoleWriter number pipe holders) (n : Nat) :
    (host.closePrivate n).SoleWriter number pipe holders := by
  unfold Host.closePrivate
  split
  · exact sole
  · exact sole.foldl_closeDescriptor n _

/-- The host replies to a process without giving the write end away. -/
theorem replies (sole : host.SoleWriter number pipe holders) (found : host.process? n = some p)
    (replies : host.Replies n p after) : after.SoleWriter number pipe holders := by
  have apart := sole.apart_of found
  cases replies with
  | adjusts adjusts => exact sole.adjusts adjusts
  | read _ done => exact sole.read done
  | write _ done => exact sole.write done
  | signalled _ done => exact (sole.write done).send _ _
  | opened done =>
    obtain ⟨kept, other⟩ := sole.addsNode (openFile_adds done)
    exact kept.bindDescriptor other
  | closed descriptor => exact sole.closeDescriptor n descriptor
  | duplicated target denotes =>
    have other := of_denoted apart denotes
    exact ((sole.hold other).closeDescriptor n target).bindDescriptor other
  | saved least denotes =>
    have other := of_denoted apart denotes
    exact (sole.hold other).bindDescriptor other
  | piped =>
    obtain ⟨kept, readable, writable⟩ := sole.makePipe
    exact (kept.bindDescriptor readable).bindDescriptor writable

/-! ## Steps -/

theorem resume (sole : host.SoleWriter number pipe holders) (n : Nat) (program : Program Nat) :
    (host.resume n program).SoleWriter number pipe holders := by
  unfold Host.resume
  split
  · rename_i found
    have apart := sole.apart_of found
    exact sole.setProcess apart
  · exact sole

theorem fork (sole : host.SoleWriter number pipe holders) (found : host.process? n = some p)
    (next : Reply → Program Nat) : (host.fork n p next).SoleWriter number pipe holders := by
  have apart := sole.apart_of found
  refine ((sole.foldl_hold apart).appendProcess ?_).resume n _
  exact apart

theorem replace (sole : host.SoleWriter number pipe holders) (n : Nat) (program : Program Nat) :
    (host.replace n program).SoleWriter number pipe holders := by
  have kept := sole.closePrivate n
  unfold Host.replace
  dsimp only
  split
  · exact kept
  · rename_i found
    have apart := kept.apart_of found
    exact kept.setProcess apart

/-- A step of a process leaves the driver the only one that has the write end. -/
theorem step (sole : host.SoleWriter number pipe holders) (h : host.step n = some after) :
    after.SoleWriter number pipe holders := by
  obtain ⟨p, program, found, -, steps⟩ := step_steps h
  cases steps with
  | delivered => exact sole.deliver n
  | finished status => exact sole.finish n status
  | forked next => exact sole.fork found next
  | replaced next => exact sole.replace n next
  | resumed replied next => exact (sole.replies found replied).resume n next
  | adjusts adjusts => exact sole.adjusts adjusts

end SoleWriter

/-! ## Time -/

/-- Processes take steps, in any order, and time passes. -/
inductive Proceeds (host : Host) : Host → Prop
  | refl : Proceeds host host
  | step {between after : Host} {n : Nat} (before : Proceeds host between)
      (stepped : between.step n = some after) : Proceeds host after
  | elapse {between : Host} (before : Proceeds host between) (time : Nat) :
      Proceeds host { between with time }

theorem Proceeds.trans {a b c : Host} (first : a.Proceeds b) (second : b.Proceeds c) :
    a.Proceeds c := by
  induction second with
  | refl => exact first
  | step _ stepped ih => exact .step ih stepped
  | elapse _ time ih => exact .elapse ih time

theorem turn_proceeds (n steps : Nat) (host : Host) (moved : Bool) :
    host.Proceeds (turn n steps host moved).1 := by
  induction steps generalizing host moved with
  | zero => exact .refl
  | succ steps ih =>
    rw [turn]
    split
    · exact .refl
    · rename_i stepped
      exact (Proceeds.step .refl stepped).trans (ih _ _)

theorem round_proceeds (host : Host) : host.Proceeds host.round.1 := by
  unfold round
  generalize List.range host.processes.length = numbers
  generalize false = moved
  induction numbers generalizing host moved with
  | nil => exact .refl
  | cons n rest ih => exact (turn_proceeds n turnLength host moved).trans (ih _ _)

theorem settleFor_proceeds (rounds : Nat) (host : Host) :
    host.Proceeds (settleFor rounds host) := by
  induction rounds generalizing host with
  | zero => exact .refl
  | succ rounds ih =>
    have round := round_proceeds host
    rw [settleFor]
    split
    · rename_i moved
      rw [moved] at round
      exact round.trans (ih _)
    · rename_i still
      rw [still] at round
      exact round

theorem settle_proceeds (host : Host) : host.Proceeds host.settle :=
  settleFor_proceeds mostRounds host

theorem advance_proceeds (host : Host) : host.Proceeds host.advance := by
  unfold advance
  dsimp only
  split
  · exact settle_proceeds host
  · split
    · exact settle_proceeds host
    · exact ((settle_proceeds host).elapse _).trans (settle_proceeds _)

theorem SoleWriter.proceeds {host after : Host} {number pipe holders : Nat}
    (sole : host.SoleWriter number pipe holders) (h : host.Proceeds after) :
    after.SoleWriter number pipe holders := by
  induction h with
  | refl => exact sole
  | step _ stepped ih => exact ih.step stepped
  | elapse _ time ih => exact ih.congr rfl rfl rfl

/-! ## New pipes -/

/-- Nothing refers to a description or a pipe that is yet to be made. -/
structure Tidy (host : Host) : Prop where
  descriptors : ∀ p ∈ host.processes, ∀ entry ∈ p.descriptors, entry.2 < host.descriptions.length
  pipes : ∀ d ∈ host.descriptions, ∀ pipe, d.object = .writeEnd pipe → pipe < host.pipes.length

theorem Tidy.hold {host : Host} (tidy : host.Tidy) (n : Nat) : (host.hold n).Tidy := by
  unfold Host.hold
  split
  · rename_i d found
    refine ⟨?_, ?_⟩
    · intro p mem entry held
      show entry.2 < (host.descriptions.set n _).length
      rw [List.length_set]
      exact tidy.descriptors p mem entry held
    · intro e mem pipe writes
      rcases List.mem_or_eq_of_mem_set mem with old | rfl
      · exact tidy.pipes e old pipe writes
      · exact tidy.pipes d (List.mem_of_getElem? found) pipe writes
  · exact tidy

/-- A new description of a file. -/
theorem Tidy.describe {host : Host} (tidy : host.Tidy) {d : Description} {node : Nat}
    (isNode : d.object = .node node) : (host.describe d).2.Tidy where
  descriptors p mem entry held := by
    show entry.2 < (host.descriptions ++ [d]).length
    rw [List.length_append]
    exact Nat.lt_add_right _ (tidy.descriptors p mem entry held)
  pipes e mem pipe writes := by
    rcases List.mem_append.1 mem with old | new
    · exact tidy.pipes e old pipe writes
    · obtain rfl := List.mem_singleton.1 new
      rw [isNode] at writes
      cases writes

theorem Tidy.addsNode {host after : Host} (tidy : host.Tidy) {n : Nat}
    (opens : host.AddsNode n after) :
    after.Tidy ∧ n = host.descriptions.length ∧
      after.descriptions.length = host.descriptions.length + 1 := by
  obtain ⟨files, node, appends, rfl, rfl⟩ := opens
  have changed : { host with files }.Tidy := ⟨tidy.descriptors, tidy.pipes⟩
  exact ⟨changed.describe rfl, rfl, List.length_append⟩

/-- Whoever makes a pipe is the only one that has its write end. -/
theorem Tidy.soleWriter_makePipe {host : Host} (tidy : host.Tidy) :
    host.makePipe.2.2.SoleWriter host.makePipe.2.1 host.pipes.length 1 where
  described := List.getElem?_concat_length
  made := by simp [makePipe, Host.describe]
  only m e h writes := by
    let readable := host.descriptions ++ [{ object := .readEnd host.pipes.length }]
    show m = readable.length
    rcases Nat.lt_trichotomy m readable.length with old | last | beyond
    · rw [show host.makePipe.2.2.descriptions[m]? = readable[m]? from
        List.getElem?_append_left old] at h
      rcases List.mem_append.1 (List.mem_of_getElem? h) with known | new
      · exact absurd (tidy.pipes e known _ writes) (Nat.lt_irrefl _)
      · obtain rfl := List.mem_singleton.1 new
        cases writes
    · exact last
    · have bound := (List.getElem?_eq_some_iff.1 h).1
      have length : host.makePipe.2.2.descriptions.length = readable.length + 1 :=
        List.length_append
      omega
  apart p mem entry held := by
    have bound := tidy.descriptors p mem entry held
    show entry.2 ≠ (host.descriptions ++ [_]).length
    rw [List.length_append]
    exact Nat.ne_of_lt (Nat.lt_add_right _ bound)

end AlgorithmDriver.Host

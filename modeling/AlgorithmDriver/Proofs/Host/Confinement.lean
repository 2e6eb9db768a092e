import AlgorithmDriver.Proofs.Host.Flows
import AlgorithmDriver.Proofs.Host.Holders

/-!
# What processes can reach

A process reaches files and pipes by its descriptors alone.

* `Host.Confined` says that each description is held at least as often as descriptors of processes
  denote it, and that no process has a descriptor of one that is `kept` from them.
* Every step of a process keeps it so, and shuns what is kept (`Confined.step`).
-/

namespace AlgorithmDriver

namespace Host

variable {host before after : Host} {kept : Nat → Prop} {spare spare' : List Nat} {n m k : Nat}
  {p q : Process}

theorem SameHolds.holders_le (same : before.SameHolds after) (n : Nat) :
    before.holders n ≤ after.holders n := by
  unfold holders
  cases found : before.descriptions[n]? with
  | none => exact Nat.zero_le _
  | some d =>
    obtain ⟨e, found', _, holders⟩ := same n d found
    rw [found']
    exact Nat.le_of_eq holders.symm

/-- A description that is only moved is held as often as before. -/
theorem Moves.balanced (moves : before.Moves n after)
    (processes : after.processes = before.processes) : before.Balanced after :=
  .of_processes processes fun m _ => moves.holds.holders_le m

theorem release_setProcess (host : Host) (n m : Nat) (p : Process) :
    (host.release n).setProcess m p = (host.setProcess m p).release n := by
  unfold release setProcess
  dsimp only
  split <;> rfl

/-! ## Confinement -/

/-- Descriptions are held as often as descriptors of processes denote them, and once more for each
time that they are in `spare`.  The `kept` ones are not among them. -/
structure Confined (kept : Nat → Prop) (spare : List Nat) (host : Host) : Prop where
  counted : ∀ n, host.grasps n + spare.count n ≤ host.holders n
  apart : ∀ n, kept n → host.grasps n + spare.count n = 0
  known : ∀ n, kept n → n < host.descriptions.length

/-- What processes do: they stay confined, and shun the kept descriptions. -/
structure Acts (kept : Nat → Prop) (spare : List Nat) (before after : Host) : Prop
    extends before.Shuns kept after where
  confined : after.Confined kept spare

theorem Acts.trans {a b c : Host} (hab : a.Acts kept spare b) (hbc : b.Acts kept spare' c) :
    a.Acts kept spare' c := ⟨hab.toShuns.trans hbc.toShuns, hbc.confined⟩

namespace Confined

theorem refl (confined : host.Confined kept spare) : host.Acts kept spare host :=
  ⟨.refl host, confined⟩

/-- Processes stay as they are, and descriptions are held as often. -/
theorem grow (confined : before.Confined kept spare) (processes : after.processes = before.processes)
    (holders : ∀ n, before.holders n ≤ after.holders n)
    (length : before.descriptions.length ≤ after.descriptions.length) :
    after.Confined kept spare where
  counted n := by
    rw [grasps_of_processes processes]
    exact Nat.le_trans (confined.counted n) (holders n)
  apart n isKept := by
    rw [grasps_of_processes processes]
    exact confined.apart n isKept
  known n isKept := Nat.lt_of_lt_of_le (confined.known n isKept) length

/-- Whatever is in reach of processes is there, and not kept. -/
theorem reached (confined : host.Confined kept spare)
    (within : 0 < host.grasps n + spare.count n) :
    ¬ kept n ∧ ∃ d, host.descriptions[n]? = some d ∧ host.holders n = d.holders := by
  have counted := confined.counted n
  refine ⟨fun isKept => ?_, found_of_holders (by omega)⟩
  have apart := confined.apart n isKept
  omega

/-- It is only counted anew how often a description is held. -/
theorem recount {d : Description} (confined : host.Confined kept spare) (foreign : ¬ kept n)
    (found : host.descriptions[n]? = some d) (count : Nat)
    (enough : host.grasps n + spare'.count n ≤ count)
    (others : ∀ m, m ≠ n → spare'.count m = spare.count m) :
    host.Acts kept spare' (host.setDescription n { d with holders := count }) := by
  refine ⟨.setDescription found foreign ⟨rfl, rfl⟩, fun m => ?_, fun m isKept => ?_, fun m isKept => ?_⟩
  · rw [holders_setDescription found]
    split
    · rename_i here
      exact here ▸ enough
    · rename_i other
      rw [others m other]
      exact confined.counted m
  · rw [others m fun same => foreign (same ▸ isKept)]
    exact confined.apart m isKept
  · rw [show (host.setDescription n _).descriptions.length = _ from List.length_set]
    exact confined.known m isKept

theorem hold {d : Description} (confined : host.Confined kept spare) (foreign : ¬ kept n)
    (found : host.descriptions[n]? = some d) : host.Acts kept (n :: spare) (host.hold n) := by
  have counted := confined.counted n
  rw [holders_of_found found] at counted
  unfold Host.hold
  rw [found]
  refine confined.recount foreign found (d.holders + 1) ?_ fun m other =>
    List.count_cons_of_ne (Ne.symm other)
  rw [List.count_cons_self]
  omega

/-- Somebody who has a descriptor holds the description once more. -/
theorem hold_again (confined : host.Confined kept spare)
    (within : 0 < host.grasps n + spare.count n) : host.Acts kept (n :: spare) (host.hold n) := by
  obtain ⟨foreign, _, found, _⟩ := confined.reached within
  exact confined.hold foreign found

theorem release (confined : host.Confined kept (n :: spare)) :
    host.Acts kept spare (host.release n) := by
  have counted := confined.counted n
  rw [List.count_cons_self] at counted
  have within : 0 < host.grasps n + (n :: spare).count n := by
    rw [List.count_cons_self]
    omega
  obtain ⟨foreign, d, found, holders⟩ := confined.reached within
  unfold Host.release
  rw [found]
  exact confined.recount foreign found (d.holders - 1) (by omega) fun m other =>
    (List.count_cons_of_ne (Ne.symm other)).symm

/-- Not all of the spare holders are needed. -/
theorem fewer (confined : host.Confined kept spare) (sub : ∀ n, spare'.count n ≤ spare.count n) :
    host.Confined kept spare' where
  counted n := by
    have counted := confined.counted n
    have less := sub n
    omega
  apart n isKept := by
    have apart := confined.apart n isKept
    have less := sub n
    omega
  known := confined.known

/-! ### Descriptions, files and pipes -/

/-- A new description, which is held once. -/
theorem describe (confined : host.Confined kept spare) {d : Description} (single : d.holders = 1)
    (fresh : ∀ k, d.object = .readEnd k ∨ d.object = .writeEnd k → host.pipes.length ≤ k) :
    host.Acts kept (host.descriptions.length :: spare) (host.describe d).2 := by
  refine ⟨.describe fresh, fun m => ?_, fun m isKept => ?_, fun m isKept => ?_⟩
  · have counted := confined.counted m
    rw [holders_describe]
    show host.grasps m + _ ≤ _
    split
    · rename_i here
      subst here
      rw [holders_of_le (Nat.le_refl _)] at counted
      rw [List.count_cons_self, single]
      omega
    · rename_i other
      rw [List.count_cons_of_ne (Ne.symm other)]
      exact counted
  · rw [List.count_cons_of_ne (Nat.ne_of_gt (confined.known m isKept))]
    exact confined.apart m isKept
  · show m < (host.descriptions ++ [d]).length
    rw [List.length_append]
    exact Nat.lt_add_right _ (confined.known m isKept)

theorem files (confined : host.Confined kept spare) (files : FileTree) :
    host.Acts kept spare { host with files } :=
  ⟨.of_same (.of_same rfl rfl) rfl rfl,
    confined.grow rfl (fun _ => Nat.le_refl _) (Nat.le_refl _)⟩

theorem makePipe (confined : host.Confined kept spare) :
    host.Acts kept (host.makePipe.1 :: host.makePipe.2.1 :: spare) host.makePipe.2.2 := by
  let readable : Host := (host.describe { object := .readEnd host.pipes.length }).2
  let writable : Host := (readable.describe { object := .writeEnd host.pipes.length }).2
  have first : host.Acts kept (host.descriptions.length :: spare) readable :=
    confined.describe rfl fun k pipe => by
      rcases pipe with pipe | pipe <;> cases pipe
      exact Nat.le_refl _
  have second : readable.Acts kept (readable.descriptions.length :: _) writable :=
    first.confined.describe rfl fun k pipe => by
      rcases pipe with pipe | pipe <;> cases pipe
      exact Nat.le_refl _
  have piped : writable.Shuns kept host.makePipe.2.2 :=
    { onward := .of_same rfl rfl
      still := fun _ _ _ found => found
      fresh := fun n d k new found _ =>
        absurd (List.getElem?_eq_some_iff.1 found).1 (Nat.not_lt.2 new)
      flows := fun k bound => ⟨[], [], .of_same bound (List.getElem?_append_left bound),
        fun _ => rfl, fun _ => rfl⟩ }
  have swapped : writable.Confined kept (host.makePipe.1 :: host.makePipe.2.1 :: spare) :=
    second.confined.fewer fun n => Nat.le_of_eq ((List.Perm.swap _ _ _).count_eq n)
  exact (first.trans second).trans
    ⟨piped, swapped.grow rfl (fun _ => Nat.le_refl _) (Nat.le_refl _)⟩

theorem addsNode (confined : host.Confined kept spare) (opens : host.AddsNode n after) :
    host.Acts kept (n :: spare) after := by
  obtain ⟨files, node, appends, rfl, rfl⟩ := opens
  have changed := confined.files files
  exact changed.trans (changed.confined.describe rfl fun k pipe => by
    rcases pipe with pipe | pipe <;> cases pipe)

theorem read (confined : host.Confined kept spare) (within : 0 < host.grasps n + spare.count n)
    {count : Nat} {r : Except Errno Bytes} (done : host.read n count = some (r, after)) :
    host.Acts kept spare after :=
  ⟨.read (confined.reached within).1 done, confined.grow (read_processes done)
    (read_moves done).holds.holders_le (Nat.le_of_eq (read_moves done).length.symm)⟩

theorem write (confined : host.Confined kept spare) (within : 0 < host.grasps n + spare.count n)
    {data : Bytes} {r : Except Errno Nat} (done : host.write n data = some (r, after)) :
    host.Acts kept spare after :=
  ⟨.write (confined.reached within).1 done, confined.grow (write_processes done)
    (write_moves done).holds.holders_le (Nat.le_of_eq (write_moves done).length.symm)⟩

/-! ### Processes -/

/-- A process changes.  What its descriptors denote now, they denoted before or was spare. -/
theorem setProcess (confined : host.Confined kept spare) (found : host.process? m = some p)
    (onward : p.Onward q)
    (share : ∀ n, q.grasps n + spare'.count n ≤ p.grasps n + spare.count n) :
    host.Acts kept spare' (host.setProcess m q) := by
  refine ⟨.of_same (.setProcess found onward) rfl rfl, fun n => ?_, fun n isKept => ?_, confined.known⟩
  · have counted := confined.counted n
    have changed := grasps_setProcess found n (q := q)
    have share := share n
    show (host.setProcess m q).grasps n + _ ≤ host.holders n
    omega
  · have apart := confined.apart n isKept
    have changed := grasps_setProcess found n (q := q)
    have share := share n
    omega

/-- A process changes, but not its descriptors. -/
theorem adjust (confined : host.Confined kept spare) (found : host.process? m = some p)
    (onward : p.Onward q) (same : q.descriptors = p.descriptors) :
    host.Acts kept spare (host.setProcess m q) :=
  confined.setProcess found onward fun n => Nat.le_of_eq (by unfold Process.grasps; rw [same])

theorem appendProcess (confined : host.Confined kept spare)
    (share : ∀ n, q.grasps n + spare'.count n ≤ spare.count n) :
    host.Acts kept spare' { host with processes := host.processes ++ [q] } := by
  refine ⟨.of_same (append_onward host q) rfl rfl, fun n => ?_, fun n isKept => ?_, confined.known⟩
  · have counted := confined.counted n
    have share := share n
    rw [grasps_append]
    show _ ≤ host.holders n
    omega
  · have apart := confined.apart n isKept
    have share := share n
    rw [grasps_append]
    omega

theorem foldl_hold (confined : host.Confined kept spare) {entries : List (Nat × Nat)}
    (within : ∀ entry ∈ entries, 0 < host.grasps entry.2) :
    host.Acts kept ((entries.map Prod.snd).reverse ++ spare)
      (entries.foldl (fun host d => host.hold d.2) host) := by
  induction entries generalizing host spare with
  | nil => exact confined.refl
  | cons entry rest ih =>
    obtain ⟨first, others⟩ := List.forall_mem_cons.1 within
    have held := confined.hold_again (n := entry.2) (Nat.lt_add_right _ first)
    have more := ih held.confined fun entry mem => by
      rw [grasps_of_processes (hold_processes host _)]
      exact others entry mem
    rw [List.map_cons, List.reverse_cons, List.append_assoc]
    exact held.trans more

theorem foldl_release {entries : List (Nat × Nat)}
    (confined : host.Confined kept (entries.map Prod.snd ++ spare)) :
    host.Acts kept spare (entries.foldl (fun host d => host.release d.2) host) := by
  induction entries generalizing host with
  | nil => exact confined.refl
  | cons entry rest ih =>
    have released := Confined.release confined
    exact released.trans (ih released.confined)

theorem foldl_release_setProcess (entries : List (Nat × Nat)) (host : Host) (m : Nat) (p : Process) :
    (entries.foldl (fun host d => host.release d.2) host).setProcess m p =
      entries.foldl (fun host d => host.release d.2) (host.setProcess m p) := by
  induction entries generalizing host with
  | nil => rfl
  | cons entry rest ih =>
    rw [List.foldl_cons, List.foldl_cons, ih, release_setProcess]

theorem finish (confined : host.Confined kept spare) (n : Nat) (status : ExitStatus) :
    host.Acts kept spare (host.finish n status) := by
  unfold Host.finish
  split
  · exact confined.refl
  · rename_i p found
    dsimp only
    rw [foldl_release_setProcess]
    have ended : host.Acts kept (p.descriptors.map Prod.snd ++ spare)
        (host.setProcess n { p with activity := .ended status, descriptors := [], wakes := none }) :=
      confined.setProcess found ⟨id, id⟩ fun m => by
        rw [List.count_append]
        exact Nat.le_of_eq (Nat.zero_add _)
    exact ended.trans (foldl_release ended.confined)

theorem deliver (confined : host.Confined kept spare) (n : Nat) :
    host.Acts kept spare (host.deliver n) := by
  unfold Host.deliver
  split
  · exact confined.finish n _
  · exact confined.refl

/-- Nothing that is noted of a process lets it reach anything. -/
theorem adjusts (confined : host.Confined kept spare) (adjusts : host.Adjusts n after) :
    host.Acts kept spare after := by
  cases adjusts with
  | nothing => exact confined.refl
  | process found same => exact confined.adjust found same.onward same.descriptors

theorem send (confined : host.Confined kept spare) (n : Nat) (signal : Signal) :
    host.Acts kept spare (host.send n signal) :=
  confined.adjusts (send_adjusts host n signal)

theorem resume (confined : host.Confined kept spare) (n : Nat) (program : Program Nat) :
    host.Acts kept spare (host.resume n program) := by
  unfold Host.resume
  split
  · rename_i found
    exact confined.adjust found ⟨id, id⟩ rfl
  · exact confined.refl

theorem fork (confined : host.Confined kept spare) (found : host.process? n = some p)
    (next : Reply → Program Nat) : host.Acts kept spare (host.fork n p next) := by
  let copy : Process :=
    { p with parent := some n, activity := .running (next .child), fatal := none, caught := [] }
  let between := p.descriptors.foldl (fun host d => host.hold d.2) host
  have held : host.Acts kept ((p.descriptors.map Prod.snd).reverse ++ spare) between :=
    confined.foldl_hold fun entry mem =>
      Nat.lt_of_lt_of_le (List.count_pos_iff.2 (List.mem_map_of_mem mem)) (grasps_le found entry.2)
  have added : between.Acts kept spare { between with processes := between.processes ++ [copy] } :=
    held.confined.appendProcess fun m => by
      rw [List.count_append, List.count_reverse]
      exact Nat.le_refl _
  exact (held.trans added).trans (added.confined.resume n _)

/-! ### Descriptors -/

theorem bindDescriptor (confined : host.Confined kept (n :: spare)) (m descriptor : Nat) :
    host.Acts kept spare (host.bindDescriptor m descriptor n) := by
  unfold Host.bindDescriptor
  split
  · exact ⟨.refl host, confined.fewer fun _ => List.count_le_count_cons⟩
  · rename_i p found
    refine confined.setProcess found ⟨id, id⟩ fun k => ?_
    have fewer : ((p.descriptors.filter (·.1 ≠ descriptor)).map Prod.snd).count k ≤ p.grasps k :=
      (List.filter_sublist.map Prod.snd).count_le k
    unfold Process.grasps at fewer ⊢
    simp only [List.map_cons, List.count_cons] at fewer ⊢
    omega

theorem closeDescriptor (confined : host.Confined kept spare) (m descriptor : Nat) :
    host.Acts kept spare (host.closeDescriptor m descriptor) := by
  unfold Host.closeDescriptor
  split
  · exact confined.refl
  · rename_i p found
    split
    · exact confined.refl
    · rename_i n denotes
      have closed : host.Acts kept (n :: spare) (host.setProcess m
          { p with descriptors := p.descriptors.filter (·.1 ≠ descriptor) }) :=
        confined.setProcess found ⟨id, id⟩ (count_filter_add_le denotes)
      exact closed.trans closed.confined.release

theorem foldl_closeDescriptor (confined : host.Confined kept spare) (m : Nat)
    (entries : List (Nat × Nat)) :
    host.Acts kept spare (entries.foldl (fun host d => host.closeDescriptor m d.1) host) := by
  induction entries generalizing host with
  | nil => exact confined.refl
  | cons entry rest ih =>
    have closed := confined.closeDescriptor m entry.1
    exact closed.trans (ih closed.confined)

theorem replace (confined : host.Confined kept spare) (n : Nat) (program : Program Nat) :
    host.Acts kept spare (host.replace n program) := by
  have closed : host.Acts kept spare (host.closePrivate n) := by
    unfold Host.closePrivate
    split
    · exact confined.refl
    · exact confined.foldl_closeDescriptor n _
  unfold Host.replace
  dsimp only
  split
  · exact closed
  · rename_i found
    exact closed.trans (closed.confined.adjust found ⟨id, id⟩ rfl)

/-! ### Requests -/

/-- What a process reaches through a descriptor is held for it. -/
theorem within (found : host.process? n = some p) {descriptor : Nat}
    (denotes : denoted p descriptor = some m) : 0 < host.grasps m + spare.count m :=
  Nat.lt_add_right _ (Nat.lt_of_lt_of_le (grasps_of_denoted denotes) (grasps_le found m))

theorem replies (confined : host.Confined kept spare) (found : host.process? n = some p)
    (replies : host.Replies n p after) : host.Acts kept spare after := by
  cases replies with
  | adjusts adjusts => exact confined.adjusts adjusts
  | read denotes done => exact confined.read (within found denotes) done
  | write denotes done => exact confined.write (within found denotes) done
  | signalled denotes done =>
    have written := confined.write (within found denotes) done
    exact written.trans (written.confined.send n _)
  | opened done =>
    have opened := confined.addsNode (openFile_adds done)
    exact opened.trans (opened.confined.bindDescriptor n _)
  | closed descriptor => exact confined.closeDescriptor n descriptor
  | duplicated target denotes =>
    have held := confined.hold_again (within found denotes)
    have closed := held.trans (held.confined.closeDescriptor n target)
    exact closed.trans (closed.confined.bindDescriptor n target)
  | saved least denotes =>
    have held := confined.hold_again (within found denotes)
    exact held.trans (held.confined.bindDescriptor n _)
  | piped first second =>
    have made := confined.makePipe
    have readable := made.trans (made.confined.bindDescriptor n first)
    exact readable.trans (readable.confined.bindDescriptor n second)

/-! ### Steps -/

/-- A step of a process keeps it away from what is kept. -/
theorem step (confined : host.Confined kept spare) (h : host.step n = some after) :
    host.Acts kept spare after := by
  obtain ⟨p, program, found, -, steps⟩ := step_steps h
  cases steps with
  | delivered => exact confined.deliver n
  | finished status => exact confined.finish n status
  | forked next => exact confined.fork found next
  | replaced next => exact confined.replace n next
  | resumed replied next =>
    have acts := confined.replies found replied
    exact acts.trans (acts.confined.resume n next)
  | adjusts adjusts => exact confined.adjusts adjusts

end Confined

end Host

end AlgorithmDriver

import AlgorithmDriver.Proofs.Driver.Ending
import Mathlib.Data.List.FinRange

/-!
# Several drivers

Drivers know nothing of each other, but they have one world in common.  The streams of all of them
stand in the same lists, and their processes run on the same host.

* A `Company` is any number of drivers in one world, each with all that is under way; `Company.Step`
  is one step of any of them.
* Every stream has exactly the handles that are held, whoever holds them, and no two instances or
  channels have a stream or a process in common, whichever drivers they belong to
  (`Company.Sound`, `Company.Run.sound`).
-/

namespace AlgorithmDriver

open Stage (notices)

/-! ## A driver among others -/

namespace Stage

variable {s t : Stage} {deed : Deed} {deeds : List Deed} {others : Holdings}

/-- A stage on which all that others hold is under way as well. -/
def amid (s : Stage) (others : Holdings) : Stage :=
  { s with
    arriving := s.arriving ++ others.instances
    openedReads := s.openedReads ++ others.reads
    openedWrites := s.openedWrites ++ others.writes
    readers := s.readers ++ others.readers
    writers := s.writers ++ others.writers }

/-- What a driver does it does among others too. -/
theorem Step.amid (step : Step s deed t) (others : Holdings) :
    Step (s.amid others) deed (t.amid others) := by
  have left {α : Type} {a : α} {own : List α} (rest : List α) (mem : a ∈ own) : a ∈ own ++ rest :=
    List.mem_append_left rest mem
  cases step with
  | spawn spawned => exact .spawn (s := s.amid others) spawned
  | register arrived =>
    have next := Step.register (s := s.amid others) (left _ arrived)
    rwa [show (s.amid others).arriving = s.arriving ++ others.instances from rfl,
      List.erase_append_left _ arrived] at next
  | look found => exact .look (s := s.amid others) found
  | signal found running => exact .signal (s := s.amid others) found running
  | inputPipe id =>
    have next := Step.inputPipe (s := s.amid others) id
    rwa [show (s.amid others).writers = s.writers ++ others.writers from rfl,
      ← List.append_assoc] at next
  | outputPipe id =>
    have next := Step.outputPipe (s := s.amid others) id
    rwa [show (s.amid others).readers = s.readers ++ others.readers from rfl,
      ← List.append_assoc] at next
  | takeInstances => exact .takeInstances (s := s.amid others)
  | depart leaving goes => exact .depart (s := s.amid others) leaving goes
  | depose leaving gone => exact .depose (s := s.amid others) leaving gone
  | acquireRead opened => exact .acquireRead (s := s.amid others) opened
  | registerRead opened =>
    have next := Step.registerRead (s := s.amid others) (left _ opened)
    rwa [show (s.amid others).openedReads = s.openedReads ++ others.reads from rfl,
      List.erase_append_left _ opened] at next
  | lendRead found => exact .lendRead (s := s.amid others) found
  | takeRead found => exact .takeRead (s := s.amid others) found
  | takeReads => exact .takeReads (s := s.amid others)
  | releaseRead closing => exact .releaseRead (s := s.amid others) closing
  | acquireWrite opened => exact .acquireWrite (s := s.amid others) opened
  | registerWrite opened =>
    have next := Step.registerWrite (s := s.amid others) (left _ opened)
    rwa [show (s.amid others).openedWrites = s.openedWrites ++ others.writes from rfl,
      List.erase_append_left _ opened] at next
  | lendWrite found => exact .lendWrite (s := s.amid others) found
  | takeWrite found => exact .takeWrite (s := s.amid others) found
  | takeWrites => exact .takeWrites (s := s.amid others)
  | releaseWrite closing => exact .releaseWrite (s := s.amid others) closing
  | holdSource holds => exact .holdSource (s := s.amid others) (left _ holds)
  | dropSource holds =>
    have next := Step.dropSource (s := s.amid others) (left _ holds)
    rwa [show (s.amid others).readers = s.readers ++ others.readers from rfl,
      List.erase_append_left _ holds] at next
  | closeSource holds => exact .closeSource (s := s.amid others) (left _ holds)
  | read holds done => exact .read (s := s.amid others) (left _ holds) done
  | holdSink holds => exact .holdSink (s := s.amid others) (left _ holds)
  | dropSink holds =>
    have next := Step.dropSink (s := s.amid others) (left _ holds)
    rwa [show (s.amid others).writers = s.writers ++ others.writers from rfl,
      List.erase_append_left _ holds] at next
  | closeSink holds => exact .closeSink (s := s.amid others) (left _ holds)
  | write holds done => exact .write (s := s.amid others) (left _ holds) done
  | flush holds => exact .flush (s := s.amid others) (left _ holds)
  | record entry => exact .record (s := s.amid others) entry
  | elsewhere elsewhere => exact .elsewhere (s := s.amid others) elsewhere

/-- What others hold stands between what is in the tables and what is being closed. -/
theorem perm_amid {α : Type} (values opened closing rest : List α) :
    (values ++ ((opened ++ rest) ++ closing)).Perm ((values ++ (opened ++ closing)) ++ rest) := by
  rw [List.append_assoc opened, List.append_assoc values, List.append_assoc opened]
  exact (List.perm_append_comm.append_left opened).append_left values

theorem amid_instances (s : Stage) (others : Holdings) :
    (s.amid others).instances.Perm (s.instances ++ others.instances) := perm_amid _ _ _ _

theorem amid_reads (s : Stage) (others : Holdings) :
    (s.amid others).reads.Perm (s.reads ++ others.reads) := perm_amid _ _ _ _

theorem amid_writes (s : Stage) (others : Holdings) :
    (s.amid others).writes.Perm (s.writes ++ others.writes) := perm_amid _ _ _ _

/-! ## Processes -/

/-- Instances have their processes to themselves. -/
structure Separate (host : Host) (instances : List Instance) : Prop where
  apart : (instances.map Instance.process).Nodup
  started : ∀ i ∈ instances, ∃ p, host.process? i.process = some p

theorem Separate.of_perm {host : Host} {before after : List Instance}
    (separate : Separate host before) (perm : before.Perm after) : Separate host after where
  apart := (perm.map Instance.process).nodup separate.apart
  started i mem := separate.started i (perm.mem_iff.2 mem)

/-- Nothing is lost on the host. -/
theorem Separate.onward {host after : Host} {instances : List Instance}
    (separate : Separate host instances) (onward : host.Onward after) :
    Separate after instances where
  apart := separate.apart
  started i mem := by
    obtain ⟨p, found⟩ := separate.started i mem
    exact onward.process? found

/-- An instance keeps its process. -/
theorem Separate.change {host : Host} {i i' : Instance} {before after rest : List Instance}
    (separate : Separate host before) (has : before.Perm (i :: rest))
    (same : i'.process = i.process) (becomes : after.Perm (i' :: rest)) : Separate host after := by
  obtain ⟨apart, started⟩ := separate.of_perm has
  suffices changed : Separate host (i' :: rest) from changed.of_perm becomes.symm
  refine ⟨?_, fun j mem => ?_⟩
  · rw [List.map_cons, same]
    exact apart
  · rcases List.mem_cons.1 mem with rfl | old
    · rw [same]
      exact started i List.mem_cons_self
    · exact started j (List.mem_cons_of_mem _ old)

theorem settle_process (d : Departure) (world : World) :
    (d.settle world).1.process = d.i.process := by
  unfold Departure.settle
  split
  · rfl
  · rcases d.i.reap_spec world with ⟨_, same⟩ | ⟨_, _, same⟩ | ⟨_, _, ⟨_, same⟩ | ⟨_, same⟩⟩
    all_goals exact congrArg (fun waited => waited.1.process) same
  · exact Instance.poll_process _ _

/-- The process of an instance that is started is new. -/
theorem Separate.start {instances : List Instance} {name : String} {command : Command}
    {policy : ErrorPolicy} {world after : World} {i : Instance}
    (separate : Separate world.host instances)
    (started : Instance.start name command policy world = .ok (i, after)) :
    Separate after.host (i :: instances) := by
  have kept := separate.onward (Instance.start_onward started)
  obtain ⟨-, errors, host, program, opened, -, rfl, rfl⟩ := Instance.start_eq_ok_iff.1 started
  have known := separate.onward (Instance.openErrors_onward opened)
  refine ⟨List.nodup_cons.2 ⟨fun mem => ?_, separate.apart⟩, fun j mem => ?_⟩
  · obtain ⟨j, mem, same⟩ := List.mem_map.1 mem
    obtain ⟨p, found⟩ := known.started j mem
    have bound : j.process < host.processes.length := (List.getElem?_eq_some_iff.1 found).1
    exact Nat.ne_of_lt bound same
  · rcases List.mem_cons.1 mem with rfl | old
    · exact ⟨_, List.getElem?_concat_length⟩
    · exact kept.started j old

/-- Every step keeps the processes of instances apart. -/
theorem Step.separate (step : Step s deed t) (follows : s.driver.Follows (notices deeds))
    (separate : Separate s.world.host s.instances) : Separate t.world.host t.instances := by
  have kept := separate.onward step.ahead.onward
  cases step with
  | spawn spawned =>
    obtain ⟨command, started⟩ := Driver.spawn_start spawned
    exact (separate.start started).of_perm List.perm_middle.symm
  | @register i arrived =>
    refine kept.of_perm ?_
    have moved := (List.perm_cons_erase arrived).append_right (s.leaving.map Departure.i)
    show (s.driver.algorithms.values ++ _).Perm ((s.driver.algorithms.insert i).2.values ++ _)
    rw [Table.values_insert, List.append_assoc]
    exact moved.append_left _
  | @look id i found =>
    obtain ⟨rest, has, after⟩ := instances_of_get? follows found
    exact kept.change has (i.poll_process s.world) (after _ _)
  | @signal id i found _ =>
    obtain ⟨rest, has, after⟩ := instances_of_get? follows found
    have process : (i.signal s.world).1.process = i.process := rfl
    exact kept.change has process (after _ _)
  | inputPipe id =>
    unfold Stage.after Driver.inputPipe at kept ⊢
    cases found : s.driver.algorithms.get? id with
    | none =>
      rw [found] at kept
      exact kept
    | some i =>
      rw [found] at kept
      obtain ⟨rest, has, after⟩ := instances_of_get? follows found
      refine kept.change has ?_ (after (i.inputPipe s.world).2.1 s.world)
      exact (i.inputPipe_same s.world).1
  | outputPipe id =>
    unfold Stage.after Driver.outputPipe at kept ⊢
    cases found : s.driver.algorithms.get? id with
    | none =>
      rw [found] at kept
      exact kept
    | some i =>
      rw [found] at kept
      exact kept
  | takeInstances => exact kept.of_perm (takeInstances_perm s)
  | @depart d d' leaving goes =>
    obtain ⟨-, rfl, -⟩ := Departure.next_of_goes goes
    exact kept.change (instances_of_leaving leaving) (settle_process d s.world)
      Holdings.Sound.perm_station
  | depose leaving _ =>
    have fewer := kept.of_perm (instances_of_leaving leaving)
    exact ⟨(List.nodup_cons.1 fewer.apart).2,
      fun j mem => fewer.started j (List.mem_cons_of_mem _ mem)⟩
  | acquireRead | registerRead | lendRead | takeRead | takeReads | releaseRead | acquireWrite
    | registerWrite | lendWrite | takeWrite | takeWrites | releaseWrite | holdSource | dropSource
    | closeSource | read | holdSink | dropSink | closeSink | write | flush | record
    | elsewhere => exact kept

/-- A driver that nobody used yet has nothing. -/
theorem New.instances (new : s.New) : s.instances = [] := by
  unfold Stage.instances
  rw [new.algorithms, new.arriving, new.leaving]
  rfl

theorem New.reads (new : s.New) : s.reads = [] := by
  unfold Stage.reads
  rw [new.readFiles, new.openedReads, new.closingReads]
  rfl

theorem New.writes (new : s.New) : s.writes = [] := by
  unfold Stage.writes
  rw [new.writeFiles, new.openedWrites, new.closingWrites]
  rfl

end Stage

/-! ## Companies -/

/-- Any number of drivers in one world. -/
structure Company (n : Nat) where
  world : World
  /-- The drivers with all that is under way.  Their world is the one above, whatever it was when
  they were looked at last. -/
  members : Fin n → Stage

namespace Company

variable {n : Nat} {start c d : Company n}

/-- A driver of the company in the world as it is. -/
def stage (c : Company n) (k : Fin n) : Stage := { c.members k with world := c.world }

/-- Nobody used any of the drivers yet. -/
def New (c : Company n) : Prop := ∀ k, (c.members k).New

/-- One step of one of the drivers. -/
inductive Step (c : Company n) : Company n → Prop
  | member (k : Fin n) {deed : Deed} {t : Stage} (step : (c.stage k).Step deed t) :
      Step c { world := t.world, members := Function.update c.members k t }

/-- A run of a company. -/
inductive Run (start : Company n) : Company n → Prop
  | nil : Run start start
  | snoc {c d : Company n} (run : Run start c) (step : Step c d) : Run start d

/-- What the members have of something, one after the other. -/
def gather {α : Type} (members : List (Fin n)) (has : Fin n → List α) : List α :=
  members.flatMap has

/-- What one member has, and what the others have. -/
theorem gather_perm {α : Type} (has : Fin n → List α) (k : Fin n) :
    (gather (List.finRange n) has).Perm (has k ++ gather ((List.finRange n).erase k) has) :=
  (List.perm_cons_erase (List.mem_finRange k)).flatMap_right has

/-- What one member has does not matter to the others. -/
theorem gather_others {α : Type} {has has' : Fin n → List α} {k : Fin n}
    (same : ∀ l ≠ k, has' l = has l) :
    gather ((List.finRange n).erase k) has' = gather ((List.finRange n).erase k) has := by
  refine List.flatMap_congr fun l mem => same l ?_
  exact ((List.nodup_finRange n).mem_erase_iff.1 mem).1

/-- What some members hold. -/
def held (c : Company n) (members : List (Fin n)) : Holdings where
  world := c.world
  instances := gather members fun k => (c.members k).instances
  reads := gather members fun k => (c.members k).reads
  writes := gather members fun k => (c.members k).writes
  readers := gather members fun k => (c.members k).readers
  writers := gather members fun k => (c.members k).writers

/-- What all members hold. -/
def holdings (c : Company n) : Holdings := c.held (List.finRange n)

/-- What all but one of the members hold. -/
def others (c : Company n) (k : Fin n) : Holdings := c.held ((List.finRange n).erase k)

/-- Every driver is as its history tells, every stream has exactly the handles that are held, and
instances have their processes to themselves. -/
structure Sound (start : World) (c : Company n) : Prop where
  follows : ∀ k, ∃ deeds, (c.members k).driver.Follows (notices deeds)
  holdings : c.holdings.Sound start
  separate : Stage.Separate c.world.host c.holdings.instances

theorem New.sound (new : start.New) : start.Sound start.world where
  follows k := ⟨[], (new k).sound.follows⟩
  holdings := by
    have none {α : Type} {has : Fin n → List α} (empty : ∀ k, has k = []) :
        gather (List.finRange n) has = [] := List.flatMap_eq_nil_iff.2 fun k _ => empty k
    have nobody : start.holdings = { world := start.world } := by
      unfold holdings held
      rw [none fun k => (new k).instances, none fun k => (new k).reads,
        none fun k => (new k).writes, none fun k => (new k).readers, none fun k => (new k).writers]
    rw [nobody]
    exact ⟨.nil _, .nil _, .nil, .nil, List.forall_mem_nil _⟩
  separate := by
    have none : start.holdings.instances = [] :=
      List.flatMap_eq_nil_iff.2 fun k _ => (new k).instances
    rw [none]
    exact ⟨.nil, List.forall_mem_nil _⟩

/-- One member does a step; the others are where they were. -/
theorem Step.sound (step : Step c d) {world : World} (sound : c.Sound world) : d.Sound world := by
  cases step with
  | @member k deed t step =>
    obtain ⟨deeds, follows⟩ := sound.follows k
    -- The others' instances, channels and handles go along as if they were under way at `k`.
    have same {α : Type} (has : Stage → List α) :
        gather ((List.finRange n).erase k) (fun l => has (Function.update c.members k t l)) =
          gather ((List.finRange n).erase k) fun l => has (c.members l) :=
      gather_others fun l other => by rw [Function.update_of_ne other]
    have before {α : Type} (has : Stage → List α) :
        (gather (List.finRange n) fun l => has (c.members l)).Perm
          (has (c.members k) ++ gather ((List.finRange n).erase k) fun l => has (c.members l)) :=
      gather_perm _ k
    have after {α : Type} (has : Stage → List α) :
        (gather (List.finRange n) fun l => has (Function.update c.members k t l)).Perm
          (has t ++ gather ((List.finRange n).erase k) fun l => has (c.members l)) := by
      have split := gather_perm (fun l => has (Function.update c.members k t l)) k
      rwa [same, Function.update_self] at split
    have amid := step.amid (c.others k)
    have follows' : ((c.stage k).amid (c.others k)).driver.Follows (notices deeds) := follows
    refine ⟨fun l => ?_, ?_, ?_⟩
    · by_cases this : l = k
      · subst this
        refine ⟨deeds ++ [deed], ?_⟩
        dsimp only
        rw [Function.update_self]
        exact step.follows follows
      · dsimp only
        rw [Function.update_of_ne this]
        exact sound.follows l
    · have held : ((c.stage k).amid (c.others k)).holdings.Sound world :=
        sound.holdings.of_perm rfl rfl
          ((before Stage.instances).trans (Stage.amid_instances (c.stage k) (c.others k)).symm)
          ((before Stage.reads).trans (Stage.amid_reads (c.stage k) (c.others k)).symm)
          ((before Stage.writes).trans (Stage.amid_writes (c.stage k) (c.others k)).symm)
          (before Stage.readers) (before Stage.writers)
      exact (amid.holdings follows' held).of_perm rfl rfl
        ((Stage.amid_instances t (c.others k)).trans (after Stage.instances).symm)
        ((Stage.amid_reads t (c.others k)).trans (after Stage.reads).symm)
        ((Stage.amid_writes t (c.others k)).trans (after Stage.writes).symm)
        (after Stage.readers).symm (after Stage.writers).symm
    · have separate : Stage.Separate c.world.host ((c.stage k).amid (c.others k)).instances :=
        sound.separate.of_perm
          ((before Stage.instances).trans (Stage.amid_instances (c.stage k) (c.others k)).symm)
      exact (amid.separate follows' separate).of_perm
        ((Stage.amid_instances t (c.others k)).trans (after Stage.instances).symm)

theorem Run.sound (new : start.New) (run : Run start c) : c.Sound start.world := by
  induction run with
  | nil => exact new.sound
  | snoc _ step ih => exact step.sound ih

end Company

end AlgorithmDriver

import AlgorithmDriver.Proofs.CommandLine.Starting
import AlgorithmDriver.Proofs.Driver.Seclusion

/-!
# Processes during a run

The processes of the machine are among the others of an exchange, the process of the algorithm
included.

* `Connection.Guards` says that no process has a descriptor of a stream, nor of the ends of the two
  pipes that are not the algorithm's.  Then a step of a process is one of the others, and this remains
  so (`Guards.others`).  The parties keep it as well (`Guards.tends`).
* `Exchange.Steps` is a run of the parties and of the processes of the machine, in any order.  It is a
  `Run` (`Steps.reaches`), and so is what `Exchange.conduct` does (`conduct_steps`).
-/

namespace AlgorithmDriver

theorem World.Secluded.confined {world : World} (secluded : world.Secluded) :
    world.host.Confined world.host.Shielded [] where
  counted := secluded.counted
  apart _ shielded := shielded.free
  known _ shielded := shielded.known

namespace CommandLine

namespace Connection

variable {c : Connection} {world after : World} {host : Host} {n : Nat}

/-- No process has a descriptor of a stream.  None can write to the input of the algorithm or read its
output. -/
structure Guards (c : Connection) (world : World) : Prop where
  secluded : world.Secluded
  made : c.inlet < world.host.pipes.length ∧ c.outlet < world.host.pipes.length
  inlet : ∀ n, world.host.Denotes n (.writeEnd c.inlet) → world.host.Shielded n
  outlet : ∀ n, world.host.Denotes n (.readEnd c.outlet) → world.host.Shielded n

namespace Guards

/-- The driver goes on with its streams. -/
theorem tends (guards : c.Guards world) (tends : world.Tends after) : c.Guards after := by
  have shielded {object : Object}
      (were : ∀ n, world.host.Denotes n object → world.host.Shielded n) (n : Nat)
      (denotes : after.host.Denotes n object) : after.host.Shielded n := by
    have fewer := tends.frees.grasps n
    refine ⟨denotes.known, Nat.le_zero.1 ?_⟩
    by_cases old : n < world.host.descriptions.length
    · exact (were n (denotes.of_onward tends.onward old)).free ▸ fewer
    · exact guards.secluded.free_of_le (Nat.not_lt.1 old) ▸ fewer
  exact ⟨guards.secluded.tends tends,
    ⟨Nat.lt_of_lt_of_le guards.made.1 tends.pipes, Nat.lt_of_lt_of_le guards.made.2 tends.pipes⟩,
    shielded guards.inlet, shielded guards.outlet⟩

/-- A process takes a step. -/
theorem others (guards : c.Guards world) (step : world.host.step n = some host) :
    (∃ took put, c.Others took put world { world with host }) ∧ c.Guards { world with host } := by
  have acts : world.host.Acts world.host.Shielded [] host := guards.secluded.confined.step step
  have still (m : Nat) (shielded : world.host.Shielded m) : host.Shielded m :=
    ⟨acts.confined.known m shielded, acts.confined.apart m shielded⟩
  have same (m : Nat) (shielded : world.host.Shielded m) :
      host.descriptions[m]? = world.host.descriptions[m]? := by
    have was := List.getElem?_eq_getElem shielded.known
    rw [was]
    exact acts.still m _ shielded was
  obtain ⟨took, put, ⟨held, rest, was, now, taken⟩, _, unput⟩ := acts.flows c.inlet guards.made.1
  obtain rfl := unput guards.inlet
  obtain ⟨took', put', ⟨held', rest', was', now', added⟩, untaken, unput'⟩ :=
    acts.flows c.outlet guards.made.2
  obtain rfl := untaken guards.outlet
  have quiet : world.host.hasWriter c.outlet = false →
      ∀ m, world.host.Denotes m (.writeEnd c.outlet) → world.host.Shielded m := by
    intro isSealed m ⟨d, found, object⟩
    have none := Host.hasWriter_eq_false_iff.1 isSealed m d found object
    have counted := guards.secluded.counted m
    rw [Host.holders_of_found found, none] at counted
    exact ⟨(List.getElem?_eq_some_iff.1 found).1, Nat.le_zero.1 counted⟩
  refine ⟨⟨took, put',
    { toElsewhere := World.Proceeds.elsewhere ⟨host, .step .refl step, rfl⟩
      own := fun m owns => same m (guards.secluded.streams m ?_)
      inlet := ?_, outlet := ?_
      sealed := fun isSealed => ⟨unput' (quiet isSealed), ?_⟩ }⟩, ?_⟩
  · rcases owns with ⟨w, sink, isOpen, here, _⟩ | ⟨r, source, isOpen, here, _⟩
    · exact .inl ⟨w, sink, isOpen, here⟩
    · exact .inr ⟨r, source, isOpen, here⟩
  · rw [was, now, Option.map_some, ← taken, List.append_nil]
  · rw [was', now', Option.map_some, added]
    rfl
  · rw [Host.hasWriter_eq_false_iff]
    intro m d found object
    have denotes : host.Denotes m (.writeEnd c.outlet) := ⟨d, found, object⟩
    have shielded := acts.denotes_kept (.inr rfl) guards.made.2 (quiet isSealed) m denotes
    exact Host.hasWriter_eq_false_iff.1 isSealed m d ((same m shielded).symm.trans found) object
  · exact
      { secluded := ⟨acts.confined.counted, fun m described =>
          still m (guards.secluded.streams m described)⟩
        made := ⟨Nat.lt_of_lt_of_le guards.made.1 acts.pipes_le,
          Nat.lt_of_lt_of_le guards.made.2 acts.pipes_le⟩
        inlet := fun m denotes =>
          still m (acts.denotes_kept (.inr rfl) guards.made.1 guards.inlet m denotes)
        outlet := fun m denotes =>
          still m (acts.denotes_kept (.inl rfl) guards.made.2 guards.outlet m denotes) }

/-- Time passes. -/
theorem elapse (guards : c.Guards world) (time : Nat) :
    c.Others [] [] world { world with host := { world.host with time } } ∧
      c.Guards { world with host := { world.host with time } } := by
  refine ⟨{ toElsewhere := World.Proceeds.elsewhere ⟨_, .elapse .refl time, rfl⟩
            own := fun _ _ => rfl
            inlet := Option.map_id'.symm
            outlet := ?_
            sealed := fun isSealed => ⟨rfl, isSealed⟩ }, ?_⟩
  · simp only [List.append_nil, Option.map_id']
  · exact ⟨⟨guards.secluded.counted, fun m described =>
        ⟨(guards.secluded.streams m described).known, (guards.secluded.streams m described).free⟩⟩,
      guards.made, fun m denotes => ⟨(guards.inlet m denotes).known, (guards.inlet m denotes).free⟩,
      fun m denotes => ⟨(guards.outlet m denotes).known, (guards.outlet m denotes).free⟩⟩

end Guards

end Connection

end CommandLine

/-! ## The start of an algorithm -/

/-- Besides, what processes get to write their errors to belongs to no stream. -/
structure World.Enclosed (world : World) : Prop extends world.Secluded where
  foreign : ¬ world.Describes world.errors
  known : world.errors < world.host.descriptions.length

namespace Instance

variable {name : String} {command : Command} {policy : ErrorPolicy} {before after : World}
  {i : Instance} {host : Host} {errors n : Nat} {kept : Nat → Prop}

/-- A process gets somewhere to write its errors to, which is no new pipe. -/
theorem openErrors_acts (confined : before.host.Confined kept [])
    (foreign : ¬ kept before.errors) (known : before.errors < before.host.descriptions.length)
    (opened : openErrors policy before = .ok (errors, host)) :
    before.host.Acts kept [errors] host ∧ errors < host.descriptions.length ∧
      ∀ n k object, before.host.descriptions.length ≤ n →
        object = .readEnd k ∨ object = .writeEnd k → ¬ host.Denotes n object := by
  cases policy with
  | inherit =>
    cases opened
    have acts := confined.hold foreign (List.getElem?_eq_getElem known)
    refine ⟨acts, Nat.lt_of_lt_of_le known acts.onward.length_le, fun n k object new _ denotes => ?_⟩
    have bound := denotes.known
    unfold Host.hold at bound
    rw [List.getElem?_eq_getElem known] at bound
    exact Nat.not_lt.2 new (Nat.lt_of_lt_of_eq bound List.length_set)
  | discard =>
    obtain ⟨node, opening⟩ := Host.openWrite_opened opened
    refine ⟨confined.addsNode (Host.openWrite_adds opened), (Host.openWrite_adds opened).made.2, ?_⟩
    rintro n k object new pipe ⟨d, found, rfl⟩
    rw [opening.description, List.getElem?_append_right new] at found
    obtain rfl := List.mem_singleton.1 (List.mem_of_getElem? found)
    rcases pipe with pipe | pipe <;> cases pipe

theorem pipedHost_acts (confined : host.Confined kept [errors]) (program : Program Nat) :
    host.Acts kept [] (pipedHost host program errors) := by
  have first := confined.makePipe
  have second := first.confined.makePipe
  have started : host.makePipe.2.2.makePipe.2.2.Acts kept [] (pipedHost host program errors) :=
    second.confined.appendProcess fun n => by
      show ([host.makePipe.1, host.makePipe.2.2.makePipe.2.1, errors] : List Nat).count n + 0 ≤ _
      simp only [List.count_cons, List.count_nil]
      omega
  exact (first.trans second).trans started

/-- The descriptions that the driver keeps of two new pipes. -/
theorem pipedHost_ends (new : host.descriptions.length ≤ n) (program : Program Nat) :
    ((pipedHost host program errors).Denotes n (.writeEnd host.pipes.length) →
        n = host.descriptions.length + 1) ∧
      ((pipedHost host program errors).Denotes n (.readEnd (host.pipes.length + 1)) →
        n = host.descriptions.length + 2) := by
  obtain ⟨m, rfl⟩ := Nat.exists_eq_add_of_le new
  constructor
  all_goals
    rintro ⟨d, found, object⟩
    rw [pipedHost_descriptions, List.getElem?_append_right new, Nat.add_sub_cancel_left] at found
    obtain _ | _ | _ | _ | m := m <;> cases found <;> first | rfl | exact absurd object (by simp)

/-- No process gets one of them. -/
theorem pipedHost_free (confined : host.Confined kept [errors])
    (bound : errors < host.descriptions.length) (program : Program Nat)
    (mine : n = host.descriptions.length + 1 ∨ n = host.descriptions.length + 2) :
    (pipedHost host program errors).grasps n = 0 := by
  have ends : host.makePipe.1 = host.descriptions.length ∧
      host.makePipe.2.2.makePipe.2.1 = host.descriptions.length + 3 := by
    simp [Host.makePipe, Host.describe]
  have counted := confined.counted n
  rw [Host.holders_of_le (by omega)] at counted
  have grown := Host.grasps_append host.makePipe.2.2.makePipe.2.2
    { parent := none, activity := .running program, directory := host.directory
      descriptors := [(0, host.makePipe.1), (1, host.makePipe.2.2.makePipe.2.1), (2, errors)] } n
  have none : ([host.makePipe.1, host.makePipe.2.2.makePipe.2.1, errors] : List Nat).count n = 0 := by
    refine List.count_eq_zero.2 fun mem => ?_
    simp only [List.mem_cons, List.not_mem_nil, or_false] at mem
    omega
  refine grown.trans ?_
  rw [Host.grasps_of_processes ((Host.makePipe_processes _).trans (Host.makePipe_processes host))]
  unfold Process.grasps
  simp only [List.map_cons, List.map_nil]
  omega

/-- The driver keeps its streams to itself when it starts an algorithm, and its ends of the pipes. -/
theorem start_guards (started : start name command policy before = .ok (i, after))
    (enclosed : before.Enclosed) (pipes : before.host.PipesKnown) : after.Secluded ∧
      (∀ n, after.host.Denotes n (.writeEnd before.host.pipes.length) → after.host.Shielded n) ∧
      ∀ n, after.host.Denotes n (.readEnd (before.host.pipes.length + 1)) → after.host.Shielded n := by
  obtain ⟨sink, source, adds⟩ := start_adds started
  obtain ⟨-, errors, host, program, opened, -, rfl, rfl⟩ := start_eq_ok_iff.1 started
  have confined : before.host.Confined before.Describes [] :=
    ⟨enclosed.counted, fun n described => (enclosed.streams n described).free,
      fun n described => (enclosed.streams n described).known⟩
  obtain ⟨first, bound, fresh⟩ := openErrors_acts confined enclosed.foreign enclosed.known opened
  have second := pipedHost_acts first.confined program
  have acts := first.trans second
  have same := (openErrors_pipes opened).1
  have new (n k : Nat) (object : Object) (later : before.host.pipes.length ≤ k)
      (pipe : object = .readEnd k ∨ object = .writeEnd k)
      (denotes : (pipedHost host program errors).Denotes n object) :
      host.descriptions.length ≤ n := by
    refine Nat.not_lt.1 fun old => ?_
    have denoted := denotes.of_onward second.onward old
    by_cases older : n < before.host.descriptions.length
    · exact adds.aside pipes older later pipe denotes
    · exact fresh n k object (Nat.not_lt.1 older) pipe denoted
  have inlet (n : Nat)
      (denotes : (pipedHost host program errors).Denotes n (.writeEnd before.host.pipes.length)) :
      (pipedHost host program errors).Shielded n := by
    have here := new n _ _ (Nat.le_refl _) (.inr rfl) denotes
    have mine := (pipedHost_ends here program).1 (same ▸ denotes)
    exact ⟨denotes.known, pipedHost_free first.confined bound program (.inl mine)⟩
  have outlet (n : Nat)
      (denotes : (pipedHost host program errors).Denotes n
        (.readEnd (before.host.pipes.length + 1))) :
      (pipedHost host program errors).Shielded n := by
    have here := new n _ _ (Nat.le_succ _) (.inl rfl) denotes
    have mine := (pipedHost_ends here program).2 (same ▸ denotes)
    exact ⟨denotes.known, pipedHost_free first.confined bound program (.inr mine)⟩
  refine ⟨⟨acts.confined.counted, fun n described => ?_⟩, inlet, outlet⟩
  have still (n : Nat) (was : before.Describes n) : (pipedHost host program errors).Shielded n :=
    ⟨acts.confined.known n was, acts.confined.apart n was⟩
  rcases described with ⟨w, other, isOpen, rfl⟩ | ⟨r, other, isOpen, rfl⟩
  · rcases adds.sinks w other isOpen with ⟨_, rfl⟩ | was
    · exact inlet _ adds.writes.denotes
    · exact still _ (.inl ⟨w, other, was, rfl⟩)
  · rcases adds.sources r other isOpen with ⟨_, rfl⟩ | was
    · exact outlet _ adds.reads
    · exact still _ (.inr ⟨r, other, was, rfl⟩)

end Instance

/-! ## Runs on a machine -/

theorem World.Copies.tends {world after : World} {r : ReadHandle} {w : WriteHandle}
    (copies : Copies r w world after) : world.Tends after := by
  cases copies with
  | read done => exact read_tends done
  | write done => exact write_tends done

namespace CommandLine

theorem LeavesFiles.of_same {options : RunOptions} {before after : Host}
    (files : after.files = before.files) (directory : after.directory = before.directory) :
    LeavesFiles options before after := by
  have same (path : String) : SamePlace path before after := by
    refine ⟨?_, fun n _ => ?_⟩
    · rw [files, directory]
    · rw [files]
  exact ⟨fun path _ => same path, fun path _ => same path⟩

namespace Exchange

variable {c : Connection} {e e' start : Exchange} {i : Instance} {world : World} {discreet : Prop}

theorem Touch.tends {after : World} (touch : Touch c e after) : e.world.Tends after := by
  cases touch with
  | manages manages => exact manages.tends
  | opensRead _ opens manages => exact opens.tends.trans manages.tends
  | opensWrite _ _ opens manages => exact opens.tends.trans manages.tends
  | copies _ copies manages => exact copies.tends.trans manages.tends

theorem Feeding.tends (feeding : Feeding e e') : e.world.Tends e'.world := by
  obtain ⟨_, _, _, copies, manages⟩ := feeding.touch
  exact copies.tends.trans manages.tends

/-- A run under way on a machine with whatever processes. -/
structure Sheltered (c : Connection) (e : Exchange) : Prop where
  plan : Plan c e
  concluded : Concluded c e
  guards : c.Guards e.world

theorem Ready.sheltered (ready : e.Ready) (enclosed : e.world.Enclosed)
    (spawned : e.driver.spawn e.options.name e.world = .ok (i, world)) :
    Sheltered e.connection e.start := by
  have plan := ready.plan spawned
  have eq := ready.start_eq spawned
  generalize LogEntry.started e.options.name ⟨1⟩ = entry at eq
  obtain ⟨command, started⟩ := Driver.spawn_start spawned
  obtain ⟨sink, source, adds⟩ := Instance.start_adds started
  obtain ⟨secluded, inlet, outlet⟩ := Instance.start_guards started enclosed ready.pipes
  have made : e.connection.inlet < world.host.pipes.length ∧
      e.connection.outlet < world.host.pipes.length := by
    rw [adds.pipes, List.length_append]
    exact ⟨Nat.lt_add_of_pos_right Nat.two_pos, Nat.add_lt_add_left Nat.one_lt_two _⟩
  have guards : e.connection.Guards world := ⟨secluded, made, inlet, outlet⟩
  have managed : world.Manages ((world.record entry).holdSource e.connection.fromAlgorithm) :=
    (World.record_quiet world entry).manages.trans (World.holdSource_quiet _ _).manages
  refine ⟨plan, ready.concluded spawned, ?_⟩
  rw [eq]
  exact guards.tends managed.tends

/-- Any number of steps of the parties and of processes, while time passes.  When the processes are
`discreet`, they leave the files that are copied alone. -/
inductive Steps (discreet : Prop) (start : Exchange) : Exchange → Prop
  | nil : Steps discreet start start
  | step {e e' : Exchange} {party : Party} (steps : Steps discreet start e)
      (step : e.step party = some e')
      (leaves : discreet → ∀ n, party = .process n →
        LeavesFiles e.options e.world.host e'.world.host) :
      Steps discreet start e'
  | elapse {e : Exchange} (steps : Steps discreet start e) (time : Nat) :
      Steps discreet start { e with world := { e.world with host := { e.world.host with time } } }

/-- A run that was reached on a machine with whatever processes, and how it looks to the parties. -/
structure Reaches (c : Connection) (discreet : Prop) (start : Exchange) (events : List Event)
    (e : Exchange) : Prop where
  steps : Steps discreet start e
  run : Run c discreet start events e
  sheltered : Sheltered c e

namespace Reaches

variable {events : List Event}

theorem main (reaches : Reaches c discreet start events e) (step : e.mainStep = some e') :
    Reaches c discreet start (events ++ [.main]) e' := by
  obtain ⟨steps, run, plan, concluded, guards⟩ := reaches
  have turn := concluded.turn plan step
  exact ⟨@Steps.step _ _ _ _ .main steps step fun _ _ other => (nomatch other),
    run.snoc (.main step),
    plan.ofTurn turn, concluded.ofTurn plan turn, guards.tends (turn.touch plan).tends⟩

theorem feeder (reaches : Reaches c discreet start events e) (step : e.feederStep = some e') :
    Reaches c discreet start (events ++ [.feeder]) e' := by
  obtain ⟨steps, run, plan, concluded, guards⟩ := reaches
  have feeding := feederStep_feeding step
  exact ⟨@Steps.step _ _ _ _ .feeder steps step fun _ _ other => (nomatch other),
    run.snoc (.feeder step),
    plan.ofFeeding feeding, concluded.ofFeeding feeding, guards.tends feeding.tends⟩

theorem others {took put : Bytes} (reaches : Reaches c discreet start events e)
    (steps : Steps discreet start { e with world })
    (others : c.Others took put e.world world) (guards : c.Guards world)
    (leaves : discreet → LeavesFiles e.options e.world.host world.host) :
    Reaches c discreet start (events ++ [.others took put]) { e with world } :=
  ⟨steps, reaches.run.snoc (.others others leaves), reaches.sheltered.plan.ofOthers others,
    reaches.sheltered.concluded.ofOthers others, guards⟩

/-- A process takes a step, whatever it takes and puts. -/
theorem some_process {n : Nat} {host : Host} (reaches : Reaches c discreet start events e)
    (step : e.world.host.step n = some host)
    (leaves : discreet → LeavesFiles e.options e.world.host host) :
    ∃ took put, c.Others took put e.world { e.world with host } ∧
      Reaches c discreet start (events ++ [.others took put])
        { e with world := { e.world with host } } := by
  obtain ⟨⟨took, put, others⟩, guards⟩ := reaches.sheltered.guards.others step
  have stepped : e.step (.process n) = some { e with world := { e.world with host } } := by
    rw [Exchange.step, step, Option.map_some]
  exact ⟨took, put, others,
    reaches.others (reaches.steps.step stepped fun isDiscreet _ _ => leaves isDiscreet) others guards
      leaves⟩

theorem elapse (reaches : Reaches c discreet start events e) (time : Nat) :
    Reaches c discreet start (events ++ [.others [] []])
      { e with world := { e.world with host := { e.world.host with time } } } := by
  obtain ⟨others, guards⟩ := reaches.sheltered.guards.elapse time
  exact reaches.others (reaches.steps.elapse time) others guards fun _ => .of_same rfl rfl

/-- A process takes a step in which it takes and puts just that. -/
theorem process {n : Nat} {host : Host} {took put : Bytes}
    (reaches : Reaches c discreet start events e) (step : e.world.host.step n = some host)
    (inlet : e.world.host.pipes[c.inlet]? = host.pipes[c.inlet]?.map (took ++ ·))
    (outlet : host.pipes[c.outlet]? = e.world.host.pipes[c.outlet]?.map (· ++ put))
    (leaves : discreet → LeavesFiles e.options e.world.host host) :
    Reaches c discreet start (events ++ [.others took put])
      { e with world := { e.world with host } } := by
  have guards := reaches.sheltered.guards
  obtain ⟨took', put', others, reached⟩ := reaches.some_process step leaves
  obtain ⟨rest, now, taken⟩ := Option.map_eq_some_iff.1
    (others.inlet.symm.trans (List.getElem?_eq_getElem guards.made.1))
  have was := List.getElem?_eq_getElem guards.made.2
  have same := inlet.symm.trans others.inlet
  have same' := outlet.symm.trans others.outlet
  rw [now, Option.map_some, Option.map_some] at same
  rw [was, Option.map_some, Option.map_some] at same'
  obtain rfl := List.append_cancel_right (Option.some.inj same)
  obtain rfl := List.append_cancel_left (Option.some.inj same')
  exact reached

end Reaches

/-- Whatever processes do, they are among the others. -/
theorem Steps.reaches (steps : Steps discreet start e) (sheltered : Sheltered c start) :
    ∃ events, Reaches c discreet start events e := by
  induction steps with
  | nil => exact ⟨[], .nil, .nil, sheltered⟩
  | @step _ _ party _ step leaves ih =>
    obtain ⟨events, reaches⟩ := ih
    cases party with
    | main => exact ⟨_, reaches.main step⟩
    | feeder => exact ⟨_, reaches.feeder step⟩
    | process n =>
      obtain ⟨host, stepped, rfl⟩ := Option.map_eq_some_iff.1 step
      obtain ⟨_, _, _, reached⟩ :=
        reaches.some_process stepped fun isDiscreet => leaves isDiscreet n rfl
      exact ⟨_, reached⟩
  | elapse _ time ih =>
    obtain ⟨events, reaches⟩ := ih
    exact ⟨_, reaches.elapse time⟩

theorem Steps.trans (first : Steps discreet start e) (second : Steps discreet e e') :
    Steps discreet start e' := by
  induction second with
  | nil => exact first
  | step _ step leaves ih => exact ih.step step leaves
  | elapse _ time ih => exact ih.elapse time

/-- Processes that leave the files alone in every step that they could take are discreet. -/
theorem Steps.of_discreet (steps : Steps False start e)
    (leaves : ∀ {e : Exchange} {n : Nat} {host : Host}, Steps False start e →
      e.world.host.step n = some host → LeavesFiles e.options e.world.host host) :
    Steps True start e := by
  induction steps with
  | nil => exact .nil
  | step before step _ ih =>
    refine ih.step step fun _ n party => ?_
    subst party
    obtain ⟨host, stepped, rfl⟩ := Option.map_eq_some_iff.1 step
    exact leaves before stepped
  | elapse _ time ih => exact ih.elapse time

theorem Steps.proceeds {host : Host} (proceeds : e.world.host.Proceeds host) :
    Steps False e { e with world := { e.world with host } } := by
  induction proceeds with
  | refl => exact .nil
  | @step between after n _ stepped ih =>
    exact @Steps.step False e { e with world := { e.world with host := between } } _ (.process n) ih
      (by rw [Exchange.step, stepped, Option.map_some]) False.elim
  | elapse _ time ih => exact ih.elapse time

/-- Runs are conducted step by step. -/
theorem conduct_steps (steps : Nat) (e : Exchange) : Steps False e (e.conduct steps) := by
  induction steps generalizing e with
  | zero => exact .nil
  | succ steps ih =>
    rw [conduct]
    split
    · exact .nil
    · split
      · rename_i fed
        exact (Steps.nil.step fed False.elim).trans (ih _)
      · split
        · rename_i turned
          exact (Steps.nil.step turned False.elim).trans (ih _)
        · split
          · exact .nil
          · exact (Steps.proceeds (Host.advance_proceeds e.world.host)).trans (ih _)

end Exchange

end CommandLine

end AlgorithmDriver

import AlgorithmDriver.Proofs.CommandLine.Transfer

/-!
# An exchange and its surroundings

The parties of an exchange share the machine with the process of the algorithm and with others.

* `Connection` names the process and the pipes between it and the parties.
* `Connection.Others` is anything that the process and the rest of the machine may do: they take
  bytes from the beginning of the algorithm's input and put bytes at the end of its output, as many
  and as often as they like.  They do not reach the streams of the exchange.
* `Exchange.Run` is a run in which the main party, the feeder and the others take steps in any order.
  When the others are `discreet`, they leave the files that are copied alone.
-/

namespace AlgorithmDriver.CommandLine

/-! ## The connection -/

/-- An algorithm that was started, and how it is connected to the parties. -/
structure Connection where
  id : AlgorithmId
  /-- The number of its process. -/
  process : Nat
  toAlgorithm : WriteHandle
  fromAlgorithm : ReadHandle
  /-- The pipe that the process reads. -/
  inlet : Nat
  /-- The pipe that the process writes. -/
  outlet : Nat

/-- A path leads where it led, and the file there is as it was. -/
structure SamePlace (path : String) (before after : Host) : Prop where
  found : after.files.find after.directory path = before.files.find before.directory path
  node : ∀ n, before.files.find before.directory path = .ok n →
    after.files.get? n = before.files.get? n

/-- The files that are copied are left alone. -/
structure LeavesFiles (options : RunOptions) (before after : Host) : Prop where
  input : ∀ path, options.input = some path → SamePlace path before after
  output : ∀ path, options.output = some path → SamePlace path before after

namespace Connection

variable {c : Connection} {took put : Bytes} {world after : World}

/-- The description is that of a stream that was opened since the algorithm was started. -/
def Owns (c : Connection) (world : World) (n : Nat) : Prop :=
  (∃ w sink, world.openSink? w = some sink ∧ sink.description = n ∧
      c.toAlgorithm.number ≤ w.number) ∨
    ∃ r source, world.openSource? r = some source ∧ source.description = n ∧
      c.fromAlgorithm.number ≤ r.number

/-- What happens without the parties.  The bytes `took` are taken from the algorithm's input, and the
bytes `put` are put into its output. -/
structure Others (c : Connection) (took put : Bytes) (before after : World) : Prop
    extends before.Elsewhere after where
  own : ∀ n, c.Owns before n → after.host.descriptions[n]? = before.host.descriptions[n]?
  inlet : before.host.pipes[c.inlet]? = after.host.pipes[c.inlet]?.map (took ++ ·)
  outlet : after.host.pipes[c.outlet]? = before.host.pipes[c.outlet]?.map (· ++ put)
  /-- Nobody can write to a pipe without a writer, or becomes one. -/
  sealed : before.host.hasWriter c.outlet = false →
    put = [] ∧ after.host.hasWriter c.outlet = false

/-! ## What others leave alone -/

namespace Others

variable {w : WriteHandle} {r : ReadHandle} {path : String} {node : Nat} {content : Bytes}

theorem openSink? (others : c.Others took put world after) (w : WriteHandle) :
    after.openSink? w = world.openSink? w := World.openSink?_of_sinks others.sinks w

theorem openSource? (others : c.Others took put world after) (r : ReadHandle) :
    after.openSource? r = world.openSource? r := World.openSource?_of_sources others.sources r

theorem grounded (others : c.Others took put world after) (grounded : world.Grounded) :
    after.Grounded where
  sources r source isOpen := Nat.lt_of_lt_of_le
    (grounded.sources r source ((others.openSource? r).symm.trans isOpen)) others.onward.length_le
  sinks w sink isOpen := Nat.lt_of_lt_of_le
    (grounded.sinks w sink ((others.openSink? w).symm.trans isOpen)) others.onward.length_le

theorem ofOwn {n : Nat} {sinks : WriteHandle → Prop} {sources : ReadHandle → Prop}
    (others : c.Others took put world after) (own : world.Own n sinks sources) :
    after.Own n sinks sources where
  sinks w sink isOpen := own.sinks w sink ((others.openSink? w).symm.trans isOpen)
  sources r source isOpen := own.sources r source ((others.openSource? r).symm.trans isOpen)

/-- A file that others leave alone, and the streams of the exchange. -/
theorem keeps (others : c.Others took put world after)
    (same : after.host.files.get? node = world.host.files.get? node) :
    world.host.Keeps (fun n => ¬ c.Owns world n) (· ≠ node) after.host where
  onward := others.onward
  places n d owned place := by
    have same := others.own n (Classical.not_not.1 owned)
    show (after.host.descriptions[n]?).map _ = _
    rw [same]
    exact place
  files n content here file := by
    obtain rfl := Classical.not_not.1 here
    obtain ⟨executable, found⟩ := FileTree.bytes?_eq_some_iff.1 file
    exact FileTree.bytes?_eq_some_iff.2 ⟨executable, same.trans found⟩

theorem piped_inlet {held : Bytes} {writer : Option WriteHandle} {reader : Option ReadHandle}
    (others : c.Others took put world after)
    (piped : world.Piped c.inlet writer reader held) :
    ∃ rest, held = took ++ rest ∧ after.Piped c.inlet writer reader rest := by
  obtain ⟨rest, now, same⟩ := Option.map_eq_some_iff.1 (others.inlet.symm.trans piped.held)
  exact ⟨rest, same.symm, piped.of_streams others.onward now others.sinks others.sources⟩

theorem piped_outlet {held : Bytes} {writer : Option WriteHandle} {reader : Option ReadHandle}
    (others : c.Others took put world after)
    (piped : world.Piped c.outlet writer reader held) :
    after.Piped c.outlet writer reader (held ++ put) :=
  piped.of_streams others.onward (by rw [others.outlet, piped.held, Option.map_some])
    others.sinks others.sources

theorem supplies {d k : Nat} (others : c.Others took put world after)
    (supplies : world.Supplies c.toAlgorithm d k) : after.Supplies c.toAlgorithm d k where
  isOpen := (others.openSink? _).trans supplies.isOpen
  own := others.ofOwn supplies.own
  holds := by
    have same := others.own d (.inl ⟨_, _, supplies.isOpen, rfl, Nat.le_refl _⟩)
    obtain ⟨description, found, holds⟩ := supplies.holds
    exact ⟨description, same.trans found, holds⟩

theorem unwritten (others : c.Others took put world after)
    (same : after.host.files.get? node = world.host.files.get? node)
    (unwritten : world.Unwritten node content) : after.Unwritten node content :=
  unwritten.of_origin (others.grounded unwritten.grounded) others.onward
    ((others.keeps same).files node content (fun apart => apart rfl) unwritten.file)
    fun w sink isOpen => ⟨sink, (others.openSink? w).symm.trans isOpen, rfl⟩

theorem delivers {drawn : Bytes} (others : c.Others took put world after)
    (same : after.host.files.get? node = world.host.files.get? node)
    (own : c.fromAlgorithm.number ≤ r.number) (delivers : world.Delivers r node drawn content) :
    after.Delivers r node drawn content :=
  delivers.spared (others.keeps same)
    (fun source isOpen unknown => unknown (.inr ⟨r, source, isOpen, rfl, own⟩))
    (fun _ isOpen => (others.openSource? r).symm.trans isOpen)
    (fun source isOpen => others.ofOwn (delivers.own source isOpen))
    (Nat.le_of_eq (congrArg List.length others.sources).symm)

theorem carries (others : c.Others took put world after)
    (same : after.host.files.get? node = world.host.files.get? node)
    (own : c.toAlgorithm.number ≤ w.number) (carries : world.Carries w node content) :
    after.Carries w node content :=
  carries.spared (others.keeps same)
    (fun sink isOpen unknown => unknown (.inl ⟨w, sink, isOpen, rfl, own⟩)) (fun apart => apart rfl)
    (others.openSink? w) (others.grounded carries.grounded)
    (fun sink isOpen => others.ofOwn (carries.own sink isOpen))
    (fun w' _ different isOpen leads =>
      carries.idle_of_same others.onward different ((others.openSink? w').symm.trans isOpen) leads)
    (Nat.le_of_eq (congrArg List.length others.sinks).symm)

end Others

end Connection

/-! ## Runs -/

namespace Exchange

/-- Who takes a step.  Of the others it shows what they take from the algorithm's input and put into
its output. -/
inductive Event where
  | main
  | feeder
  | others (took put : Bytes)
  deriving DecidableEq

namespace Event

def took : Event → Bytes
  | others took _ => took
  | _ => []

def put : Event → Bytes
  | others _ put => put
  | _ => []

end Event

/-- One step. -/
inductive Moves (c : Connection) (discreet : Prop) (e : Exchange) : Event → Exchange → Prop
  | main {e' : Exchange} (step : e.mainStep = some e') : Moves c discreet e .main e'
  | feeder {e' : Exchange} (step : e.feederStep = some e') : Moves c discreet e .feeder e'
  | others {took put : Bytes} {world : World} (others : c.Others took put e.world world)
      (leaves : discreet → LeavesFiles e.options e.world.host world.host) :
      Moves c discreet e (.others took put) { e with world }

/-- Any number of steps. -/
inductive Run (c : Connection) (discreet : Prop) (start : Exchange) : List Event → Exchange → Prop
  | nil : Run c discreet start [] start
  | snoc {events : List Event} {e e' : Exchange} {event : Event}
      (run : Run c discreet start events e) (moves : Moves c discreet e event e') :
      Run c discreet start (events ++ [event]) e'

theorem result?_eq_none_iff {e : Exchange} : e.result? = none ↔ ∀ result, e.stage ≠ .over result := by
  unfold result?
  constructor
  · intro going result ended
    rw [ended] at going
    cases going
  · intro going
    split
    · exact absurd ‹_› (going _)
    · rfl

/-- What the algorithm got to read. -/
def received (events : List Event) : Bytes := events.flatMap Event.took

/-- What the algorithm wrote. -/
def produced (events : List Event) : Bytes := events.flatMap Event.put

theorem received_snoc (events : List Event) (event : Event) :
    received (events ++ [event]) = received events ++ event.took := by
  rw [received, List.flatMap_append, List.flatMap_singleton]
  rfl

theorem produced_snoc (events : List Event) (event : Event) :
    produced (events ++ [event]) = produced events ++ event.put := by
  rw [produced, List.flatMap_append, List.flatMap_singleton]
  rfl

end Exchange

end AlgorithmDriver.CommandLine

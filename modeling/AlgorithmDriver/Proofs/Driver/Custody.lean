import AlgorithmDriver.Installation
import AlgorithmDriver.Proofs.Driver.Feed
import AlgorithmDriver.Proofs.Driver.Lifecycle

/-!
# Who owns the input of an instance

An instance keeps its input open until it is asked for it for the first time.  From then on the
handles that callers hold are the only owners, and the instance only remembers which stream it was.
Here one instance is followed through any run of questions for its input, of what callers do with
the handles they got, of looks and kill signals, and of steps of all processes.

* `Custody` is such an instance with the handles that callers hold, and `Custody.Run` a run.  A kill
  is a run of looks and a signal (`Run.kill`).
* `Sound` tells the state of the input and of its stream by what happened so far; every step keeps
  it (`Step.sound`).
* A started instance owns its input, and its process has no part of the write end
  (`Instance.start_feeds`).
* `Custody.ownership` is the result: when the input is handed out, that it is always the same
  stream, and when the write end of the process's input is open.
-/

namespace AlgorithmDriver

/-- An instance at work, with the handles of its input that callers hold. -/
structure Custody where
  i : Instance
  world : World
  held : List WriteHandle := []

/-- Processes take steps and time passes. -/
def World.Proceeds (world after : World) : Prop :=
  ∃ host, world.host.Proceeds host ∧ after = { world with host }

/-- This is what happens while an operation of the driver waits. -/
theorem World.advance_proceeds (world : World) : world.Proceeds world.advance :=
  ⟨_, world.host.advance_proceeds, rfl⟩

namespace Custody

/-- What shows of a step. -/
inductive Event where
  /-- The instance was asked for a handle of its input. -/
  | asked (answer : Option WriteHandle)
  | cloned
  | dropped
  | closed
  /-- Nothing that concerns the handles. -/
  | silent
  deriving DecidableEq

/-- One step of a run. -/
inductive Step (s : Custody) : Event → Custody → Prop
  | ask :
      Step s (.asked (s.i.inputPipe s.world).1)
        { i := (s.i.inputPipe s.world).2.1
          world := (s.i.inputPipe s.world).2.2
          held := (s.i.inputPipe s.world).1.toList ++ s.held }
  | clone {h : WriteHandle} (holds : h ∈ s.held) :
      Step s .cloned { s with world := s.world.holdSink h, held := h :: s.held }
  | drop {h : WriteHandle} (holds : h ∈ s.held) :
      Step s .dropped { s with world := s.world.dropSink h, held := s.held.erase h }
  | close {h : WriteHandle} (holds : h ∈ s.held) :
      Step s .closed { s with world := (s.world.closeSink h).2 }
  | write {h : WriteHandle} (holds : h ∈ s.held) {data : Bytes} {r : Except StreamError Nat}
      {after : World} (written : s.world.write h data = some (r, after)) :
      Step s .silent { s with world := after }
  | flush {h : WriteHandle} (holds : h ∈ s.held) :
      Step s .silent { s with world := (s.world.flush h).2 }
  | poll : Step s .silent { s with i := (s.i.poll s.world).1, world := (s.i.poll s.world).2 }
  /-- The kill signal is sent to an instance that is running as far as it knows. -/
  | signal (running : s.i.status = .running) :
      Step s .silent { s with i := (s.i.signal s.world).1, world := (s.i.signal s.world).2 }
  /-- Processes go on: in particular that of the instance, which may end. -/
  | proceed {after : World} (proceeds : s.world.Proceeds after) :
      Step s .silent { s with world := after }

/-- A run, with what shows of its steps. -/
inductive Run (start : Custody) : List Event → Custody → Prop
  | nil : Run start [] start
  | snoc {events : List Event} {s t : Custody} {event : Event} (run : Run start events s)
      (step : Step s event t) : Run start (events ++ [event]) t

/-- A kill is a run: a look, and if the instance is still running a signal and another look. -/
theorem Run.kill (s : Custody) (id : AlgorithmId) {meanwhile : World → World}
    (proceeds : ∀ world : World, world.Proceeds (meanwhile world)) :
    ∃ n, Run s (List.replicate n .silent)
      { s with
        i := (s.i.kill id s.world meanwhile).2.1
        world := (s.i.kill id s.world meanwhile).2.2 } := by
  have looked := Run.nil.snoc (Step.poll (s := s))
  unfold Instance.kill
  dsimp only
  split
  · rename_i running
    have signalled := (looked.snoc (.proceed (proceeds _))).snoc (.signal running)
    exact ⟨5, (signalled.snoc (.proceed (proceeds _))).snoc .poll⟩
  · exact ⟨1, looked⟩

/-! ## What the past tells -/

/-- The instance was asked for its input. -/
def Asked (events : List Event) : Prop := ∃ answer, .asked answer ∈ events

/-- How many owners the stream has: the callers with their handles, and the instance as long as it
has not lent it. -/
def keepers (s : Custody) : Nat :=
  (match s.i.input with
    | .owned _ => 1
    | _ => 0) + s.held.length

/-- Where the instance stands with its input. -/
inductive Lending (w : WriteHandle) (events : List Event) (s : Custody) : Prop
  | owned (running : s.i.status = .running) (never : ¬ Asked events) (input : s.i.input = .owned w)
      (none : s.held = [])
  | lent (running : s.i.status = .running) (once : Asked events) (input : s.i.input = .lent w)
  | released (stopped : s.i.status.isTerminal = true) (input : s.i.input = .released)

/-- What is known of an instance after a run.  Every owner of the stream is counted as a holder of
it, so it is open as long as there is one and nobody closed it. -/
structure Sound (w : WriteHandle) (d : Nat) (events : List Event) (s : Custody) : Prop where
  lending : Lending w events s
  held : ∀ h ∈ s.held, h = w
  answers : ∀ h, .asked (some h) ∈ events → h = w
  refused : .asked none ∈ events → s.i.status.isTerminal = true ∨ (Asked events ∧ s.held = [])
  feeds : s.world.Feeds w d (.closed ∉ events ∧ 0 < s.keepers) s.keepers

variable {w : WriteHandle} {d pipe : Nat} {events : List Event} {s t : Custody}

/-- What happens with handles that were given out does not show to the instance. -/
theorem Sound.quiet (sound : Sound w d events s) {event : Event}
    (quiet : event = .cloned ∨ event = .dropped ∨ event = .silent) :
    Sound w d (events ++ [event]) s := by
  have apart (other : Event) (h : other ≠ .cloned ∧ other ≠ .dropped ∧ other ≠ .silent) :
      other ∈ events ++ [event] ↔ other ∈ events := by
    rw [List.mem_append, List.mem_singleton]
    refine or_iff_left ?_
    rintro rfl
    rcases quiet with rfl | rfl | rfl
    · exact h.1 rfl
    · exact h.2.1 rfl
    · exact h.2.2 rfl
  have asked (answer : Option WriteHandle) := apart (.asked answer) (by simp)
  have same : Asked (events ++ [event]) ↔ Asked events := exists_congr asked
  refine ⟨?_, sound.held, fun h mem => sound.answers h ((asked _).1 mem), fun mem => ?_, ?_⟩
  · cases sound.lending with
    | owned running never input none => exact .owned running (never ∘ same.1) input none
    | lent running once input => exact .lent running (same.2 once) input
    | released stopped input => exact .released stopped input
  · rw [same]
    exact sound.refused ((asked _).1 mem)
  · rw [apart .closed (by simp)]
    exact sound.feeds

/-! ## What callers do -/

theorem keepers_of_owned {pipe : WriteHandle} (input : s.i.input = .owned pipe) :
    s.keepers = 1 + s.held.length := by
  unfold keepers
  rw [input]

theorem keepers_of_lent {pipe : WriteHandle} (input : s.i.input = .lent pipe) :
    s.keepers = s.held.length := by
  unfold keepers
  rw [input]
  exact Nat.zero_add _

theorem keepers_of_released (input : s.i.input = .released) : s.keepers = s.held.length := by
  unfold keepers
  rw [input]
  exact Nat.zero_add _

theorem held_length_le_keepers (s : Custody) : s.held.length ≤ s.keepers := Nat.le_add_left _ _

/-- Callers have handles only of a stream that was lent. -/
theorem Lending.not_owned (lending : Lending w events s) {h : WriteHandle} (holds : h ∈ s.held) :
    s.i.input = .lent w ∧ s.i.status = .running ∧ Asked events ∨
      s.i.input = .released ∧ s.i.status.isTerminal = true := by
  cases lending with
  | owned _ _ _ none =>
    rw [none] at holds
    cases holds
  | lent running once input => exact .inl ⟨input, running, once⟩
  | released stopped input => exact .inr ⟨input, stopped⟩

/-- What callers do with their handles leaves the instance alone. -/
theorem Sound.of_held (sound : Sound w d events s) {h : WriteHandle} (holds : h ∈ s.held)
    (i : t.i = s.i) (held : ∀ h ∈ t.held, h = w)
    (feeds : t.world.Feeds w d (.closed ∉ events ∧ 0 < t.keepers) t.keepers) :
    Sound w d events t where
  lending := by
    rcases sound.lending.not_owned holds with ⟨input, running, once⟩ | ⟨input, stopped⟩
    · exact .lent (i ▸ running) once (i ▸ input)
    · exact .released (i ▸ stopped) (i ▸ input)
  held := held
  answers := sound.answers
  refused mem := by
    rcases sound.refused mem with stopped | ⟨_, none⟩
    · exact .inl (i ▸ stopped)
    · rw [none] at holds
      cases holds
  feeds := feeds

theorem Sound.clone (sound : Sound w d events s) {h : WriteHandle} (holds : h ∈ s.held) :
    Sound w d events { s with world := s.world.holdSink h, held := h :: s.held } := by
  obtain rfl := sound.held h holds
  have some : 0 < s.keepers :=
    Nat.lt_of_lt_of_le (List.length_pos_of_mem holds) s.held_length_le_keepers
  refine sound.of_held holds rfl (List.forall_mem_cons.2 ⟨rfl, sound.held⟩) ?_
  refine (sound.feeds.holdSink).of_iff ?_
  exact and_congr_right fun _ => iff_of_true some (Nat.succ_pos _)

theorem Sound.drop (sound : Sound w d events s) {h : WriteHandle} (holds : h ∈ s.held) :
    Sound w d events { s with world := s.world.dropSink h, held := s.held.erase h } := by
  obtain rfl := sound.held h holds
  have one_less :
      ({ s with world := s.world.dropSink h, held := s.held.erase h } : Custody).keepers =
        s.keepers - 1 := by
    have some := List.length_pos_of_mem holds
    unfold keepers
    dsimp only
    rw [List.length_erase_of_mem holds]
    omega
  refine sound.of_held holds rfl (fun h mem => sound.held h (List.mem_of_mem_erase mem)) ?_
  rw [one_less]
  refine (sound.feeds.dropSink).of_iff ?_
  constructor
  · rintro ⟨⟨never, _⟩, more⟩
    exact ⟨never, by omega⟩
  · rintro ⟨never, more⟩
    exact ⟨⟨never, by omega⟩, by omega⟩

/-- Closing a handle closes the stream. -/
theorem Sound.close (sound : Sound w d events s) {h : WriteHandle} (holds : h ∈ s.held) :
    Sound w d (events ++ [.closed]) { s with world := (s.world.closeSink h).2 } := by
  obtain rfl := sound.held h holds
  have asked (answer : Option WriteHandle) :
      .asked answer ∈ events ++ [Event.closed] ↔ .asked answer ∈ events := by simp
  have same : Asked (events ++ [.closed]) ↔ Asked events := exists_congr asked
  refine ⟨?_, sound.held, fun h mem => sound.answers h ((asked _).1 mem), fun mem => ?_, ?_⟩
  · rcases sound.lending.not_owned holds with ⟨input, running, once⟩ | ⟨input, stopped⟩
    · exact .lent running (same.2 once) input
    · exact .released stopped input
  · rw [same]
    exact sound.refused ((asked _).1 mem)
  · refine (sound.feeds.closeSink).of_iff (iff_of_false id ?_)
    rintro ⟨never, _⟩
    exact never (List.mem_append_right _ List.mem_cons_self)

theorem Sound.write (sound : Sound w d events s) {h : WriteHandle} (holds : h ∈ s.held)
    {data : Bytes} {r : Except StreamError Nat} {after : World}
    (written : s.world.write h data = some (r, after)) :
    Sound w d events { s with world := after } := by
  obtain rfl := sound.held h holds
  exact sound.of_held holds rfl sound.held (sound.feeds.write written)

theorem Sound.flush (sound : Sound w d events s) {h : WriteHandle} (holds : h ∈ s.held) :
    Sound w d events { s with world := (s.world.flush h).2 } := by
  obtain rfl := sound.held h holds
  exact sound.of_held holds rfl sound.held sound.feeds.flush

/-! ## Asking for the input -/

theorem inputPipe_of_owned {i : Instance} {pipe : WriteHandle} (input : i.input = .owned pipe)
    (world : World) : i.inputPipe world = (some pipe, { i with input := .lent pipe }, world) := by
  unfold Instance.inputPipe
  rw [input]

theorem inputPipe_of_lent {i : Instance} {pipe : WriteHandle} (input : i.input = .lent pipe)
    (world : World) : i.inputPipe world =
      if world.isAlive pipe then (some pipe, i, world.holdSink pipe) else (none, i, world) := by
  unfold Instance.inputPipe
  rw [input]

theorem inputPipe_of_released {i : Instance} (input : i.input = .released) (world : World) :
    i.inputPipe world = (none, i, world) := by
  unfold Instance.inputPipe
  rw [input]

/-- How an instance answers: it lends its input, gives out another handle of it, or refuses. -/
theorem Sound.inputPipe_cases (sound : Sound w d events s) :
    (s.i.input = .owned w ∧ s.held = [] ∧ s.i.status = .running ∧ ¬ Asked events ∧
        s.i.inputPipe s.world = (some w, { s.i with input := .lent w }, s.world)) ∨
      (s.i.input = .lent w ∧ s.held ≠ [] ∧ s.i.status = .running ∧
        s.i.inputPipe s.world = (some w, s.i, s.world.holdSink w)) ∨
      ((s.i.status.isTerminal = true ∨ (Asked events ∧ s.held = [])) ∧
        s.i.inputPipe s.world = (none, s.i, s.world)) := by
  cases sound.lending with
  | owned running never input none =>
    exact .inl ⟨input, none, running, never, inputPipe_of_owned input s.world⟩
  | lent running once input =>
    have alive := sound.feeds.isAlive_iff
    rw [keepers_of_lent input, List.length_pos_iff] at alive
    rw [inputPipe_of_lent input]
    by_cases held : s.held = []
    · have gone : ¬ s.world.isAlive w = true := fun h => alive.1 h held
      rw [if_neg gone]
      exact .inr (.inr ⟨.inr ⟨once, held⟩, rfl⟩)
    · rw [if_pos (alive.2 held)]
      exact .inr (.inl ⟨input, held, running, rfl⟩)
  | released stopped input =>
    exact .inr (.inr ⟨.inl stopped, inputPipe_of_released input s.world⟩)

/-- Recording an answer. -/
theorem Sound.answered (lending : Lending w (events ++ [.asked (some w)]) t)
    (sound : Sound w d events s) (held : ∀ h ∈ t.held, h = w)
    (never : .asked none ∉ events)
    (feeds : t.world.Feeds w d (.closed ∉ events ∧ 0 < t.keepers) t.keepers) :
    Sound w d (events ++ [.asked (some w)]) t where
  lending := lending
  held := held
  answers h mem := by
    rw [List.mem_append, List.mem_singleton, Event.asked.injEq, Option.some.injEq] at mem
    rcases mem with old | rfl
    · exact sound.answers h old
    · rfl
  refused mem := by
    rw [List.mem_append, List.mem_singleton, Event.asked.injEq] at mem
    rcases mem with old | new
    · exact absurd old never
    · cases new
  feeds := by
    refine feeds.of_iff ?_
    simp

theorem Sound.ask (sound : Sound w d events s) :
    Sound w d (events ++ [.asked (s.i.inputPipe s.world).1])
      { i := (s.i.inputPipe s.world).2.1
        world := (s.i.inputPipe s.world).2.2
        held := (s.i.inputPipe s.world).1.toList ++ s.held } := by
  have asked (answer : Option WriteHandle) : Asked (events ++ [.asked answer]) :=
    ⟨answer, List.mem_append_right _ List.mem_cons_self⟩
  have stopped_ne_running : s.i.status = .running → s.i.status.isTerminal ≠ true := by
    intro running
    rw [running]
    decide
  rcases sound.inputPipe_cases with ⟨input, none, running, never, answer⟩ |
    ⟨input, some, running, answer⟩ | ⟨refused, answer⟩
  · rw [answer]
    refine .answered (.lent running (asked _) rfl) sound ?_ ?_ ?_
    · rw [none]
      exact List.forall_mem_singleton.2 rfl
    · exact fun mem => never ⟨_, mem⟩
    · have feeds := sound.feeds
      rw [keepers_of_owned input, none] at feeds
      rw [none]
      exact feeds
  · rw [answer]
    refine .answered (.lent running (asked _) input) sound ?_ ?_ ?_
    · exact List.forall_mem_cons.2 ⟨rfl, sound.held⟩
    · intro mem
      rcases sound.refused mem with stopped | ⟨_, none⟩
      · exact stopped_ne_running running stopped
      · exact some none
    · have keeps : 0 < s.keepers :=
        Nat.lt_of_lt_of_le (List.length_pos_iff.2 some) s.held_length_le_keepers
      refine (sound.feeds.holdSink).of_iff ?_
      exact and_congr_right fun _ => iff_of_true keeps (Nat.succ_pos _)
  · rw [answer]
    have same (event : Event) (h : event ≠ .asked none) :
        event ∈ events ++ [.asked none] ↔ event ∈ events := by
      rw [List.mem_append, List.mem_singleton]
      exact or_iff_left h
    refine ⟨?_, sound.held, fun h mem => ?_, fun _ => ?_, ?_⟩
    · cases sound.lending with
      | owned running never input none =>
        rcases refused with stopped | ⟨once, _⟩
        · exact absurd stopped (stopped_ne_running running)
        · exact absurd once never
      | lent running once input => exact .lent running (asked _) input
      | released stopped input => exact .released stopped input
    · exact sound.answers h ((same _ (by simp)).1 mem)
    · exact refused.imp_right fun h => ⟨asked _, h.2⟩
    · rw [same _ (by simp)]
      exact sound.feeds

/-! ## Looks, signals and time -/

theorem poll_cases (i : Instance) (world : World) :
    (∃ host reaped, (host = world.host ∨ host = (world.host.tryWait i.process).2) ∧
        i.poll world = ({ i with reaped }, { world with host })) ∨
      ∃ status : ExitStatus, i.status = .running ∧
        i.poll world = ({ i with reaped := true } : Instance).terminate (.exited status.code)
          (({ world with host := (world.host.tryWait i.process).2 } : World).record
            (.exited i.name status.code)) := by
  rcases i.poll_spec world with same | ⟨status, _, _, ⟨_, looked⟩ | ⟨running, looked⟩⟩
  · exact .inl ⟨world.host, i.reaped, .inl rfl, same⟩
  · exact .inl ⟨_, true, .inr rfl, looked⟩
  · exact .inr ⟨status, running, looked⟩

/-- When an instance drops its handles, the input is dropped unless it was lent. -/
theorem releasePipes_sinks (i : Instance) (world : World) :
    (i.releasePipes world).sinks =
      (match i.input with
        | .owned pipe => world.dropSink pipe
        | _ => world).sinks := by
  unfold Instance.releasePipes
  dsimp only
  split
  · exact World.dropSource_sinks _ _
  · rfl

/-- Noting a terminal status closes the stream only if the instance was its only owner. -/
theorem Sound.terminate (sound : Sound w d events s) {i : Instance} {world : World}
    (input : i.input = s.i.input) (sinks : world.sinks = s.world.sinks) (status : Status)
    (final : status.isTerminal = true) :
    Sound w d events
      { s with i := (i.terminate status world).1, world := (i.terminate status world).2 } where
  lending := .released final rfl
  held := sound.held
  answers := sound.answers
  refused _ := .inl final
  feeds := by
    have feeds := sound.feeds.of_sinks sinks
    have released := releasePipes_sinks i world
    rw [input] at released
    have kept : ({ s with
        i := (i.terminate status world).1
        world := (i.terminate status world).2 } : Custody).keepers = s.held.length :=
      keepers_of_released rfl
    rw [kept]
    show (i.releasePipes world).Feeds w d _ _
    cases sound.lending with
    | owned _ _ owned none =>
      rw [owned] at released
      rw [keepers_of_owned owned, none] at feeds
      rw [none]
      refine ((feeds.dropSink).of_sinks released).of_iff (iff_of_false ?_ ?_)
      · exact fun h => Nat.lt_irrefl 1 h.2
      · exact fun h => Nat.lt_irrefl 0 h.2
    | lent _ _ lent =>
      rw [lent] at released
      rw [keepers_of_lent lent] at feeds
      exact feeds.of_sinks released
    | released _ gone =>
      rw [gone] at released
      rw [keepers_of_released gone] at feeds
      exact feeds.of_sinks released

/-- An instance whose status and input are as they were. -/
theorem Sound.of_same (sound : Sound w d events s) {i : Instance} {world : World}
    (status : i.status = s.i.status) (input : i.input = s.i.input)
    (sinks : world.sinks = s.world.sinks) : Sound w d events { s with i, world } where
  lending := by
    cases sound.lending with
    | owned running never owned none =>
      exact .owned (status.trans running) never (input.trans owned) none
    | lent running once lent => exact .lent (status.trans running) once (input.trans lent)
    | released stopped gone => exact .released (status ▸ stopped) (input.trans gone)
  held := sound.held
  answers := sound.answers
  refused mem := by
    rw [status]
    exact sound.refused mem
  feeds := by
    have same : ({ s with i, world } : Custody).keepers = s.keepers := by
      unfold keepers
      dsimp only
      rw [input]
    rw [same]
    exact sound.feeds.of_sinks sinks

theorem Sound.poll (sound : Sound w d events s) :
    Sound w d events { s with i := (s.i.poll s.world).1, world := (s.i.poll s.world).2 } := by
  rcases poll_cases s.i s.world with ⟨host, reaped, _, same⟩ | ⟨status, _, noted⟩
  · rw [same]
    exact sound.of_same rfl rfl rfl
  · rw [noted]
    refine sound.terminate ?_ ?_ _ ?_ <;> rfl

theorem Sound.signal (sound : Sound w d events s) :
    Sound w d events { s with i := (s.i.signal s.world).1, world := (s.i.signal s.world).2 } := by
  unfold Instance.signal
  refine sound.terminate ?_ ?_ _ ?_ <;> rfl

theorem Sound.proceed (sound : Sound w d events s) {after : World}
    (proceeds : s.world.Proceeds after) : Sound w d events { s with world := after } := by
  obtain ⟨host, _, rfl⟩ := proceeds
  exact sound.of_same rfl rfl rfl

/-! ## Runs -/

/-- Every step keeps what is known. -/
theorem Step.sound {event : Event} (step : Step s event t) (sound : Sound w d events s) :
    Sound w d (events ++ [event]) t := by
  cases step with
  | ask => exact sound.ask
  | clone holds => exact (sound.clone holds).quiet (.inl rfl)
  | drop holds => exact (sound.drop holds).quiet (.inr (.inl rfl))
  | close holds => exact sound.close holds
  | write holds written => exact (sound.write holds written).quiet (.inr (.inr rfl))
  | flush holds => exact (sound.flush holds).quiet (.inr (.inr rfl))
  | poll => exact sound.poll.quiet (.inr (.inr rfl))
  | signal _ => exact sound.signal.quiet (.inr (.inr rfl))
  | proceed proceeds => exact (sound.proceed proceeds).quiet (.inr (.inr rfl))

theorem Run.sound {later : List Event} (run : Run s later t) (sound : Sound w d events s) :
    Sound w d (events ++ later) t := by
  induction run with
  | nil =>
    rw [List.append_nil]
    exact sound
  | snoc _ step ih =>
    rw [← List.append_assoc]
    exact step.sound ih

theorem Step.isTerminal {event : Event} (step : Step s event t)
    (stopped : s.i.status.isTerminal = true) : t.i.status.isTerminal = true := by
  cases step with
  | ask => exact (Instance.inputPipe_same s.i s.world).2.1 ▸ stopped
  | poll =>
    rcases poll_cases s.i s.world with ⟨_, _, _, same⟩ | ⟨_, running, _⟩
    · rw [same]
      exact stopped
    · rw [running] at stopped
      cases stopped
  | signal _ => rfl
  | clone _ | drop _ | close _ | write _ _ | flush _ | proceed _ => exact stopped

/-- A terminal status that was noted stays so. -/
theorem Run.isTerminal (run : Run s events t) (stopped : s.i.status.isTerminal = true) :
    t.i.status.isTerminal = true := by
  induction run with
  | nil => exact stopped
  | snoc _ step ih => exact step.isTerminal ih

/-- Dropping an instance's own handles leaves the driver alone with the write end. -/
theorem Sound.releasePipes_exclusive (sound : Sound w d events s) {i : Instance} {world : World}
    (input : i.input = s.i.input) (sinks : world.sinks = s.world.sinks)
    (exclusive : world.Exclusive w d pipe) : (i.releasePipes world).Exclusive w d pipe := by
  have dropped : (match i.input with
      | .owned pipe => world.dropSink pipe
      | _ => world).Exclusive w d pipe := by
    rw [input]
    cases sound.lending with
    | owned _ _ owned _ =>
      rw [owned]
      exact exclusive.dropSink (sound.feeds.of_sinks sinks)
    | lent _ _ lent =>
      rw [lent]
      exact exclusive
    | released _ gone =>
      rw [gone]
      exact exclusive
  unfold Instance.releasePipes
  dsimp only
  split
  · exact dropped.dropSource _
  · exact dropped

theorem Step.exclusive {event : Event} (step : Step s event t) (sound : Sound w d events s)
    (exclusive : s.world.Exclusive w d pipe) : t.world.Exclusive w d pipe := by
  cases step with
  | ask =>
    rcases sound.inputPipe_cases with ⟨_, _, _, _, answer⟩ | ⟨_, _, _, answer⟩ | ⟨_, answer⟩
    · rw [answer]
      exact exclusive
    · rw [answer]
      exact exclusive.holdSink
    · rw [answer]
      exact exclusive
  | clone holds =>
    obtain rfl := sound.held _ holds
    exact exclusive.holdSink
  | drop holds =>
    obtain rfl := sound.held _ holds
    exact exclusive.dropSink sound.feeds
  | close holds =>
    obtain rfl := sound.held _ holds
    exact exclusive.closeSink sound.feeds
  | write holds written =>
    obtain rfl := sound.held _ holds
    exact exclusive.write sound.feeds written
  | flush holds =>
    obtain rfl := sound.held _ holds
    exact exclusive.flush sound.feeds
  | poll =>
    have waited {world : World} (sinks : world.sinks = s.world.sinks)
        (sources : world.sources = s.world.sources)
        (host : world.host = (s.world.host.tryWait s.i.process).2) :
        world.Exclusive w d pipe :=
      exclusive.of_streams sinks sources fun _ sole => host ▸ sole.tryWait _
    rcases poll_cases s.i s.world with ⟨host, reaped, asked, same⟩ | ⟨status, _, noted⟩
    · rw [same]
      rcases asked with rfl | rfl
      · exact exclusive
      · exact waited rfl rfl rfl
    · rw [noted]
      exact sound.releasePipes_exclusive rfl rfl (waited rfl rfl rfl)
  | signal _ =>
    refine sound.releasePipes_exclusive rfl rfl (exclusive.of_streams rfl rfl ?_)
    exact fun _ sole => sole.send s.i.process Signal.kill
  | proceed proceeds =>
    obtain ⟨host, later, rfl⟩ := proceeds
    exact exclusive.of_streams rfl rfl fun _ sole => sole.proceeds later

theorem Run.exclusive (run : Run s events t) (sound : Sound w d [] s)
    (exclusive : s.world.Exclusive w d pipe) : t.world.Exclusive w d pipe := by
  induction run with
  | nil => exact exclusive
  | snoc run step ih => exact step.exclusive (run.sound sound) ih

end Custody

/-! ## New instances -/

/-- Nothing refers to a description that is yet to be made. -/
structure World.Tidy (world : World) : Prop where
  host : world.host.Tidy
  errors : world.errors < world.host.descriptions.length
  sources : ∀ shared ∈ world.sources, ∀ source, shared.stream = some source →
    source.description < world.host.descriptions.length

theorem World.Tidy.of_unused {world : World} {d : Description} {node : Nat}
    (processes : world.host.processes = []) (sources : world.sources = [])
    (descriptions : world.host.descriptions = [d]) (isNode : d.object = .node node)
    (errors : world.errors = 0) : world.Tidy where
  host := by
    refine ⟨?_, ?_⟩
    · intro p mem
      rw [processes] at mem
      cases mem
    · intro e mem pipe writes
      rw [descriptions] at mem
      obtain rfl := List.mem_singleton.1 mem
      rw [isNode] at writes
      cases writes
  errors := by
    rw [errors, descriptions]
    exact Nat.one_pos
  sources shared mem := by
    rw [sources] at mem
    cases mem

/-- A fresh machine is tidy. -/
theorem Installation.session_tidy (fixtures : List Fixture) (searchPath : String) (config : Config)
    (drivers : Nat) : (session fixtures searchPath config drivers).world.Tidy :=
  .of_unused rfl rfl rfl rfl rfl

/-- The standard input of a process is the read end of the pipe. -/
def Host.ReadsFrom (host : Host) (process pipe : Nat) : Prop :=
  ∃ p n d, host.process? process = some p ∧ Host.denoted p 0 = some n ∧
    host.descriptions[n]? = some d ∧ d.object = .readEnd pipe

namespace Instance

variable {name : String} {command : Command} {policy : ErrorPolicy} {before after : World}
  {i : Instance}

theorem openErrors_tidy {errors : Nat} {host : Host} (tidy : before.Tidy)
    (opened : openErrors policy before = .ok (errors, host)) :
    host.Tidy ∧ errors < host.descriptions.length ∧
      before.host.descriptions.length ≤ host.descriptions.length := by
  cases policy with
  | inherit =>
    cases opened
    have same : (before.host.hold before.errors).descriptions.length =
        before.host.descriptions.length := by
      unfold Host.hold
      split
      · exact List.length_set
      · rfl
    refine ⟨tidy.host.hold _, ?_, Nat.le_of_eq same.symm⟩
    rw [same]
    exact tidy.errors
  | discard =>
    obtain ⟨kept, new, length⟩ := tidy.host.addsNode (Host.openWrite_adds opened)
    refine ⟨kept, ?_, ?_⟩
    · rw [new, length]
      exact Nat.lt_succ_self _
    · rw [length]
      exact Nat.le_succ _

/-- The process that is started does not get the write end of its own input. -/
theorem pipedHost_soleWriter {host : Host} (tidy : host.Tidy) (program : Program Nat) {errors : Nat}
    (old : errors < host.descriptions.length) :
    (pipedHost host program errors).SoleWriter host.makePipe.2.1 host.pipes.length 1 ∧
      host.makePipe.2.2.makePipe.1 ≠ host.makePipe.2.1 := by
  have input := tidy.soleWriter_makePipe
  obtain ⟨output, readable, writable⟩ := input.makePipe
  have last : host.makePipe.2.1 = host.descriptions.length + 1 := List.length_append
  have first : host.makePipe.1 ≠ host.makePipe.2.1 := by
    rw [last]
    exact Nat.ne_of_lt (Nat.lt_succ_self _)
  have errors : errors ≠ host.makePipe.2.1 := by
    rw [last]
    exact Nat.ne_of_lt (Nat.lt_succ_of_lt old)
  refine ⟨output.appendProcess ?_, readable⟩
  intro entry mem
  simp only [List.mem_cons, List.not_mem_nil, or_false] at mem
  rcases mem with rfl | rfl | rfl
  · exact first
  · exact writable
  · exact errors

theorem pipedHost_readsFrom (host : Host) (program : Program Nat) (errors : Nat) :
    (pipedHost host program errors).ReadsFrom host.processes.length host.pipes.length := by
  refine ⟨_, host.makePipe.1, { object := .readEnd host.pipes.length }, List.getElem?_concat_length,
    rfl, ?_, rfl⟩
  show ((((host.descriptions ++ [_]) ++ [_]) ++ [_]) ++ [_])[host.descriptions.length]? = _
  simp only [List.append_assoc]
  rw [List.getElem?_append_right (Nat.le_refl _), Nat.sub_self]
  rfl

/-- An instance that was just started owns the stream of its input. -/
theorem start_feeds (started : start name command policy before = .ok (i, after)) :
    ∃ w d pipe, i.status = .running ∧ i.input = .owned w ∧ after.Feeds w d True 1 ∧
      after.host.ReadsFrom i.process pipe ∧ (before.Tidy → after.Exclusive w d pipe) := by
  obtain ⟨-, errors, host, program, opened, -, rfl, rfl⟩ := start_eq_ok_iff.1 started
  have feeds : World.Feeds
      { before with
        host := pipedHost host program errors
        sinks := before.sinks ++
          [{ stream := some { description := host.makePipe.2.1, capacity := 0 } }]
        sources := before.sources ++
          [{ stream := some { description := host.makePipe.2.2.makePipe.1, capacity := 0 } }] }
      ⟨before.sinks.length⟩ host.makePipe.2.1 True 1 :=
    .flowing trivial List.getElem?_concat_length
  refine ⟨⟨before.sinks.length⟩, host.makePipe.2.1, host.pipes.length, rfl, rfl, feeds,
    pipedHost_readsFrom host program errors, fun tidy => ?_⟩
  obtain ⟨kept, old, grown⟩ := openErrors_tidy tidy opened
  obtain ⟨sole, apart⟩ := pipedHost_soleWriter kept program old
  refine ⟨?_, ?_⟩
  · rw [feeds.isWritable_iff.2 trivial]
    exact sole
  · intro shared mem source flows
    rcases List.mem_append.1 mem with known | new
    · have bound := tidy.sources shared known source flows
      rw [show host.makePipe.2.1 = host.descriptions.length + 1 from List.length_append]
      omega
    · obtain rfl := List.mem_singleton.1 new
      obtain rfl := Option.some.inj flows
      exact apart

end Instance

namespace Custody

/-! ## The result -/

variable {w : WriteHandle} {d pipe : Nat} {events : List Event} {s : Custody}

/-- A started instance owns its input, and nobody has asked for it. -/
theorem sound_of_feeds {i : Instance} {world : World} (running : i.status = .running)
    (input : i.input = .owned w) (feeds : world.Feeds w d True 1) :
    Sound w d [] { i, world } where
  lending := .owned running (fun h => nomatch h) input rfl
  held _ mem := nomatch mem
  answers _ mem := nomatch mem
  refused mem := nomatch mem
  feeds := by
    have one : ({ i, world } : Custody).keepers = 1 := keepers_of_owned input
    rw [one]
    exact feeds.of_iff (iff_of_true trivial ⟨List.not_mem_nil, Nat.one_pos⟩)

theorem Lending.isTerminal_iff (lending : Lending w events s) :
    s.i.status.isTerminal = false ↔ s.i.status = .running := by
  cases lending with
  | owned running _ _ _ => simp [running, Status.isTerminal]
  | lent running _ _ => simp [running, Status.isTerminal]
  | released stopped _ =>
    rw [stopped]
    refine iff_of_false (fun h => nomatch h) ?_
    intro running
    rw [running] at stopped
    cases stopped

/-- A handle is given out while no terminal status was noted, the first time or as long as some
caller has one. -/
theorem Sound.inputPipe_isSome_iff (sound : Sound w d events s) :
    (s.i.inputPipe s.world).1.isSome = true ↔
      s.i.status.isTerminal = false ∧ (¬ Asked events ∨ s.held ≠ []) := by
  rw [sound.lending.isTerminal_iff]
  rcases sound.inputPipe_cases with ⟨_, _, running, never, answer⟩ | ⟨_, some, running, answer⟩ |
    ⟨refused, answer⟩
  · rw [answer]
    exact iff_of_true rfl ⟨running, .inl never⟩
  · rw [answer]
    exact iff_of_true rfl ⟨running, .inr some⟩
  · rw [answer]
    refine iff_of_false Bool.false_ne_true ?_
    rintro ⟨running, given⟩
    rcases refused with stopped | ⟨once, none⟩
    · rw [running] at stopped
      cases stopped
    · exact given.elim (fun never => never once) fun some => some none

theorem Sound.inputPipe_eq_some (sound : Sound w d events s) {h : WriteHandle}
    (answer : (s.i.inputPipe s.world).1 = some h) : h = w := by
  rcases sound.inputPipe_cases with ⟨_, _, _, _, same⟩ | ⟨_, _, _, same⟩ | ⟨_, same⟩
  · rw [same] at answer
    exact (Option.some.inj answer).symm
  · rw [same] at answer
    exact (Option.some.inj answer).symm
  · rw [same] at answer
    cases answer

/-- What happens on the host does not matter for the answer. -/
theorem inputPipe_host (i : Instance) (world : World) (host : Host) :
    (i.inputPipe { world with host }).1 = (i.inputPipe world).1 := by
  cases input : i.input with
  | owned pipe => rw [inputPipe_of_owned input, inputPipe_of_owned input]
  | lent pipe =>
    have same : ({ world with host } : World).isAlive pipe = world.isAlive pipe := rfl
    rw [inputPipe_of_lent input, inputPipe_of_lent input, same]
    split <;> rfl
  | released => rw [inputPipe_of_released input, inputPipe_of_released input]

/-- Who was refused once is refused for ever. -/
theorem Sound.inputPipe_of_refused (sound : Sound w d events s)
    (refused : .asked none ∈ events) : (s.i.inputPipe s.world).1 = none := by
  rw [← Option.not_isSome_iff_eq_none, sound.inputPipe_isSome_iff]
  rintro ⟨running, given⟩
  rcases sound.refused refused with stopped | ⟨once, none⟩
  · rw [running] at stopped
    cases stopped
  · exact given.elim (fun never => never once) fun some => some none

theorem Sound.isWritable_iff (sound : Sound w d events s) :
    s.world.isWritable w = true ↔ .closed ∉ events ∧
      ((¬ Asked events ∧ s.i.status.isTerminal = false) ∨ s.held ≠ []) := by
  rw [sound.feeds.isWritable_iff, sound.lending.isTerminal_iff]
  refine and_congr_right fun _ => ?_
  cases sound.lending with
  | owned running never input _ =>
    rw [keepers_of_owned input]
    exact iff_of_true (by omega) (.inl ⟨never, running⟩)
  | lent _ once input =>
    rw [keepers_of_lent input, List.length_pos_iff]
    exact (or_iff_right fun h => h.1 once).symm
  | released stopped input =>
    rw [keepers_of_released input, List.length_pos_iff]
    refine (or_iff_right ?_).symm
    rintro ⟨_, running⟩
    rw [running] at stopped
    cases stopped

/-- While a caller has a handle, only closing one closes the stream. -/
theorem Sound.isWritable_of_held (sound : Sound w d events s) (some : s.held ≠ []) :
    s.world.isWritable w = true ↔ .closed ∉ events := by
  rw [sound.isWritable_iff]
  exact and_iff_left (.inr some)

/-- **Who owns the input of an instance.**  However an instance that was started is asked for its
input, looked at and killed, whatever callers do with the handles they get, and whenever its process
ends:

* a handle is given out exactly if no terminal status was noted so far, and the input was never
  asked for or some caller still has a handle of it;
* all handles are of one and the same stream;
* once the instance refuses, it refuses for ever;
* the stream is open exactly if nobody closed it, and the instance has not lent it nor noted a
  terminal status, or some caller has a handle of it; and so is, on a tidy machine, the write end of
  the pipe from which the process reads;
* the end of the process by itself does not matter for the answer;
* neither a look nor a kill closes a stream of which some caller has a handle. -/
theorem ownership {name : String} {command : Command} {policy : ErrorPolicy}
    {before world : World} {i : Instance}
    (started : Instance.start name command policy before = .ok (i, world))
    (run : Run { i, world } events s) :
    ∃ w pipe, i.input = .owned w ∧ world.host.ReadsFrom i.process pipe ∧
      ((s.i.inputPipe s.world).1.isSome = true ↔
        s.i.status.isTerminal = false ∧ (¬ Asked events ∨ s.held ≠ [])) ∧
      (∀ past future between, Run { i, world } past between → Run between future s →
        between.i.status.isTerminal = true → s.i.status.isTerminal = true) ∧
      (∀ h, .asked (some h) ∈ events ∨ h ∈ s.held ∨ (s.i.inputPipe s.world).1 = some h → h = w) ∧
      (.asked none ∈ events → (s.i.inputPipe s.world).1 = none) ∧
      (s.world.isWritable w = true ↔ .closed ∉ events ∧
        ((¬ Asked events ∧ s.i.status.isTerminal = false) ∨ s.held ≠ [])) ∧
      (before.Tidy → (s.world.host.hasWriter pipe = true ↔ s.world.isWritable w = true)) ∧
      (∀ after, s.world.Proceeds after →
        (s.i.inputPipe after).1 = (s.i.inputPipe s.world).1) ∧
      (s.held ≠ [] → (s.i.poll s.world).2.isWritable w = s.world.isWritable w ∧
        ∀ id meanwhile, (∀ world : World, world.Proceeds (meanwhile world)) →
          (s.i.kill id s.world meanwhile).2.2.isWritable w = s.world.isWritable w) := by
  obtain ⟨w, d, pipe, running, input, feeds, reads, exclusive⟩ := Instance.start_feeds started
  have first := sound_of_feeds running input feeds
  have sound := run.sound first
  rw [List.nil_append] at sound
  refine ⟨w, pipe, input, reads, sound.inputPipe_isSome_iff,
    fun _ _ _ _ later stopped => later.isTerminal stopped, ?_, sound.inputPipe_of_refused,
    sound.isWritable_iff, fun tidy => (run.exclusive first (exclusive tidy)).hasWriter_iff, ?_,
    fun some => ⟨?_, ?_⟩⟩
  · rintro h (given | holds | answer)
    · exact sound.answers h given
    · exact sound.held h holds
    · exact sound.inputPipe_eq_some answer
  · rintro after ⟨host, _, rfl⟩
    exact inputPipe_host s.i s.world host
  · rw [Bool.eq_iff_iff, sound.poll.isWritable_of_held some, sound.isWritable_of_held some]
  · intro id meanwhile proceeds
    obtain ⟨n, killed⟩ := Run.kill s id proceeds
    have later := (killed.sound sound).isWritable_of_held some
    rw [Bool.eq_iff_iff, later, sound.isWritable_of_held some]
    simp

/-- A tidy machine whose only program exits with code 3. -/
def sampleWorld : World :=
  { Scene.sample.world with
    host := { Scene.sample.world.host with descriptions := [{ object := .node 0 }] } }

theorem sampleWorld_tidy : sampleWorld.Tidy := .of_unused rfl rfl rfl rfl rfl

/-- The machine after the program was started. -/
def sampleStarted : World :=
  let host := sampleWorld.host.hold 0
  { sampleWorld with
    host := Instance.pipedHost host (.result 3) 0
    sinks := [{ stream := some { description := host.makePipe.2.1, capacity := 0 } }]
    sources := [{ stream := some { description := host.makePipe.2.2.makePipe.1, capacity := 0 } }] }

theorem sample_started :
    Instance.start "three" { program := "/three" } .inherit sampleWorld =
      .ok (.sample, sampleStarted) := by
  let host := sampleWorld.host.hold sampleWorld.errors
  have loaded : host.loadCommand host.directory host.searchPath "/three"
      (Instance.given { program := "/three" } sampleWorld.host) = .ok (.result 3) :=
    Host.loadCommand_of_program (by decide) Scene.sample_find rfl (by decide +kernel) host.searchPath
  exact Instance.start_eq_ok_iff.2 ⟨rfl, _, host, _, rfl, loaded, rfl, rfl⟩

/-- A handle is given out, copied, and both are dropped: the process sees the end of its input, and
no other handle is given out. -/
theorem ownership_sample : sampleWorld.Tidy ∧ ∃ s pipe,
    Instance.start "three" { program := "/three" } .inherit sampleWorld =
      .ok (.sample, sampleStarted) ∧
    Run { i := .sample, world := sampleStarted }
      [.asked (some ⟨0⟩), .cloned, .dropped, .dropped, .asked none] s ∧
    sampleStarted.host.ReadsFrom 0 pipe ∧
    (s.i.inputPipe s.world).1 = none ∧ s.world.host.hasWriter pipe = false := by
  have asked := (@Run.nil { i := .sample, world := sampleStarted }).snoc .ask
  have copied := asked.snoc (.clone (h := ⟨0⟩) List.mem_cons_self)
  have dropped := (copied.snoc (.drop (h := ⟨0⟩) List.mem_cons_self)).snoc
    (.drop (h := ⟨0⟩) List.mem_cons_self)
  have shown : Run { i := .sample, world := sampleStarted }
      [.asked (some ⟨0⟩), .cloned, .dropped, .dropped, .asked none] _ :=
    dropped.snoc .ask
  obtain ⟨w, pipe, _, reads, _, _, _, refused, isOpen, writer, _, _⟩ :=
    ownership sample_started shown
  refine ⟨sampleWorld_tidy, _, pipe, sample_started, shown, reads, refused (by decide), ?_⟩
  rw [Bool.eq_false_iff, ne_eq, writer sampleWorld_tidy, isOpen]
  rintro ⟨_, ⟨never, _⟩ | held⟩
  · exact never ⟨_, List.mem_cons_self⟩
  · exact held rfl

end Custody

end AlgorithmDriver

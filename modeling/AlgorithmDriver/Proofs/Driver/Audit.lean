import AlgorithmDriver.Proofs.Driver.Effects
import AlgorithmDriver.Proofs.Driver.TearDown

/-!
# The log as an audit of resources

From what the log says of an instance or a channel one can read what became of it, at every moment
of a run and completely once everything was closed.

* After its start, there are exactly the lines about an instance that go with its fate (`Fate`), and
  likewise for a channel after it was opened (`ChannelFate`).  This is kept by each call
  (`InstanceAccount.step`, `ChannelAccount.step`), hence by a run (`Ledger.instance`,
  `Ledger.channel`).
* A line that carries an id is about the resource with that id (`Ledger.names`), so that such lines
  can be counted in the log itself (`countP_entries`).
* The channels that are listed as open are those that were opened and not closed according to the
  log (`Ledger.readFiles`, `Ledger.writeFiles`).
-/

namespace AlgorithmDriver

namespace LogEntry

/-- What an entry names by its id. -/
def subject? : LogEntry → Option Subject
  | started _ id => some (.algorithm id)
  | killed id => some (.algorithm id)
  | killingLeftover id _ => some (.algorithm id)
  | cannotKill id _ => some (.algorithm id)
  | inputNotConsumed id _ => some (.algorithm id)
  | opened _ channel => some (.channel channel)
  | closed channel _ => some (.channel channel)
  | closingLeftover channel _ => some (.channel channel)
  | cannotFlush id _ => some (.channel (.write id))
  | exited .. => none
  | signalled _ => none

/-- Whether an entry tells that an algorithm has ended, or was ended. -/
def ends : LogEntry → Bool
  | exited .. => true
  | signalled _ => true
  | _ => false

/-- Whether an entry tells that a channel was closed. -/
def closes (channel : ChannelId) : LogEntry → Bool
  | closed other _ => other = channel
  | closingLeftover other _ => other = channel
  | _ => false

end LogEntry

namespace Audit

/-! ## Fates -/

/-- What became of an instance. -/
inductive Fate where
  | running
  | exited (code : Nat)
  /-- Killed on request. -/
  | killed
  /-- Found running when everything was closed, and killed then. -/
  | leftOver
  /-- Found running when everything was closed, but it exited before it could be killed. -/
  | escaped (code : Nat)
  deriving DecidableEq

/-- What is put on record of an instance after its start. -/
def Fate.lines (id : AlgorithmId) (name : String) : Fate → List LogEntry
  | running => []
  | exited code => [.exited name code]
  | killed => [.signalled name, .killed id]
  | leftOver => [.killingLeftover id name, .signalled name]
  | escaped code =>
    [.killingLeftover id name, .exited name code, .cannotKill id (.alreadyExited id)]

/-- How an instance stands in the table, unless it was taken out. -/
inductive Fate.Shows (name : String) : Fate → Option Standing → Prop
  | running : Shows name .running (some ⟨name, .running⟩)
  | exited (code : Nat) : Shows name (.exited code) (some ⟨name, .exited code⟩)
  | killed : Shows name .killed (some ⟨name, .killed⟩)
  | takenOut {fate : Fate} (ended : fate ≠ .running) : Shows name fate none

/-- What became of a channel. -/
inductive ChannelFate where
  | isOpen
  | closed
  /-- Closed, although what was pending could not be flushed. -/
  | unflushed
  /-- Found open when everything was closed. -/
  | leftOver (flushed : Except StreamError Unit)

/-- What is put on record of a channel after it was opened. -/
def ChannelFate.lines (channel : ChannelId) (path : String) : ChannelFate → List LogEntry
  | isOpen => []
  | closed => [.closed channel path]
  | unflushed => []
  | leftOver flushed => .closingLeftover channel path :: flaw channel flushed

/-- The path of a channel, while it is in its table. -/
def ChannelFate.path? (path : String) : ChannelFate → Option String
  | isOpen => some path
  | _ => none

/-- How many lines tell that the channel was closed. -/
def ChannelFate.closings : ChannelFate → Nat
  | isOpen => 0
  | closed => 1
  | unflushed => 0
  | leftOver _ => 1

/-! ## Accounts -/

/-- The lines about an instance, and how it stands. -/
inductive InstanceAccount (successes : List Success) (id : AlgorithmId) :
    List LogEntry → Option Standing → Prop
  | unstarted (unstarted : ∀ name, .started name id ∉ successes)
      (unkilled : .killed id ∉ successes) : InstanceAccount successes id [] none
  | started {name : String} {fate : Fate} {standing? : Option Standing}
      (started : ∀ name', .started name' id ∈ successes ↔ name' = name)
      (killed : fate = .killed ↔ .killed id ∈ successes) (shows : fate.Shows name standing?) :
      InstanceAccount successes id (.started name id :: fate.lines id name) standing?

/-- The lines about a channel, and its path while it is open. -/
inductive ChannelAccount (successes : List Success) (losses : List ChannelId)
    (channel : ChannelId) : List LogEntry → Option String → Prop
  | unopened (unopened : ∀ path, .opened path channel ∉ successes)
      (unclosed : .closed channel ∉ successes) (unlost : channel ∉ losses) :
      ChannelAccount successes losses channel [] none
  | opened {path : String} {fate : ChannelFate} {path? : Option String}
      (opened : ∀ path', .opened path' channel ∈ successes ↔ path' = path)
      (closed : fate = .closed ↔ .closed channel ∈ successes)
      (unflushed : fate = .unflushed ↔ channel ∈ losses) (shows : path? = fate.path? path) :
      ChannelAccount successes losses channel (.opened path channel :: fate.lines channel path)
        path?

section Accounts

variable {successes : List Success} {losses : List ChannelId} {gain : Option Success}
  {loss : Option ChannelId} {id : AlgorithmId} {channel : ChannelId} {lines more : List LogEntry}

theorem mem_gained {α : Type} {items : List α} {item : α} {gain : Option α} :
    item ∈ items ++ gain.toList ↔ item ∈ items ∨ gain = some item := by
  rw [List.mem_append, Option.mem_toList]

/-- Nothing new is known of an instance. -/
theorem InstanceAccount.carry {standing? : Option Standing}
    (account : InstanceAccount successes id lines standing?)
    (unstarted : ∀ name, gain ≠ some (.started name id)) (unkilled : gain ≠ some (.killed id)) :
    InstanceAccount (successes ++ gain.toList) id lines standing? := by
  have starts (name : String) :
      .started name id ∈ successes ++ gain.toList ↔ .started name id ∈ successes := by
    rw [mem_gained, or_iff_left (unstarted name)]
  have kills : .killed id ∈ successes ++ gain.toList ↔ .killed id ∈ successes := by
    rw [mem_gained, or_iff_left unkilled]
  cases account with
  | unstarted unstarted unkilled =>
    exact .unstarted (fun name => unstarted name ∘ (starts name).1) (unkilled ∘ kills.1)
  | started started killed shows =>
    exact .started (fun name => (starts name).trans (started name)) (killed.trans kills.symm) shows

/-- The fate of a running instance is settled. -/
theorem InstanceAccount.settle {name : String} {after : Option Standing}
    (account : InstanceAccount successes id lines (some ⟨name, .running⟩)) (fate : Fate)
    (unstarted : ∀ name', gain ≠ some (.started name' id))
    (killed : fate = .killed ↔ gain = some (.killed id)) (stands : fate.Shows name after) :
    InstanceAccount (successes ++ gain.toList) id (lines ++ fate.lines id name) after := by
  cases account with
  | started started unkilled shows =>
    cases shows
    refine @InstanceAccount.started _ id name fate _ (fun name' => ?_) ?_ stands
    · rw [mem_gained, or_iff_left (unstarted name')]
      exact started name'
    · rw [mem_gained, or_iff_right fun mem => nomatch unkilled.2 mem]
      exact killed

/-- What is reported on an instance fits what was known of it. -/
theorem InstanceAccount.step {before after : Option Standing}
    (account : InstanceAccount successes id lines before)
    (move : InstanceMove gain id before more after)
    (fresh : ∀ name, gain = some (.started name id) → ∀ name', .started name' id ∉ successes) :
    InstanceAccount (successes ++ gain.toList) id (lines ++ more) after := by
  cases move with
  | missing unstarted unkilled =>
    rw [List.append_nil]
    exact account.carry unstarted unkilled
  | looks looks unstarted unkilled =>
    cases looks with
    | same =>
      rw [List.append_nil]
      exact account.carry unstarted unkilled
    | exited name code =>
      exact account.settle (.exited code) unstarted ⟨nofun, fun h => absurd h unkilled⟩
        (.exited code)
  | started name gains =>
    cases account with
    | started started =>
      -- Its id was not issued before.
      exact absurd ((started _).2 rfl) (fresh name gains _)
    | unstarted unstarted unkilled =>
      show InstanceAccount _ id (.started name id :: Fate.running.lines id name) _
      refine .started (fun name' => ?_) ⟨nofun, fun mem => ?_⟩ .running
      · rw [mem_gained, or_iff_right (unstarted name'), gains]
        simp [eq_comm]
      · rcases mem_gained.1 mem with old | new
        · exact absurd old unkilled
        · cases gains.symm.trans new
  | killed name gains =>
    have other (name' : String) : gain ≠ some (.started name' id) := by
      rw [gains]
      nofun
    exact account.settle .killed other ⟨fun _ => gains, fun _ => rfl⟩ .killed
  | dismissed dismissed unstarted unkilled =>
    cases dismissed with
    | ended stopped =>
      rw [List.append_nil]
      cases account.carry unstarted unkilled with
      | started started killed shows =>
        refine .started started killed (.takenOut ?_)
        rintro rfl
        cases shows
        exact stopped rfl
    | exited name code =>
      exact account.settle (.exited code) unstarted ⟨nofun, fun h => absurd h unkilled⟩
        (.takenOut nofun)
    | killed name =>
      exact account.settle .leftOver unstarted ⟨nofun, fun h => absurd h unkilled⟩
        (.takenOut nofun)
    | escaped name code =>
      exact account.settle (.escaped code) unstarted ⟨nofun, fun h => absurd h unkilled⟩
        (.takenOut nofun)

/-- Nothing new is known of a channel. -/
theorem ChannelAccount.carry {path? : Option String}
    (account : ChannelAccount successes losses channel lines path?)
    (untouched : Untouched gain loss channel) :
    ChannelAccount (successes ++ gain.toList) (losses ++ loss.toList) channel lines path? := by
  have opens (path : String) :
      .opened path channel ∈ successes ++ gain.toList ↔ .opened path channel ∈ successes := by
    rw [mem_gained, or_iff_left (untouched.unopened path)]
  have closes : .closed channel ∈ successes ++ gain.toList ↔ .closed channel ∈ successes := by
    rw [mem_gained, or_iff_left untouched.unclosed]
  have loses : channel ∈ losses ++ loss.toList ↔ channel ∈ losses := by
    rw [mem_gained, or_iff_left untouched.unlost]
  cases account with
  | unopened unopened unclosed unlost =>
    exact .unopened (fun path => unopened path ∘ (opens path).1) (unclosed ∘ closes.1)
      (unlost ∘ loses.1)
  | opened opened closed unflushed shows =>
    exact .opened (fun path => (opens path).trans (opened path)) (closed.trans closes.symm)
      (unflushed.trans loses.symm) shows

/-- The fate of an open channel is settled. -/
theorem ChannelAccount.settle {path : String}
    (account : ChannelAccount successes losses channel lines (some path)) (fate : ChannelFate)
    (gone : fate.path? path = none) (unopened : ∀ path', gain ≠ some (.opened path' channel))
    (closed : fate = .closed ↔ gain = some (.closed channel))
    (unflushed : fate = .unflushed ↔ loss = some channel) :
    ChannelAccount (successes ++ gain.toList) (losses ++ loss.toList) channel
      (lines ++ fate.lines channel path) none := by
  cases account with
  | @opened path' old _ opened unclosed unlost shows =>
    obtain ⟨rfl, rfl⟩ : old = .isOpen ∧ path' = path := by
      cases old <;> cases shows
      exact ⟨rfl, rfl⟩
    refine @ChannelAccount.opened _ _ channel path' fate _ (fun name => ?_) ?_ ?_ gone.symm
    · rw [mem_gained, or_iff_left (unopened name)]
      exact opened name
    · rw [mem_gained, or_iff_right fun mem => nomatch unclosed.2 mem]
      exact closed
    · rw [mem_gained, or_iff_right fun mem => nomatch unlost.2 mem]
      exact unflushed

/-- What is reported on a channel fits what was known of it. -/
theorem ChannelAccount.step {before after : Option String}
    (account : ChannelAccount successes losses channel lines before)
    (move : ChannelMove gain loss channel before more after)
    (fresh : ∀ path, gain = some (.opened path channel) →
      ∀ path', .opened path' channel ∉ successes) :
    ChannelAccount (successes ++ gain.toList) (losses ++ loss.toList) channel (lines ++ more)
      after := by
  cases move with
  | stays _ untouched =>
    rw [List.append_nil]
    exact account.carry untouched
  | opened path gains unlost =>
    cases account with
    | opened opened => exact absurd ((opened _).2 rfl) (fresh path gains _)
    | unopened unopened unclosed notLost =>
      refine @ChannelAccount.opened _ _ channel path .isOpen _ (fun path' => ?_)
        ⟨nofun, fun mem => ?_⟩ ⟨nofun, fun mem => ?_⟩ rfl
      · rw [mem_gained, or_iff_right (unopened path'), gains]
        simp [eq_comm]
      · rcases mem_gained.1 mem with old | new
        · exact absurd old unclosed
        · cases gains.symm.trans new
      · rcases mem_gained.1 mem with old | new
        · exact absurd old notLost
        · cases unlost.symm.trans new
  | closed path gains unlost =>
    have other (path' : String) : gain ≠ some (.opened path' channel) := by
      rw [gains]
      nofun
    exact account.settle .closed rfl other ⟨fun _ => gains, fun _ => rfl⟩
      ⟨nofun, fun lost => nomatch unlost.symm.trans lost⟩
  | unflushed path gains lost =>
    have other (path' : String) : gain ≠ some (.opened path' channel) := by
      rw [gains]
      nofun
    exact account.settle .unflushed rfl other ⟨nofun, fun new => nomatch gains.symm.trans new⟩
      ⟨fun _ => lost, fun _ => rfl⟩
  | leftOver path flushed untouched =>
    exact account.settle (.leftOver flushed) rfl untouched.unopened
      ⟨nofun, fun closed => absurd closed untouched.unclosed⟩
      ⟨nofun, fun lost => absurd lost untouched.unlost⟩

end Accounts

/-! ## Runs -/

/-- A run, with what was reported of each call. -/
inductive Ledger (start : State) : List Call → List Report → State → Prop
  | nil : Ledger start [] [] start
  | snoc {calls : List Call} {told more : List Report} {s t : State} {call : Call}
      (ledger : Ledger start calls told s) (step : Step s call t) (effect : Effect s call more t) :
      Ledger start (calls ++ [call]) (told ++ more) t

/-- A driver that was just created. -/
structure State.New (s : State) : Prop where
  algorithms : s.driver.algorithms = .empty
  readFiles : s.driver.readFiles = .empty
  writeFiles : s.driver.writeFiles = .empty

/-- What the calls have achieved. -/
def successes (calls : List Call) : List Success := calls.filterMap Call.success?

/-- The channels that were closed although they could not be flushed. -/
def losses (calls : List Call) : List ChannelId := calls.filterMap Call.unflushed?

section Runs

variable {start s t : State} {calls : List Call} {told : List Report} {call : Call}

theorem successes_concat (calls : List Call) (call : Call) :
    successes (calls ++ [call]) = successes calls ++ call.success?.toList := by
  unfold successes
  rw [List.filterMap_append]
  cases h : call.success? <;> simp [h]

theorem losses_concat (calls : List Call) (call : Call) :
    losses (calls ++ [call]) = losses calls ++ call.unflushed?.toList := by
  unfold losses
  rw [List.filterMap_append]
  cases h : call.unflushed? <;> simp [h]

theorem State.New.keeps (new : start.New) : Keeps [] start where
  algorithms := new.algorithms ▸ .empty
  readFiles := new.readFiles ▸ .empty
  writeFiles := new.writeFiles ▸ .empty

theorem Ledger.keeps (ledger : Ledger start calls told s) (new : start.New) :
    Keeps (successes calls) s := by
  induction ledger with
  | nil => exact new.keeps
  | snoc _ _ effect ih =>
    rw [successes_concat]
    exact effect.keeps ih

theorem Run.ledger (run : Run start calls s) (new : start.New) :
    ∃ told, Ledger start calls told s := by
  induction run with
  | nil => exact ⟨[], .nil⟩
  | snoc _ step ih =>
    obtain ⟨told, ledger⟩ := ih
    obtain ⟨more, effect⟩ := step.effect (ledger.keeps new)
    exact ⟨told ++ more, ledger.snoc step effect⟩

theorem Ledger.log (ledger : Ledger start calls told s) :
    s.world.log = start.world.log ++ entries told := by
  induction ledger with
  | nil => exact (List.append_nil _).symm
  | snoc _ _ effect ih => rw [effect.log, ih, entries_append, List.append_assoc]

/-- Every success is told of, in order, and nothing else is. -/
theorem Ledger.successes (ledger : Ledger start calls told s) :
    (entries told).filterMap LogEntry.success? = Audit.successes calls := by
  induction ledger with
  | nil => rfl
  | snoc _ _ effect ih =>
    rw [entries_append, List.filterMap_append, ih, effect.success, successes_concat]

/-- The id of an instance that is started was not issued before. -/
theorem Effect.fresh_instance {more : List Report} (effect : Effect s call more t)
    {successes : List Success} (keeps : Keeps successes s) {id : AlgorithmId} (name : String)
    (gains : call.success? = some (.started name id)) (name' : String) :
    .started name' id ∉ successes := by
  intro mem
  have issuing := effect.algorithms
  rw [gains] at issuing
  exact keeps.algorithms.not_mem issuing (List.mem_filterMap.2 ⟨_, mem, rfl⟩)

theorem Effect.fresh_channel {more : List Report} (effect : Effect s call more t)
    {successes : List Success} (keeps : Keeps successes s) {channel : ChannelId} (path : String)
    (gains : call.success? = some (.opened path channel)) (path' : String) :
    .opened path' channel ∉ successes := by
  intro mem
  cases channel with
  | read id =>
    have issuing := effect.readFiles
    rw [gains] at issuing
    exact keeps.readFiles.not_mem issuing (List.mem_filterMap.2 ⟨_, mem, rfl⟩)
  | write id =>
    have issuing := effect.writeFiles
    rw [gains] at issuing
    exact keeps.writeFiles.not_mem issuing (List.mem_filterMap.2 ⟨_, mem, rfl⟩)

theorem Ledger.instance (ledger : Ledger start calls told s) (new : start.New)
    (id : AlgorithmId) :
    InstanceAccount (Audit.successes calls) id (about told (.algorithm id)) (s.standing? id) := by
  induction ledger with
  | nil =>
    have missing : start.standing? id = none := by
      rw [State.standing?, new.algorithms]
      rfl
    rw [missing]
    exact .unstarted (fun _ => List.not_mem_nil) List.not_mem_nil
  | snoc ledger _ effect ih =>
    rw [successes_concat, about_append]
    exact ih.step (effect.instances id) (effect.fresh_instance (ledger.keeps new))

theorem Ledger.channel (ledger : Ledger start calls told s) (new : start.New)
    (channel : ChannelId) :
    ChannelAccount (Audit.successes calls) (losses calls) channel
      (about told (.channel channel)) (s.path? channel) := by
  induction ledger with
  | nil =>
    have missing : start.path? channel = none := by
      cases channel with
      | read id =>
        rw [State.path?, new.readFiles]
        rfl
      | write id =>
        rw [State.path?, new.writeFiles]
        rfl
    rw [missing]
    exact .unopened (fun _ => List.not_mem_nil) List.not_mem_nil List.not_mem_nil
  | snoc ledger _ effect ih =>
    rw [successes_concat, losses_concat, about_append]
    exact ih.step (effect.channels channel) (effect.fresh_channel (ledger.keeps new))

/-- When everything was closed, nothing is left. -/
theorem Ledger.emptied (ledger : Ledger start calls told s)
    (last : calls.getLast? = some .closeAll) :
    (∀ id, s.standing? id = none) ∧ ∀ channel, s.path? channel = none := by
  cases ledger with
  | nil => cases last
  | snoc _ step _ =>
    rw [List.getLast?_concat] at last
    cases last
    cases step with
    | closeAll closes =>
      refine ⟨fun id => ?_, fun channel => ?_⟩
      · rw [State.standing?, closes.driver]
        rfl
      · cases channel with
        | read id =>
          rw [State.path?, closes.driver]
          rfl
        | write id =>
          rw [State.path?, closes.driver]
          rfl

/-! ## What the log says -/

/-- Whatever some lines name is their subject. -/
def Names (subject : Subject) (lines : List LogEntry) : Prop :=
  ∀ line ∈ lines, ∀ named, line.subject? = some named → named = subject

theorem InstanceAccount.names {successes : List Success} {id : AlgorithmId}
    {lines : List LogEntry} {standing? : Option Standing}
    (account : InstanceAccount successes id lines standing?) : Names (.algorithm id) lines := by
  cases account with
  | unstarted => exact List.forall_mem_nil _
  | @started name fate =>
    cases fate <;> simp [Names, Fate.lines, LogEntry.subject?, eq_comm]

theorem ChannelAccount.names {successes : List Success} {losses : List ChannelId}
    {channel : ChannelId} {lines : List LogEntry} {path? : Option String}
    (account : ChannelAccount successes losses channel lines path?) :
    Names (.channel channel) lines := by
  cases account with
  | unopened => exact List.forall_mem_nil _
  | @opened path fate =>
    cases fate with
    | leftOver flushed =>
      cases channel with
      | read id => simp [Names, ChannelFate.lines, flaw, LogEntry.subject?, eq_comm]
      | write id =>
        cases flushed <;>
          simp [Names, ChannelFate.lines, flaw, Driver.flaw, LogEntry.subject?, eq_comm]
    | _ => simp [Names, ChannelFate.lines, LogEntry.subject?, eq_comm]

theorem mem_about {report : Report} {line : LogEntry} (mem : report ∈ told)
    (said : line ∈ report.lines) : line ∈ about told report.subject :=
  List.mem_flatMap.2 ⟨report, List.mem_filter.2 ⟨mem, decide_eq_true rfl⟩, said⟩

/-- A report names only what it is about. -/
theorem Ledger.names (ledger : Ledger start calls told s) (new : start.New) :
    ∀ report ∈ told, Names report.subject report.lines := by
  intro report mem line said
  have known := mem_about mem said
  cases subject : report.subject with
  | algorithm id =>
    rw [subject] at known
    exact (ledger.instance new id).names line known
  | channel channel =>
    rw [subject] at known
    exact (ledger.channel new channel).names line known

/-- Lines that name a subject are found in the reports on it. -/
theorem countP_entries {told : List Report}
    (names : ∀ report ∈ told, Names report.subject report.lines) {subject : Subject}
    {p : LogEntry → Bool} (only : ∀ line, p line = true → line.subject? = some subject) :
    (entries told).countP p = (about told subject).countP p := by
  induction told with
  | nil => rfl
  | cons report told ih =>
    have rest := ih fun other mem => names other (List.mem_cons_of_mem _ mem)
    show (report.lines ++ entries told).countP p = _
    rw [List.countP_append, rest]
    by_cases same : report.subject = subject
    · obtain ⟨_, lines⟩ := report
      obtain rfl := same
      rw [about_cons_self, List.countP_append]
    · -- A report on something else has no line that is counted.
      rw [about_cons_of_ne same, List.countP_eq_zero.2, Nat.zero_add]
      intro line said counted
      exact same (names report List.mem_cons_self line said _ (only line counted)).symm

theorem closes_subject? {channel : ChannelId} {line : LogEntry}
    (closes : line.closes channel = true) : line.subject? = some (.channel channel) := by
  cases line with
  | closed other _ => exact congrArg (some ∘ Subject.channel) (of_decide_eq_true closes)
  | closingLeftover other _ => exact congrArg (some ∘ Subject.channel) (of_decide_eq_true closes)
  | _ => cases closes

/-- What the log says of an instance that was started. -/
structure InstanceAudit (calls : List Call) (told : List Report) (s : State) (name : String)
    (id : AlgorithmId) (fate : Fate) : Prop where
  lines : about told (.algorithm id) = .started name id :: fate.lines id name
  shows : fate.Shows name (s.standing? id)
  killed : fate = .killed ↔ .kill id (.ok ()) ∈ calls
  /-- That the kill signal was sent is put on record if and only if it was killed on request, or as
  a leftover. -/
  signalled : .signalled name ∈ about told (.algorithm id) ↔
    .kill id (.ok ()) ∈ calls ∨ fate = .leftOver
  /-- In the end exactly one line tells how it ended. -/
  ended : calls.getLast? = some .closeAll → (about told (.algorithm id)).countP LogEntry.ends = 1

/-- What the log says of a channel that was opened. -/
structure ChannelAudit (calls : List Call) (told : List Report) (s : State) (path : String)
    (channel : ChannelId) (fate : ChannelFate) : Prop where
  lines : about told (.channel channel) = .opened path channel :: fate.lines channel path
  shows : s.path? channel = fate.path? path
  closed : fate = .closed ↔ .closed channel ∈ successes calls
  unflushed : fate = .unflushed ↔ channel ∈ losses calls
  /-- In the end exactly one line tells that it was closed, unless it could not be flushed. -/
  ended : calls.getLast? = some .closeAll →
    (entries told).countP (LogEntry.closes channel) = if channel ∈ losses calls then 0 else 1

/-- What the log says of a run. -/
structure Audited (start : State) (calls : List Call) (told : List Report) (s : State) : Prop where
  /-- What is reported of each call is what became of each resource by it. -/
  ledger : Ledger start calls told s
  log : s.world.log = start.world.log ++ entries told
  /-- Each start, opening, kill or closing that succeeds is told of once, in order, and nothing else
  is. -/
  successes : (entries told).filterMap LogEntry.success? = Audit.successes calls
  names : ∀ report ∈ told, Names report.subject report.lines
  instances : ∀ name id, .start name (.ok id) ∈ calls →
    ∃ fate, InstanceAudit calls told s name id fate
  channels : ∀ path channel, .opened path channel ∈ Audit.successes calls →
    ∃ fate, ChannelAudit calls told s path channel fate
  /-- There are no lines about what was not started. -/
  unstarted : ∀ id, (∀ name, .start name (.ok id) ∉ calls) → about told (.algorithm id) = []
  unopened : ∀ channel, (∀ path, .opened path channel ∉ Audit.successes calls) →
    about told (.channel channel) = []
  readFiles : ∀ meanwhile, (s.driver.openHandles s.world meanwhile).1.readFiles =
    ((Audit.successes calls).filterMap Success.readFile?).filter fun id =>
      (entries told).countP (LogEntry.closes (.read id)) = 0
  writeFiles : ∀ meanwhile, (s.driver.openHandles s.world meanwhile).1.writeFiles =
    ((Audit.successes calls).filterMap Success.writeFile?).filter fun id =>
      (entries told).countP (LogEntry.closes (.write id)) = 0 ∧ .write id ∉ losses calls

/-- One line tells of each end. -/
theorem Fate.countP_ends (id : AlgorithmId) (name : String) (fate : Fate) :
    (.started name id :: fate.lines id name).countP LogEntry.ends =
      if fate = .running then 0 else 1 := by
  cases fate <;> rfl

/-- One line tells of each closing, unless what was pending could not be flushed. -/
theorem ChannelFate.countP_closes (channel : ChannelId) (path : String) (fate : ChannelFate) :
    (.opened path channel :: fate.lines channel path).countP (LogEntry.closes channel) =
      fate.closings := by
  cases fate with
  | leftOver flushed =>
    cases channel with
    | read id => simp [lines, closings, flaw, LogEntry.closes]
    | write id => cases flushed <;> simp [lines, closings, flaw, Driver.flaw, LogEntry.closes]
  | _ => simp [lines, closings, LogEntry.closes]

theorem started_mem_successes {name : String} {id : AlgorithmId} :
    .started name id ∈ Audit.successes calls ↔ .start name (.ok id) ∈ calls := by
  refine List.mem_filterMap.trans ⟨?_, fun mem => ⟨_, mem, rfl⟩⟩
  rintro ⟨call, mem, achieved⟩
  unfold Call.success? at achieved
  split at achieved <;> cases achieved
  exact mem

theorem killed_mem_successes {id : AlgorithmId} :
    .killed id ∈ Audit.successes calls ↔ .kill id (.ok ()) ∈ calls := by
  refine List.mem_filterMap.trans ⟨?_, fun mem => ⟨_, mem, rfl⟩⟩
  rintro ⟨call, mem, achieved⟩
  unfold Call.success? at achieved
  split at achieved <;> cases achieved
  exact mem

theorem Ledger.instance_audit (ledger : Ledger start calls told s) (new : start.New) {name : String}
    {id : AlgorithmId} (mem : .start name (.ok id) ∈ calls) :
    ∃ fate, InstanceAudit calls told s name id fate := by
  have account := ledger.instance new id
  have emptied := fun last => (ledger.emptied last).1 id
  generalize lines : about told (.algorithm id) = said at account
  generalize stands : s.standing? id = standing? at account emptied
  cases account with
  | unstarted unstarted => exact absurd (started_mem_successes.2 mem) (unstarted name)
  | @started _ fate _ started killed shows =>
    obtain rfl := (started name).1 (started_mem_successes.2 mem)
    rw [killed_mem_successes] at killed
    refine ⟨fate, lines, stands ▸ shows, killed, ?_, fun last => ?_⟩
    · rw [lines, ← killed]
      cases fate <;> simp [Fate.lines]
    · rw [lines, fate.countP_ends]
      obtain rfl := emptied last
      cases shows with
      | takenOut ended => exact if_neg ended

theorem Ledger.countP_closes (ledger : Ledger start calls told s) (new : start.New)
    (channel : ChannelId) : (entries told).countP (LogEntry.closes channel) =
      (about told (.channel channel)).countP (LogEntry.closes channel) :=
  countP_entries (ledger.names new) fun _ => closes_subject?

theorem Ledger.channel_audit (ledger : Ledger start calls told s) (new : start.New) {path : String}
    {channel : ChannelId} (mem : .opened path channel ∈ Audit.successes calls) :
    ∃ fate, ChannelAudit calls told s path channel fate := by
  have account := ledger.channel new channel
  have counted := ledger.countP_closes new channel
  have emptied := fun last => (ledger.emptied last).2 channel
  generalize lines : about told (.channel channel) = said at account counted
  generalize known : s.path? channel = path? at account emptied
  cases account with
  | unopened unopened => exact absurd mem (unopened path)
  | @opened _ fate _ opened closed unflushed shows =>
    obtain rfl := (opened path).1 mem
    refine ⟨fate, lines, known.trans shows, closed, unflushed, fun last => ?_⟩
    have gone : fate.path? path = none := shows.symm.trans (emptied last)
    rw [counted, fate.countP_closes]
    split
    · rename_i lost
      rw [unflushed.2 lost]
      rfl
    · rename_i kept
      cases fate with
      | isOpen => cases gone
      | closed => rfl
      | unflushed => exact absurd (unflushed.1 rfl) kept
      | leftOver => rfl

/-- A channel is in its table as long as no line tells that it was closed, unless what was pending
could not be flushed. -/
theorem Ledger.listed_iff (ledger : Ledger start calls told s) (new : start.New) {path : String}
    {channel : ChannelId} (mem : .opened path channel ∈ Audit.successes calls) :
    (s.path? channel).isSome ↔
      (entries told).countP (LogEntry.closes channel) = 0 ∧ channel ∉ losses calls := by
  obtain ⟨fate, audit⟩ := ledger.channel_audit new mem
  rw [ledger.countP_closes new, audit.lines, fate.countP_closes, ← audit.unflushed, audit.shows]
  cases fate <;> simp [ChannelFate.path?, ChannelFate.closings]

theorem read_not_mem_losses (id : ReadFileId) : .read id ∉ losses calls := by
  intro mem
  obtain ⟨call, _, lost⟩ := List.mem_filterMap.1 mem
  unfold Call.unflushed? at lost
  split at lost <;> cases lost

theorem Ledger.readFiles (ledger : Ledger start calls told s) (new : start.New) :
    s.driver.readFiles.ids = ((Audit.successes calls).filterMap Success.readFile?).filter fun id =>
      (entries told).countP (LogEntry.closes (.read id)) = 0 := by
  refine (ledger.keeps new).readFiles.ids_eq_filter fun id mem => ?_
  obtain ⟨success, mem, known⟩ := List.mem_filterMap.1 mem
  obtain ⟨path, rfl⟩ : ∃ path, success = .opened path (.read id) := by
    unfold Success.readFile? at known
    split at known <;> cases known
    exact ⟨_, rfl⟩
  rw [Table.mem_ids_iff, decide_eq_true_iff]
  have listed := ledger.listed_iff new mem
  rw [and_iff_left (read_not_mem_losses id)] at listed
  rw [← listed, State.path?, Option.isSome_map, Option.isSome_iff_exists]

theorem Ledger.writeFiles (ledger : Ledger start calls told s) (new : start.New) :
    s.driver.writeFiles.ids =
      ((Audit.successes calls).filterMap Success.writeFile?).filter fun id =>
        (entries told).countP (LogEntry.closes (.write id)) = 0 ∧ .write id ∉ losses calls := by
  refine (ledger.keeps new).writeFiles.ids_eq_filter fun id mem => ?_
  obtain ⟨success, mem, known⟩ := List.mem_filterMap.1 mem
  obtain ⟨path, rfl⟩ : ∃ path, success = .opened path (.write id) := by
    unfold Success.writeFile? at known
    split at known <;> cases known
    exact ⟨_, rfl⟩
  rw [Table.mem_ids_iff, decide_eq_true_iff, ← ledger.listed_iff new mem, State.path?,
    Option.isSome_map, Option.isSome_iff_exists]

/-- There are no lines about what was not started. -/
theorem Ledger.about_unstarted (ledger : Ledger start calls told s) (new : start.New)
    {id : AlgorithmId} (unstarted : ∀ name, .start name (.ok id) ∉ calls) :
    about told (.algorithm id) = [] := by
  have account := ledger.instance new id
  generalize about told (.algorithm id) = lines at account
  generalize s.standing? id = standing? at account
  cases account with
  | unstarted => rfl
  | @started name _ _ started =>
    exact absurd (started_mem_successes.1 ((started name).2 rfl)) (unstarted name)

theorem Ledger.about_unopened (ledger : Ledger start calls told s) (new : start.New)
    {channel : ChannelId} (unopened : ∀ path, .opened path channel ∉ Audit.successes calls) :
    about told (.channel channel) = [] := by
  have account := ledger.channel new channel
  generalize about told (.channel channel) = lines at account
  generalize s.path? channel = path? at account
  cases account with
  | unopened => rfl
  | @opened path _ _ opened => exact absurd ((opened path).2 rfl) (unopened path)

/-- The log is a complete audit of what a single caller does with a driver. -/
theorem Run.audited (new : start.New) (run : Run start calls s) :
    ∃ told, Audited start calls told s := by
  obtain ⟨told, ledger⟩ := run.ledger new
  exact ⟨told,
    { ledger
      log := ledger.log
      successes := ledger.successes
      names := ledger.names new
      instances := fun _ _ => ledger.instance_audit new
      channels := fun _ _ => ledger.channel_audit new
      unstarted := fun _ => ledger.about_unstarted new
      unopened := fun _ => ledger.about_unopened new
      readFiles := fun _ => ledger.readFiles new
      writeFiles := fun _ => ledger.writeFiles new }⟩

end Runs

/-- A driver that can start one program. -/
def sample : State := ⟨Scene.sample.driver, Scene.sample.world⟩

/-- The same after the algorithm was started, and a file opened to read. -/
def busy : State where
  driver :=
    { Scene.sample.driver with
      algorithms := (Table.empty.insert .sample).2
      readFiles := (Table.empty.insert { path := "/three", pipe := ⟨1⟩ }).2 }
  world := Scene.sampleRead.record (.opened "/three" (.read ⟨1⟩))

theorem busy_run :
    Run sample [.start "three" (.ok ⟨1⟩), .openRead "/three" (.ok ⟨1⟩)] busy := by
  have started := (@Run.nil sample).snoc (.start "three")
  rw [show sample.driver.start "three" sample.world = _ from
    Driver.start_of_spawn Scene.sample_spawned] at started
  let driver := (Scene.sample.driver.register .sample Scene.sampleStarted.world).2.1
  have opened := started.snoc (@Step.openRead ⟨driver, Scene.sampleRegistered⟩ "/three")
  rw [show driver.openRead "/three" Scene.sampleRegistered = _ from
    Driver.openRead_of_acquire Scene.sample_acquireRead] at opened
  exact opened

/-- Somebody starts an algorithm, opens a file to read, kills the algorithm, and closes everything,
which finds the file left over. -/
theorem Run.audited_three : sample.New ∧
    let calls : List Call :=
      [.start "three" (.ok ⟨1⟩), .openRead "/three" (.ok ⟨1⟩), .kill ⟨1⟩ (.ok ()), .closeAll]
    ∃ s told, Run sample calls s ∧ Audited sample calls told s ∧
      s.world.log = [.started "three" ⟨1⟩, .opened "/three" (.read ⟨1⟩), .signalled "three",
        .killed ⟨1⟩, .closingLeftover (.read ⟨1⟩) "/three"] := by
  have new : sample.New := ⟨rfl, rfl, rfl⟩
  have killed := busy_run.snoc (@Step.kill _ ⟨1⟩ (fun world => world) fun _ => rfl)
  have run := killed.snoc (.closeAll (closesAll_closeAll _ _))
  obtain ⟨told, audited⟩ := run.audited new
  exact ⟨new, _, told, run, audited, rfl⟩

end Audit

end AlgorithmDriver

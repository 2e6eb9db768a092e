import AlgorithmDriver.Proofs.CommandLine.Feeding

/-!
# Collecting the output

The output file gets what the algorithm wrote.

* `Exchange.Collects` says how much of the output the main party has taken from the pipe at each
  stage, and that all of it is in the output file or on its way there.
* `Exchange.Outlet` says besides that the rest of the output is still in the pipe.  Every step keeps
  this (`Outlet.ofTurn`, `Outlet.ofFeeding`, `Outlet.ofOthers`).
* A run that is ended with an error has a reason in `Exchange.Fails` (`Halts.fails`).
-/

namespace AlgorithmDriver.CommandLine.Exchange

variable {c : Connection} {e e' : Exchange} {content taken held : Bytes} {regular : Prop}
  {w : WriteHandle}

/-! ## The output file -/

/-- If there is an output file, and it is to be `regular`, then `w` has accepted the `whole` for it. -/
def Saves (c : Connection) (regular : Prop) (e : Exchange) (w : WriteHandle) (whole : Bytes) : Prop :=
  ∀ path, e.options.output = some path → regular →
    c.toAlgorithm.number < w.number ∧
      ∃ node, e.world.host.files.find e.world.host.directory path = .ok node ∧
        e.world.Carries w node whole

namespace Saves

variable {whole more : Bytes}

theorem of_unnamed (unnamed : e.options.output = none) : Saves c regular e w whole :=
  fun _ named => absurd (named.symm.trans unnamed) (Option.some_ne_none _)

/-- The file stays where it is. -/
theorem step (saves : Saves c regular e w whole) (options : e'.options = e.options)
    (spares : e.world.host.Spares (fun _ => True) (fun _ => True) e'.world.host)
    (carries : ∀ node, c.toAlgorithm.number < w.number → e.world.Carries w node whole →
      e'.world.Carries w node more) : Saves c regular e' w more := by
  intro path named isRegular
  obtain ⟨own, node, found, carried⟩ := saves path (options ▸ named) isRegular
  obtain ⟨_, file, _⟩ := carried.part
  exact ⟨own, node, spares.found (file ▸ Option.some_ne_none _) found, carries node own carried⟩

theorem manages (saves : Saves c regular e w whole) (options : e'.options = e.options)
    (manages : e.world.Manages e'.world) : Saves c regular e' w whole :=
  saves.step options manages.spares fun _ _ carries => carries.manages manages

/-- Something else is copied into a pipe. -/
theorem copies {r : ReadHandle} {k : Nat} {between : World} (saves : Saves c regular e w whole)
    (options : e'.options = e.options)
    (piped : e.world.Piped k (some c.toAlgorithm) none held)
    (copies : e.world.Copies r c.toAlgorithm between) (manages : between.Manages e'.world) :
    Saves c regular e' w whole := by
  have moved : Saves c regular { e with world := between } w whole :=
    @step c e { e with world := between } _ _ _ _ saves rfl copies.spares fun _ own carries =>
      carries.copies copies (fun same => Nat.lt_irrefl _ (same ▸ own)) piped.aside
  exact moved.manages options manages

/-- Something is read. -/
theorem reads {r : ReadHandle} {count : Nat} {result : Except StreamError Bytes} {after : World}
    (saves : Saves c regular e w whole) (read : e.world.read r count = some (result, after))
    (spares : e.world.host.Spares (fun _ => True) (fun _ => True) after.host) :
    Saves c regular { e with world := after } w whole :=
  @step c e { e with world := after } _ _ _ _ saves rfl spares fun _ _ carries => carries.read read

/-- What is accepted for the file is added. -/
theorem writes {data : Bytes} {n : Nat} {after : World} (saves : Saves c regular e w whole)
    (options : e'.options = e.options) (world : e'.world = after)
    (done : e.world.write w data = some (.ok n, after)) :
    Saves c regular e' w (whole ++ data.take n) := by
  subst world
  have copies : e.world.Copies c.fromAlgorithm w e'.world := .write done
  refine saves.step options copies.spares fun node _ carries => ?_
  have wrote := carries.write_self done
  rwa [show (Deed.wrote w data (.ok n)).accepted w = data.take n from if_pos rfl] at wrote

theorem ofOthers {took put : Bytes} {world : World} (saves : Saves c regular e w whole)
    (others : c.Others took put e.world world)
    (leaves : regular → LeavesFiles e.options e.world.host world.host) :
    Saves c regular { e with world } w whole := by
  intro path named isRegular
  obtain ⟨own, node, found, carries⟩ := saves path named isRegular
  have place := (leaves isRegular).output path named
  exact ⟨own, node, place.found.trans found,
    others.carries (place.node node found) (Nat.le_of_lt own) carries⟩

end Saves

/-! ## What was taken -/

/-- The main party is done with the output, and found the pipe to be at its end. -/
structure Saved (c : Connection) (regular : Prop) (e : Exchange) (taken held : Bytes) : Prop where
  saves : ∃ w, Saves c regular e w taken ∧ (e.options.output ≠ none → e.world.openSink? w = none)
  empty : held = []
  sealed : e.world.host.hasWriter c.outlet = false

/-- How the main party stands at each stage when it has taken `taken` from the output of the algorithm,
and there is still `held` to take. -/
def Collects (c : Connection) (regular : Prop) (e : Exchange) (taken held : Bytes) : Stage → Prop
  | .start => False
  | .openInput _ _ | .openOutput _ =>
    (e.world.openSource? c.fromAlgorithm).isSome = true ∧ taken = []
  | .collect _ t => (e.world.openSource? c.fromAlgorithm).isSome = true ∧
      ∃ whole, taken = whole ++ t.pending ∧ Saves c regular e t.sink whole
  | .closeOutput s => ∃ w, Targets c e.options e.driver.writeFiles e.console s.output w ∧
      Saves c regular e w taken ∧ held = [] ∧ e.world.host.hasWriter c.outlet = false
  | .awaitFeeder _ | .awaitAlgorithm _ | .over (.ok _) => Saved c regular e taken held
  | .over (.error _) => True

/-- What the algorithm has produced is what the main party has taken, and what is still in the
pipe. -/
def Outlet (c : Connection) (regular : Prop) (produced : Bytes) (e : Exchange) : Prop :=
  ∃ held taken, e.world.Piped c.outlet none (some c.fromAlgorithm) held ∧ produced = taken ++ held ∧
    Collects c regular e taken held e.stage

namespace Saved

theorem manages (saved : Saved c regular e taken held) (options : e'.options = e.options)
    (manages : e.world.Manages e'.world) : Saved c regular e' taken held where
  saves := by
    obtain ⟨w, saves, shut⟩ := saved.saves
    exact ⟨w, saves.manages options manages, fun named =>
      manages.openSink?_eq_none (shut (options ▸ named))⟩
  empty := saved.empty
  sealed := manages.seals c.outlet saved.sealed

/-- All of the output is in the file. -/
theorem whole {path : String} (saved : Saved c regular e taken held) (isRegular : regular)
    (named : e.options.output = some path) : ∃ node,
      e.world.host.files.find e.world.host.directory path = .ok node ∧
        e.world.host.files.bytes? node = some (taken ++ held) := by
  obtain ⟨w, saves, shut⟩ := saved.saves
  obtain ⟨_, node, found, carries⟩ := saves path named isRegular
  rw [saved.empty, List.append_nil]
  exact ⟨node, found, carries.shut (shut (named ▸ Option.some_ne_none path))⟩

end Saved

/-! ## Turns -/

section Turns

variable {produced : Bytes}

/-- A file that was just opened has accepted nothing yet. -/
theorem Saves.opened {path : String} {channel : Channel WriteHandle} {world : World}
    (files : regular → Files content regular e) (plan : Plan c e) (named : e.options.output = some path)
    (opened : Driver.acquireWrite path e.world = .ok (channel, world)) :
    Saves c regular { e with world } channel.pipe [] := by
  intro path' named' isRegular
  obtain rfl : path' = path := Option.some.inj (named'.symm.trans named)
  obtain ⟨rfl, node, sink, opens⟩ := Driver.acquireWrite_opens opened
  have files := files isRegular
  refine ⟨plan.writer, node, opens.found, .opened files.grounded opened opens.found ?_
    fun w sink isOpen _ => files.idle w sink isOpen⟩
  rcases opens.place with ⟨was, kept⟩ | ⟨_, new⟩
  · exact kept (files.regular isRegular path' node named was)
  · exact new ▸ Option.some_ne_none _

/-- The main party reads a piece of the output, or writes one. -/
theorem Outlet.piece {s : Streams} {t t' : Transfer} {world : World}
    (outlet : Outlet c regular produced e) (plan : Plan c e) (stage : e.stage = .collect s t)
    (goes : t.Goes e.world (.onward t') world) :
    Outlet c regular produced { e with world, stage := .collect s t' } := by
  obtain ⟨held, taken, piped, rfl, collects⟩ := outlet
  have has := plan.has
  rw [stage] at collects has
  obtain ⟨isOpen, whole, rfl, saves⟩ := collects
  have source := has.2.1
  have still := goes.copies.source_isSome isOpen
  have spares := goes.copies.spares
  cases goes with
  | @fetched bytes _ idle more read =>
    have kept := saves.reads read spares
    rw [source] at read
    obtain ⟨_, rest, given, rfl, now, _⟩ := piped.read_of_open read isOpen
    cases given
    rw [idle, List.append_nil, ← List.append_assoc]
    exact ⟨rest, _, now, rfl, still, whole, rfl, kept⟩
  | @delivered n _ _ written =>
    refine ⟨held, _, piped.write_ne written (Option.some_ne_none _).symm, rfl, still,
      whole ++ t.pending.take n, ?_, saves.writes rfl rfl written⟩
    rw [List.append_assoc, List.take_append_drop]

/-- The main party finds the end of the output. -/
theorem Outlet.collected {s : Streams} {t : Transfer} {world : World}
    (outlet : Outlet c regular produced e) (plan : Plan c e) (stage : e.stage = .collect s t)
    (goes : t.Goes e.world (.ended (.ok ())) world) :
    Outlet c regular produced
      { e with world := world.dropSink t.sink, stage := .closeOutput s } := by
  obtain ⟨held, taken, piped, rfl, collects⟩ := outlet
  have has := plan.has
  rw [stage] at collects has
  obtain ⟨isOpen, whole, rfl, saves⟩ := collects
  obtain ⟨_, source, targets, _⟩ := has
  have seals := goes.copies.seals
  have spares := goes.copies.spares
  cases goes with
  | finished idle read =>
    have kept := saves.reads read spares
    rw [source] at read
    obtain ⟨_, rest, given, rfl, now, ended⟩ := piped.read_of_open read isOpen
    cases given
    obtain ⟨empty, sealed⟩ := ended rfl (by decide)
    have dropped := world.dropSink_manages t.sink
    rw [idle, List.append_nil]
    exact ⟨rest, whole, now.manages dropped, rfl, t.sink, targets, kept.manages rfl dropped,
      empty, dropped.seals _ (seals _ sealed)⟩

/-- The main party opens the input file. -/
theorem Outlet.openedInput {s : Streams} {w : WriteHandle} {path : String}
    {channel : Channel ReadHandle} {world : World} (outlet : Outlet c regular produced e)
    (plan : Plan c e) (stage : e.stage = .openInput s w)
    (opened : Driver.acquireRead path e.world = .ok (channel, world)) :
    Outlet c regular produced
      { e with
        driver := (e.driver.registerRead channel world).2.1
        world := (e.driver.registerRead channel world).2.2.holdSource channel.pipe
        stage := .openOutput { s with input := some (e.driver.readFiles.insert channel).1 }
        feeder := some (.copying { source := channel.pipe, sink := w }) } := by
  obtain ⟨held, taken, piped, rfl, collects⟩ := outlet
  rw [stage] at collects
  obtain ⟨rfl, node, source, opens⟩ := Driver.acquireRead_opens opened
  have managed (entry : LogEntry) (r : ReadHandle) :=
    (World.record_quiet world entry).manages.quiet (World.holdSource_quiet _ r)
  have known : ∀ r, some c.fromAlgorithm = some r → r.number < e.world.sources.length :=
    fun r same => Option.some.inj same ▸ plan.reader
  refine ⟨held, taken, (piped.opensRead opens known).manages (managed _ _), rfl, ?_, collects.2⟩
  have same : world.openSource? c.fromAlgorithm = e.world.openSource? c.fromAlgorithm :=
    World.openSource?_of_extended ⟨_, opens.sources.symm⟩ plan.reader
  show (World.openSource? (World.holdSource _ _) _).isSome = true
  rw [World.openSource?_holdSource]
  exact same ▸ collects.1

/-- The main party opens the output file. -/
theorem Outlet.openedOutput {s : Streams} {path : String} {channel : Channel WriteHandle}
    {world : World} (outlet : Outlet c regular produced e) (plan : Plan c e)
    (files : regular → Files content regular e) (stage : e.stage = .openOutput s)
    (named : e.options.output = some path)
    (opened : Driver.acquireWrite path e.world = .ok (channel, world)) :
    Outlet c regular produced
      { e with
        driver := (e.driver.registerWrite channel world).2.1
        world := (e.driver.registerWrite channel world).2.2.holdSink channel.pipe
        stage := .collect { s with output := some (e.driver.writeFiles.insert channel).1 }
          { source := s.fromAlgorithm, sink := channel.pipe } } := by
  obtain ⟨held, taken, piped, rfl, collects⟩ := outlet
  rw [stage] at collects
  have saves := Saves.opened files plan named opened
  obtain ⟨rfl, node, sink, opens⟩ := Driver.acquireWrite_opens opened
  have managed (entry : LogEntry) (w : WriteHandle) :=
    (World.record_quiet world entry).manages.quiet (World.holdSink_quiet _ w)
  refine ⟨held, taken, (piped.opensWrite opens fun _ none => nomatch none).manages (managed _ _),
    rfl, ?_, [], collects.2, saves.manages rfl (managed _ _)⟩
  have same : world.openSource? c.fromAlgorithm = e.world.openSource? c.fromAlgorithm :=
    World.openSource?_of_sources opens.sources _
  show (World.openSource? (World.holdSink _ _) _).isSome = true
  rw [World.openSource?_of_sources (World.holdSink_sources _ _)]
  exact same ▸ collects.1

/-- The main party closes the output file. -/
theorem Outlet.flushed {s : Streams} {id : WriteFileId} {channel : Channel WriteHandle}
    (outlet : Outlet c regular produced e) (stage : e.stage = .closeOutput s)
    (output : s.output = some id) (found : e.driver.writeFiles.get? id = some channel) :
    Outlet c regular produced
      { e with
        driver := (e.driver.closeWrite id e.world).2.1
        world := (e.driver.closeWrite id e.world).2.2, stage := .awaitFeeder s } := by
  obtain ⟨held, taken, piped, rfl, collects⟩ := outlet
  rw [stage] at collects
  obtain ⟨w, targets, saves, empty, sealed⟩ := collects
  have managed := e.driver.closeWrite_manages id e.world
  refine ⟨held, taken, piped.manages managed, rfl, ⟨w, saves.manages rfl managed, fun _ => ?_⟩,
    empty, managed.seals _ sealed⟩
  cases targets with
  | console _ missing _ => cases output.symm.trans missing
  | file _ issued found' sink _ =>
    cases output.symm.trans issued
    cases found.symm.trans found'
    exact sink ▸ Driver.closeWrite_shuts found e.world

/-- The run ends.  With an error it may leave some of the output in the pipe. -/
theorem Outlet.halted {result : Except RunError Nat} {m : Exchange}
    (outlet : Outlet c regular produced e) (plan : Plan c e) (halts : Halts e result m) :
    Outlet c regular produced (m.finish result) := by
  obtain ⟨held, taken, piped, rfl, collects⟩ := outlet
  cases halts with
  | unopened => exact ⟨held, taken, piped.manages (finish_manages _ _), rfl, trivial⟩
  | @uncopied _ t error world stage ended =>
    have finished := finish_manages { e with world } (.error (.stream error))
    have has := plan.has
    rw [stage] at has collects
    cases Transfer.step_goes ended with
    | unread _ read =>
      rw [has.2.1] at read
      obtain ⟨_, _, given, _⟩ := piped.read_of_open read collects.1
      cases given
    | unwritten _ written =>
      exact ⟨held, taken, (piped.write_ne written (Option.some_ne_none _).symm).manages finished,
        rfl, trivial⟩
  | unflushed =>
    exact ⟨held, taken, (piped.manages (Driver.closeWrite_manages _ _ _)).manages
      (finish_manages { e with driver := _, world := _ } _), rfl, trivial⟩
  | @exited s i code stage _ _ =>
    rw [stage] at collects
    have managed := (i.poll_manages e.world).trans (finish_manages { e with
      driver := e.driver.note s.id (i.poll e.world).1, world := (i.poll e.world).2 } (.ok code))
    exact ⟨held, taken, piped.manages managed, rfl, Saved.manages collects rfl managed⟩

theorem Outlet.ofTurn (outlet : Outlet c regular produced e) (plan : Plan c e) (turn : Turn e e')
    (files : regular → ∀ s, e.stage = .openOutput s → Files content regular e) :
    Outlet c regular produced e' := by
  have whole := outlet
  obtain ⟨held, taken, piped, rfl, collects⟩ := outlet
  cases turn with
  | noInput stage unnamed =>
    rw [stage] at collects
    have released := e.world.releaseSink_manages
    refine ⟨held, taken, piped.manages (released _), rfl, ?_, collects.2⟩
    rw [World.openSource?_of_sources
      ((World.dropSink_sources _ _).trans (World.closeSink_sources _ _))]
    exact collects.1
  | input stage _ opened => exact whole.openedInput plan stage opened
  | noOutput stage unnamed =>
    rw [stage] at collects
    refine ⟨held, taken, piped.manages (World.holdSink_quiet _ _).manages, rfl, ?_, [],
      collects.2, .of_unnamed unnamed⟩
    rw [World.openSource?_of_sources (World.holdSink_sources _ _)]
    exact collects.1
  | output stage named opened =>
    exact whole.openedOutput plan (fun isRegular => files isRegular _ stage) stage named opened
  | piece stage goes => exact whole.piece plan stage goes
  | collected stage goes => exact whole.collected plan stage goes
  | noFile stage output =>
    rw [stage] at collects
    obtain ⟨w, targets, saves, empty, sealed⟩ := collects
    refine ⟨held, taken, piped, rfl, ⟨w, saves, fun named => ?_⟩, empty, sealed⟩
    cases targets with
    | console unnamed _ _ => exact absurd unnamed named
    | file _ issued _ _ _ => cases output.symm.trans issued
  | flushed stage output found => exact whole.flushed stage output found
  | noFeeder stage _ _ =>
    rw [stage] at collects
    exact ⟨held, taken, piped, rfl, collects.saves, collects.empty, collects.sealed⟩
  | @joined s id _ world stage _ noted =>
    rw [stage] at collects
    have recorded : e.world.Manages world := by
      rcases noted with rfl | ⟨entry, rfl⟩
      · exact .refl
      · exact (World.record_quiet _ _).manages
    have managed := recorded.trans (e.driver.closeRead_manages id world)
    exact ⟨held, taken, piped.manages managed, rfl, Saved.manages collects rfl managed⟩
  | halts halts => exact whole.halted plan halts

end Turns

/-! ## Turns of the feeder and of others -/

section Beside

variable {produced : Bytes}

/-- Somebody else takes a turn. -/
theorem Collects.still {held' : Bytes} {stage : Stage}
    (collects : Collects c regular e taken held stage) (options : e'.options = e.options)
    (driver : e'.driver = e.driver) (console : e'.console = e.console)
    (isOpen : (e.world.openSource? c.fromAlgorithm).isSome = true →
      (e'.world.openSource? c.fromAlgorithm).isSome = true)
    (saves : ∀ w whole, Saves c regular e w whole → Saves c regular e' w whole)
    (shut : ∀ w, e.world.openSink? w = none → e'.world.openSink? w = none)
    (sealed : e.world.host.hasWriter c.outlet = false →
      held' = held ∧ e'.world.host.hasWriter c.outlet = false) :
    Collects c regular e' taken held' stage := by
  have closed (saved : Saved c regular e taken held) : Saved c regular e' taken held' := by
    obtain ⟨same, still⟩ := sealed saved.sealed
    obtain ⟨w, saved', isShut⟩ := saved.saves
    exact ⟨⟨w, saves w _ saved', fun named => shut w (isShut (options ▸ named))⟩,
      same.trans saved.empty, still⟩
  cases stage with
  | start => exact collects.elim
  | openInput => exact ⟨isOpen collects.1, collects.2⟩
  | openOutput => exact ⟨isOpen collects.1, collects.2⟩
  | collect s t =>
    obtain ⟨open', whole, split, saved⟩ := collects
    exact ⟨isOpen open', whole, split, saves _ _ saved⟩
  | closeOutput s =>
    obtain ⟨w, targets, saved, empty, ended⟩ := collects
    obtain ⟨same, still⟩ := sealed ended
    exact ⟨w, by rwa [options, driver, console], saves _ _ saved, same.trans empty, still⟩
  | awaitFeeder => exact closed collects
  | awaitAlgorithm => exact closed collects
  | «over» result =>
    cases result with
    | ok code => exact closed collects
    | error error => trivial

/-- The feeder has another source. -/
theorem Feeding.source_isSome (feeding : Feeding e e') (plan : Plan c e)
    (isOpen : (e.world.openSource? c.fromAlgorithm).isSome = true) :
    (e'.world.openSource? c.fromAlgorithm).isSome = true := by
  cases feeding with
  | onward _ goes => exact goes.copies.source_isSome isOpen
  | @done t _ world copying goes =>
    have apart : c.fromAlgorithm ≠ t.source := fun same =>
      Nat.lt_irrefl _ (same ▸ (plan.feeder t copying).2)
    show (World.openSource? (World.dropSource _ _) _).isSome = true
    rw [World.openSource?_dropSource _ apart, World.openSource?_of_sources
      ((World.dropSink_sources _ _).trans (World.closeSink_sources _ _))]
    exact goes.copies.source_isSome isOpen

theorem Outlet.ofFeeding (outlet : Outlet c regular produced e) (plan : Plan c e)
    (inlet : ∃ fed, e.world.Piped c.inlet (some c.toAlgorithm) none fed) (feeding : Feeding e e') :
    Outlet c regular produced e' := by
  obtain ⟨held, taken, piped, rfl, collects⟩ := outlet
  obtain ⟨fed, inlet⟩ := inlet
  have source := feeding.source_isSome plan
  obtain ⟨t, between, copying, copies, manages⟩ := feeding.touch
  obtain ⟨sink, apart⟩ := plan.feeder t copying
  have other : some c.fromAlgorithm ≠ some t.source := fun same =>
    Nat.lt_irrefl _ (Option.some.inj same ▸ apart)
  rw [sink] at copies
  have same : e'.options = e.options ∧ e'.driver = e.driver ∧ e'.console = e.console ∧
      e'.stage = e.stage := by
    cases feeding <;> exact ⟨rfl, rfl, rfl, rfl⟩
  obtain ⟨options, driver, console, stage⟩ := same
  refine ⟨held, taken, (piped.copies copies other (Option.some_ne_none _).symm).manages manages,
    rfl, ?_⟩
  rw [stage]
  refine collects.still options driver console source
    (fun w whole saves => saves.copies options inlet copies manages) (fun w isShut => ?_)
    fun ended => ⟨rfl, manages.seals _ (copies.seals _ ended)⟩
  refine manages.openSink?_eq_none (Option.eq_none_iff_forall_ne_some.2 fun _ isOpen => ?_)
  obtain ⟨_, was, _⟩ := copies.sink_origin isOpen
  exact Option.some_ne_none _ (was.symm.trans isShut)

theorem Outlet.ofOthers {took put : Bytes} {world : World} (outlet : Outlet c regular produced e)
    (others : c.Others took put e.world world)
    (leaves : regular → LeavesFiles e.options e.world.host world.host) :
    Outlet c regular (produced ++ put) { e with world } := by
  obtain ⟨held, taken, piped, rfl, collects⟩ := outlet
  refine ⟨held ++ put, taken, others.piped_outlet piped, List.append_assoc _ _ _, ?_⟩
  refine collects.still rfl rfl rfl (fun isOpen => ?_) (fun _ _ saves => saves.ofOthers others leaves)
    (fun w isShut => (others.openSink? w).trans isShut) fun ended => ?_
  · show (world.openSource? _).isSome = true
    rwa [others.openSource?]
  · obtain ⟨nothing, still⟩ := others.sealed ended
    exact ⟨nothing ▸ List.append_nil held, still⟩

end Beside

/-! ## Why a run fails -/

/-- The output of the algorithm can be read, so that only what can go wrong with files makes a run
fail. -/
theorem Halts.fails {produced : Bytes} {error : RunError} {m : Exchange}
    (halts : Halts e (.error error) m) (outlet : Outlet c regular produced e) (plan : Plan c e) :
    Fails e error := by
  cases halts with
  | unopened fails => exact fails
  | unflushed fails => exact fails
  | uncopied stage ended =>
    obtain ⟨held, taken, piped, _, collects⟩ := outlet
    have has := plan.has
    rw [stage] at has collects
    cases Transfer.step_goes ended with
    | unread _ read =>
      rw [has.2.1] at read
      obtain ⟨_, _, given, _⟩ := piped.read_of_open read collects.1
      cases given
    | unwritten busy written => exact .copy stage busy written

/-- What makes a run fail ends it, with the error. -/
theorem Fails.ends {error : RunError} (fails : Fails e error) :
    ∃ e', e.mainStep = some e' ∧ e'.result? = some (.error error) := by
  cases fails with
  | input stage named refused =>
    exact ⟨_, by rw [mainStep, stage], by rw [openInput_of_refused named refused]; rfl⟩
  | output stage named refused =>
    exact ⟨_, by rw [mainStep, stage], by rw [openOutput_of_refused named refused]; rfl⟩
  | copy stage busy refused =>
    have step := Transfer.step_of_unwritten busy refused
    refine ⟨_, by rw [mainStep, stage]; dsimp only; rw [collect, step]; rfl, rfl⟩
  | @flush s id channel reason stage output found refused =>
    have result := closeWrite_fst found e.world
    rw [refused] at result
    refine ⟨_, by rw [mainStep, stage], ?_⟩
    unfold closeOutput
    rw [output]
    dsimp only
    cases closed : e.driver.closeWrite id e.world with
    | mk r after =>
      rw [closed] at result
      obtain rfl : r = .error _ := result
      rfl

end AlgorithmDriver.CommandLine.Exchange

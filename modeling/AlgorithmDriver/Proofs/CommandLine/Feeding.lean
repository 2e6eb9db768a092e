import AlgorithmDriver.Proofs.CommandLine.Turns

/-!
# Feeding the algorithm

What the algorithm gets to read is the beginning of the input file.

* `Exchange.Files` is what the files must be like when the algorithm was started (`Provides`); it lasts
  until both are open (`Files.ofTurn`, `Files.ofFeeding`, `Files.ofOthers`).
* `Exchange.Fed` says how much of the input file the feeder has written so far, and `Exchange.Inlet`
  that the algorithm got the beginning of that, while the rest is still in the pipe.
* `Exchange.Supplied` says that the pipe has a writer until the feeder is done.
-/

namespace AlgorithmDriver.CommandLine.Exchange

variable {c : Connection} {e e' : Exchange} {content received : Bytes} {regular : Prop}

/-! ## The files -/

/-- The input file has the given content, nobody has it open to write to it, and it is not the output
file.  Without an input file there is no content. -/
structure Provides (content : Bytes) (e : Exchange) : Prop where
  nothing : e.options.input = none → content = []
  input : ∀ path node, e.options.input = some path →
    e.world.host.files.find e.world.host.directory path = .ok node →
      e.world.host.files.bytes? node = some content ∨
        ∃ parent entries, e.world.host.files.get? node = some (.directory parent entries)
  aside : ∀ path node, e.options.input = some path →
    e.world.host.files.find e.world.host.directory path = .ok node →
      ∀ w sink, e.world.openSink? w = some sink → ¬ e.world.host.Leads sink.description node
  apart : ∀ path output node, e.options.input = some path → e.options.output = some output →
    e.world.host.files.find e.world.host.directory path = .ok node →
      e.world.host.files.find e.world.host.directory output ≠ .ok node

/-- The path of the output file leads to a regular file, or to nothing. -/
def SavesToFile (e : Exchange) : Prop :=
  ∀ path node, e.options.output = some path →
    e.world.host.files.find e.world.host.directory path = .ok node →
      e.world.host.files.bytes? node ≠ none

/-- Besides, no stream has anything left to write, and the output file is `regular` if it is to be. -/
structure Files (content : Bytes) (regular : Prop) (e : Exchange) : Prop
    extends Provides content e where
  grounded : e.world.Grounded
  idle : e.world.Idle
  regular : regular → SavesToFile e

namespace Files

/-- No file is changed, and no sink is opened or gets anything to write. -/
theorem of_same (files : Files content regular e) (options : e'.options = e.options)
    (same : e'.world.host.files = e.world.host.files)
    (directory : e'.world.host.directory = e.world.host.directory)
    (onward : e.world.host.Onward e'.world.host) (grounded : e'.world.Grounded)
    (sinks : ∀ w sink', e'.world.openSink? w = some sink' → sink'.pending = [] ∧
      ∃ sink, e.world.openSink? w = some sink ∧ sink'.description = sink.description) :
    Files content regular e' where
  nothing := by
    rw [options]
    exact files.nothing
  grounded := grounded
  idle w sink' isOpen := (sinks w sink' isOpen).1
  input := by
    rw [options, same, directory]
    exact files.input
  aside := by
    rw [options, same, directory]
    intro path node named found w sink' isOpen leads
    obtain ⟨_, sink, was, description⟩ := sinks w sink' isOpen
    rw [description] at leads
    exact files.aside path node named found w sink was
      (leads.of_onward onward (files.grounded.sinks w sink was))
  apart := by
    rw [options, same, directory]
    exact files.apart
  regular isRegular := by
    unfold SavesToFile
    rw [options, same, directory]
    exact files.regular isRegular

/-- Handles are managed. -/
theorem manages (files : Files content regular e) (options : e'.options = e.options)
    (manages : e.world.Manages e'.world) : Files content regular e' := by
  obtain ⟨muted, idle⟩ := manages.muted_of_idle files.idle
  exact files.of_same options muted.files muted.directory manages.spares.onward
    (manages.grounded files.grounded) fun w sink isOpen =>
      ⟨idle w sink isOpen, sink, manages.sink_origin isOpen, rfl⟩

/-- The input file is opened. -/
theorem opensRead {path : String} {node : Nat} {source : Source} {opened : World}
    (files : Files content regular e) (opens : World.OpensRead path node source e.world opened) :
    Files content regular { e with world := opened } :=
  files.of_same rfl opens.files opens.directory opens.onward
    (opens.toAddsSource.grounded files.grounded) fun w sink isOpen => by
      have was := (World.openSink?_of_sinks opens.sinks w).symm.trans isOpen
      exact ⟨files.idle w sink was, sink, was, rfl⟩

/-- The main party takes a turn, up to the one with which it opens the output file. -/
theorem ofTurn {s : Streams} (files : Files content regular e) (turn : Turn e e')
    (stage : e'.stage = .openOutput s) : Files content regular e' := by
  cases turn with
  | noInput => exact files.manages rfl (World.releaseSink_manages _ _)
  | input _ named opened =>
    obtain ⟨_, node, source, opens⟩ := Driver.acquireRead_opens opened
    exact (files.opensRead opens).manages rfl
      ((World.record_quiet _ _).manages.trans (World.holdSource_quiet _ _).manages)
  | halts halts => cases stage
  | _ => cases stage

/-- The feeder takes a turn. -/
theorem ofFeeding {held : Bytes} (files : Files content regular e) (plan : Plan c e)
    (piped : e.world.Piped c.inlet (some c.toAlgorithm) none held) (feeding : Feeding e e') :
    Files content regular e' := by
  obtain ⟨t, between, copying, copies, manages⟩ := feeding.touch
  have options : e'.options = e.options := by cases feeding <;> rfl
  rw [(plan.feeder t copying).1] at copies
  obtain ⟨same, more, now⟩ := piped.copies_into copies (Option.some_ne_none _).symm
  have after : Files content regular { e with world := between } := by
    refine files.of_same rfl same.1 same.2 copies.ahead.onward (copies.grounded files.grounded)
      fun w sink' isOpen => ?_
    obtain ⟨sink, was, description, kept⟩ := copies.sink_origin isOpen
    refine ⟨?_, sink, was, description⟩
    by_cases here : w = c.toAlgorithm
    · exact ((now.sinks w sink' isOpen).2 (here ▸ rfl)).2
    · exact kept here ▸ files.idle w sink was
  exact after.manages options manages

/-- Others take a turn. -/
theorem ofOthers {took put : Bytes} {world : World} (files : Files content regular e)
    (others : c.Others took put e.world world)
    (leaves : LeavesFiles e.options e.world.host world.host) :
    Files content regular { e with world } where
  nothing := files.nothing
  grounded := others.grounded files.grounded
  idle w sink isOpen := files.idle w sink ((others.openSink? w).symm.trans isOpen)
  input path node named found := by
    have same := leaves.input path named
    have was := same.found.symm.trans found
    have kept := same.node node was
    rcases files.input path node named was with file | ⟨parent, entries, isDirectory⟩
    · left
      obtain ⟨executable, isFile⟩ := FileTree.bytes?_eq_some_iff.1 file
      exact FileTree.bytes?_eq_some_iff.2 ⟨executable, kept.trans isFile⟩
    · exact .inr ⟨parent, entries, kept.trans isDirectory⟩
  aside path node named found w sink isOpen leads := by
    have was := (leaves.input path named).found.symm.trans found
    have before := (others.openSink? w).symm.trans isOpen
    exact files.aside path node named was w sink before
      (leads.of_onward others.onward (files.grounded.sinks w sink before))
  apart path output node named named' found := by
    have was := (leaves.input path named).found.symm.trans found
    show world.host.files.find world.host.directory output ≠ .ok node
    rw [(leaves.output output named').found]
    exact files.apart path output node named named' was
  regular isRegular path node named found := by
    have same := leaves.output path named
    have was := same.found.symm.trans found
    have kept : world.host.files.bytes? node = e.world.host.files.bytes? node := by
      unfold FileTree.bytes?
      rw [same.node node was]
    show world.host.files.bytes? node ≠ none
    rw [kept]
    exact files.regular isRegular path node named was

end Files

/-! ## What the feeder has read and written -/

/-- How the feeder stands when it has written `fed`. -/
inductive Fed (content : Bytes) (e : Exchange) (fed : Bytes) : Prop
  | waiting (idle : e.feeder = none) (nothing : fed = [])
  | copying {t : Transfer} {path : String} {node : Nat} (copying : e.feeder = some (.copying t))
      (named : e.options.input = some path)
      (found : e.world.host.files.find e.world.host.directory path = .ok node)
      (delivers : e.world.Delivers t.source node (fed ++ t.pending) content)
      (unwritten : e.world.Unwritten node content)
  | finished (done : e.feeder = some (.done (.ok ()))) (all : fed = content)
  | failed {error : StreamError} (done : e.feeder = some (.done (.error error)))
      (part : fed <+: content)

/-- What was fed is the beginning of the input file. -/
theorem Fed.part {fed : Bytes} (h : Fed content e fed) : fed <+: content := by
  cases h with
  | waiting _ nothing => exact nothing ▸ List.nil_prefix
  | copying _ _ _ delivers _ => exact (List.prefix_append _ _).trans delivers.part
  | finished _ all => exact all ▸ List.prefix_rfl
  | failed _ part => exact part

/-- What the algorithm got, and what is still in the pipe, is what the feeder has written. -/
def Inlet (c : Connection) (content received : Bytes) (e : Exchange) : Prop :=
  ∃ held, e.world.Piped c.inlet (some c.toAlgorithm) none held ∧ Fed content e (received ++ held)

/-- The path of a file leads to it as long as nothing is lost. -/
theorem found_of_spares {moved written : Nat → Prop} {world after : World} {path : String}
    {node : Nat} (spares : world.host.Spares moved written after.host)
    (unwritten : world.Unwritten node content)
    (found : world.host.files.find world.host.directory path = .ok node) :
    after.host.files.find after.host.directory path = .ok node :=
  spares.found (unwritten.file ▸ Option.some_ne_none content) found

theorem Touch.piped_inlet {held : Bytes} {after : World} (touch : Touch c e after)
    (plan : Plan c e) (piped : e.world.Piped c.inlet (some c.toAlgorithm) none held) :
    after.Piped c.inlet (some c.toAlgorithm) none held := by
  have known : ∀ w, some c.toAlgorithm = some w → w.number < e.world.sinks.length :=
    fun w same => Option.some.inj same ▸ plan.writer
  cases touch with
  | manages manages => exact piped.manages manages
  | opensRead _ opens manages =>
    exact (piped.opensRead opens fun r none => (Option.some_ne_none r none.symm).elim).manages manages
  | opensWrite _ _ opens manages => exact (piped.opensWrite opens known).manages manages
  | copies apart copies manages =>
    exact (piped.copies copies (Option.some_ne_none _).symm
      fun same => apart (Option.some.inj same).symm).manages manages

/-- The main party leaves the feeder's copy where it stands. -/
theorem Fed.ofTouch {fed : Bytes} (h : Fed content e fed) (plan : Plan c e)
    (touch : Touch c e e'.world) (feeder : e'.feeder = e.feeder) (options : e'.options = e.options)
    (files : ∀ s, e.stage = .openOutput s → Files content regular e) : Fed content e' fed := by
  cases h with
  | waiting idle nothing => exact .waiting (feeder.trans idle) nothing
  | finished done all => exact .finished (feeder.trans done) all
  | failed done part => exact .failed (feeder.trans done) part
  | @copying t path node copying named found delivers unwritten =>
    have own := (plan.feeder t copying).2
    have now := options ▸ named
    cases touch with
    | manages manages =>
      exact .copying (feeder.trans copying) now (found_of_spares manages.spares unwritten found)
        (delivers.manages manages) (unwritten.manages manages)
    | opensRead _ opens manages =>
      have still := unwritten.opensRead opens
      have opened := delivers.added opens.untouched ⟨_, opens.sources.symm⟩ fun source isOpen =>
        opens.toAddsSource.others (delivers.own source isOpen)
          (unwritten.grounded.sources t.source source isOpen)
      exact .copying (feeder.trans copying) now
        (found_of_spares manages.spares still (found_of_spares opens.untouched unwritten found))
        (opened.manages manages) (still.manages manages)
    | @opensWrite s output other _ opened _ stage named' opens manages =>
      -- the output file is another one, or it is new
      have different : other ≠ node := by
        rintro rfl
        rcases opens.place with ⟨was, _⟩ | ⟨new, _⟩
        · exact (files s stage).apart path output other named named' found was
        · obtain ⟨_, isFile⟩ := FileTree.bytes?_eq_some_iff.1 unwritten.file
          cases new.symm.trans isFile
      have still := unwritten.opensWrite opens different
      have opened := delivers.added opens.spares
        ⟨[], (List.append_nil _).trans opens.sources.symm⟩ fun source isOpen => opens.toAddsSink.others (delivers.own source isOpen)
          (unwritten.grounded.sources t.source source isOpen)
      exact .copying (feeder.trans copying) now
        (found_of_spares manages.spares still (found_of_spares opens.spares unwritten found))
        (opened.manages manages) (still.manages manages)
    | copies apart copies manages =>
      have still := unwritten.copies copies
      have apart' : c.fromAlgorithm ≠ t.source := fun same => Nat.lt_irrefl _ (same ▸ own)
      exact .copying (feeder.trans copying) now
        (found_of_spares manages.spares still (found_of_spares copies.spares unwritten found))
        ((delivers.copies copies apart').manages manages) (still.manages manages)

/-! ## Turns -/

/-- The feeder begins. -/
theorem Fed.begin {s : Streams} {path : String} {channel : Channel ReadHandle} {world after : World}
    {t : Transfer} (files : Files content regular e) (named : e.options.input = some path)
    (opened : Driver.acquireRead path e.world = .ok (channel, world)) (manages : world.Manages after)
    (source : t.source = channel.pipe) (idle : t.pending = []) (driver : Driver) :
    Fed content { e with driver, world := after, stage := .openOutput s, feeder := some (.copying t) }
      [] := by
  obtain ⟨_, node, _, opens⟩ := Driver.acquireRead_opens opened
  have file : e.world.host.files.bytes? node = some content := by
    rcases files.input path node named opens.found with file | ⟨parent, entries, isDirectory⟩
    · exact file
    · exact absurd isDirectory (opens.plain parent entries)
  have unwritten : e.world.Unwritten node content :=
    ⟨files.grounded, file, files.aside path node named opens.found⟩
  have still := unwritten.opensRead opens
  have delivers : world.Delivers t.source node ([] ++ t.pending) content := by
    rw [idle, source]
    exact .opened files.grounded opened opens.found content
  exact .copying rfl named
    (found_of_spares manages.spares still (found_of_spares opens.untouched unwritten opens.found))
    (delivers.manages manages) (still.manages manages)

theorem Inlet.ofTurn (inlet : Inlet c content received e) (plan : Plan c e) (turn : Turn e e')
    (files : (∃ s w, e.stage = .openInput s w) ∨ (∃ s, e.stage = .openOutput s) →
      Files content regular e) : Inlet c content received e' := by
  obtain ⟨held, piped, fed⟩ := inlet
  have touch := turn.touch plan
  have still (feeder : e'.feeder = e.feeder) : Fed content e' (received ++ held) :=
    fed.ofTouch plan touch feeder turn.console.2 fun s stage => files (.inr ⟨s, stage⟩)
  refine ⟨held, touch.piped_inlet plan piped, ?_⟩
  cases turn with
  | input stage named opened =>
    have has := plan.has
    rw [stage] at has
    have nothing : received ++ held = [] := by
      cases fed with
      | waiting _ nothing => exact nothing
      | copying copying => exact absurd copying (has.2.2.1 ▸ Option.some_ne_none _).symm
      | finished done => exact absurd done (has.2.2.1 ▸ Option.some_ne_none _).symm
      | failed done => exact absurd done (has.2.2.1 ▸ Option.some_ne_none _).symm
    rw [nothing]
    exact .begin (files (.inl ⟨_, _, stage⟩)) named opened
      ((World.record_quiet _ _).manages.trans (World.holdSource_quiet _ _).manages) rfl rfl _
  | halts halts => cases halts <;> exact still rfl
  | _ => exact still rfl

/-- A source that gives nothing more has given everything. -/
theorem all_of_read {r : ReadHandle} {node : Nat} {drawn : Bytes} {world after : World}
    (delivers : world.Delivers r node drawn content) (unwritten : world.Unwritten node content)
    (done : world.read r bufferSize = some (.ok [], after)) : drawn = content := by
  rcases World.read_cases done with ⟨_, closed, _⟩ | ⟨source, _, _, uses⟩
  · cases closed
  · obtain ⟨bytes, _, given, _, _, all⟩ :=
      delivers.answers uses.found unwritten.file List.prefix_rfl bufferSize
    cases done.symm.trans given
    exact delivers.part.eq_of_length_le (all rfl (by decide)).length_le

theorem Inlet.ofFeeding (inlet : Inlet c content received e) (plan : Plan c e)
    (feeding : Feeding e e') : Inlet c content received e' := by
  obtain ⟨held, piped, fed⟩ := inlet
  obtain ⟨t, between, copying, copies, manages⟩ := feeding.touch
  have sink := (plan.feeder t copying).1
  have part := fed.part
  cases fed with
  | waiting idle => cases copying.symm.trans idle
  | finished done => cases copying.symm.trans done
  | failed done => cases copying.symm.trans done
  | @copying t' path node copying' named found delivers unwritten =>
    cases copying.symm.trans copying'
    have still := unwritten.copies copies
    have found' := found_of_spares manages.spares still
      (found_of_spares copies.spares unwritten found)
    cases feeding with
    | onward feeder goes =>
      cases feeder.symm.trans copying
      cases goes with
      | @fetched bytes _ idle _ read =>
        have went := delivers.read_self unwritten.file List.prefix_rfl read
        simp only [Deed.given, if_pos, idle, List.append_nil] at went
        exact ⟨held, piped.read_ne read (Option.some_ne_none _).symm,
          .copying rfl named found' went (unwritten.read read)⟩
      | @delivered n _ _ written =>
        have went := delivers.write written
        rw [sink] at written
        obtain ⟨_, ⟨_, failed, _⟩ | ⟨m, accepted, now⟩⟩ := piped.write_self written
        · cases failed
        · cases accepted
          refine ⟨_, now, .copying rfl named found' ?_ (unwritten.write written)⟩
          rwa [← List.append_assoc, List.append_assoc _ (t.pending.take n), List.take_append_drop]
    | @done _ result _ feeder goes =>
      cases feeder.symm.trans copying
      cases goes with
      | unread _ read =>
        exact ⟨held, (piped.read_ne read (Option.some_ne_none _).symm).manages
          (t.release_manages _),
          .failed rfl part⟩
      | finished idle read =>
        rw [idle, List.append_nil] at delivers
        exact ⟨held, (piped.read_ne read (Option.some_ne_none _).symm).manages
          (t.release_manages _),
          .finished rfl (all_of_read delivers unwritten read)⟩
      | unwritten _ written =>
        rw [sink] at written
        obtain ⟨_, ⟨_, _, now⟩ | ⟨m, accepted, _⟩⟩ := piped.write_self written
        · exact ⟨held, now.manages (t.release_manages _), .failed rfl part⟩
        · cases accepted

theorem Inlet.ofOthers {took put : Bytes} {world : World} (inlet : Inlet c content received e)
    (plan : Plan c e) (others : c.Others took put e.world world)
    (leaves : LeavesFiles e.options e.world.host world.host) :
    Inlet c content (received ++ took) { e with world } := by
  obtain ⟨held, piped, fed⟩ := inlet
  obtain ⟨rest, rfl, now⟩ := others.piped_inlet piped
  refine ⟨rest, now, ?_⟩
  rw [List.append_assoc]
  cases fed with
  | waiting idle nothing => exact .waiting idle nothing
  | finished done all => exact .finished done all
  | failed done part => exact .failed done part
  | copying copying named found delivers unwritten =>
    have place := leaves.input _ named
    have same := place.node _ found
    exact .copying copying named (place.found.trans found)
      (others.delivers same (Nat.le_of_lt (plan.feeder _ copying).2) delivers)
      (others.unwritten same unwritten)

/-! ## The end of the input -/

/-- The run goes on, and the feeder is still to begin or at work. -/
def Feeds (e : Exchange) : Prop :=
  e.result? = none ∧ ((∃ s w, e.stage = .openInput s w) ∨ ∃ t, e.feeder = some (.copying t))

/-- Meanwhile the input of the algorithm is open. -/
def Supplied (c : Connection) (e : Exchange) : Prop :=
  e.Feeds → ∃ d, e.world.Supplies c.toAlgorithm d c.inlet

/-- A turn that is not the first one of a feeder leaves it at work. -/
theorem Feeds.of_turn (feeds : e'.Feeds) (feeder : e'.feeder = e.feeder)
    (later : ∀ s w, e'.stage ≠ .openInput s w) (going : ∀ result, e.stage ≠ .over result) :
    e.Feeds := by
  refine ⟨result?_eq_none_iff.2 going, .inr ?_⟩
  rcases feeds.2 with ⟨s, w, early⟩ | ⟨t, copying⟩
  · exact absurd early (later s w)
  · exact ⟨t, feeder.symm.trans copying⟩

theorem closeWrite_supplies {d : Nat} {id : WriteFileId} {channel : Channel WriteHandle}
    {world : World} {driver : Driver} (supplies : world.Supplies c.toAlgorithm d c.inlet)
    (found : driver.writeFiles.get? id = some channel) (apart : channel.pipe ≠ c.toAlgorithm) :
    (driver.closeWrite id world).2.2.Supplies c.toAlgorithm d c.inlet := by
  have closed := (supplies.closeSink_ne apart).dropSink_ne apart
  unfold Driver.closeWrite
  rw [found]
  dsimp only
  split
  · exact closed
  · exact closed.record _

theorem Supplied.ofTurn (supplied : Supplied c e) (plan : Plan c e) (turn : Turn e e') :
    Supplied c e' := by
  intro feeds
  have has := plan.has
  have going {stage : Stage} (now : e.stage = stage) (other : ∀ result, stage ≠ .over result) :
      ∀ result, e.stage ≠ .over result := fun result => now ▸ other result
  cases turn with
  | noInput stage _ =>
    rw [stage] at has
    rcases feeds.2 with ⟨_, _, early⟩ | ⟨_, copying⟩
    · cases early
    · cases copying.symm.trans has.2.2.1
  | input stage named opened =>
    obtain ⟨d, supplies⟩ := supplied ⟨result?_eq_none_iff.2 (going stage fun _ => Stage.noConfusion),
      .inl ⟨_, _, stage⟩⟩
    obtain ⟨_, node, source, opens⟩ := Driver.acquireRead_opens opened
    exact ⟨d, ((supplies.opensRead opens).record _).holdSource _⟩
  | noOutput stage _ =>
    obtain ⟨d, supplies⟩ := supplied (feeds.of_turn rfl (fun _ _ => Stage.noConfusion)
      (going stage fun _ => Stage.noConfusion))
    exact ⟨d, supplies.holdSink _⟩
  | output stage named opened =>
    obtain ⟨d, supplies⟩ := supplied (feeds.of_turn rfl (fun _ _ => Stage.noConfusion)
      (going stage fun _ => Stage.noConfusion))
    obtain ⟨_, node, sink, opens⟩ := Driver.acquireWrite_opens opened
    exact ⟨d, ((supplies.opensWrite opens).record _).holdSink _⟩
  | piece stage goes =>
    obtain ⟨d, supplies⟩ := supplied (feeds.of_turn rfl (fun _ _ => Stage.noConfusion)
      (going stage fun _ => Stage.noConfusion))
    exact ⟨d, supplies.copies goes.copies⟩
  | collected stage goes =>
    obtain ⟨d, supplies⟩ := supplied (feeds.of_turn rfl (fun _ _ => Stage.noConfusion)
      (going stage fun _ => Stage.noConfusion))
    exact ⟨d, (supplies.copies goes.copies).dropSink_ne (plan.copies stage goes).1⟩
  | noFile stage _ =>
    exact supplied (feeds.of_turn rfl (fun _ _ => Stage.noConfusion)
      (going stage fun _ => Stage.noConfusion))
  | @flushed s id channel stage output found =>
    obtain ⟨d, supplies⟩ := supplied (feeds.of_turn rfl (fun _ _ => Stage.noConfusion)
      (going stage fun _ => Stage.noConfusion))
    rw [stage] at has
    obtain ⟨_, ⟨w, targets⟩, _⟩ := has
    have apart : channel.pipe ≠ c.toAlgorithm := by
      cases targets with
      | console _ missing _ => cases output.symm.trans missing
      | file _ issued found' sink own =>
        cases output.symm.trans issued
        cases found.symm.trans found'
        exact fun same => Nat.lt_irrefl _ (same ▸ sink ▸ own)
    exact ⟨d, closeWrite_supplies supplies found apart⟩
  | noFeeder stage _ idle =>
    rcases feeds.2 with ⟨_, _, early⟩ | ⟨_, copying⟩
    · cases early
    · cases copying.symm.trans idle
  | joined stage feeder _ =>
    rcases feeds.2 with ⟨_, _, early⟩ | ⟨_, copying⟩
    · cases early
    · cases copying.symm.trans feeder
  | halts halts =>
    have ended := feeds.1
    cases halts <;> cases ended

theorem Supplied.ofFeeding (supplied : Supplied c e) (plan : Plan c e) (feeding : Feeding e e') :
    Supplied c e' := by
  intro feeds
  have has := plan.has
  obtain ⟨t, between, copying, copies, manages⟩ := feeding.touch
  cases feeding with
  | onward feeder goes =>
    obtain ⟨d, supplies⟩ := supplied ⟨feeds.1, .inr ⟨t, copying⟩⟩
    exact ⟨d, supplies.copies goes.copies⟩
  | done feeder goes =>
    rcases feeds.2 with ⟨s, w, early⟩ | ⟨_, copying'⟩
    · rw [show e.stage = .openInput s w from early] at has
      cases copying.symm.trans has.2.2.1
    · cases copying'

theorem Supplied.ofOthers {took put : Bytes} {world : World} (supplied : Supplied c e)
    (others : c.Others took put e.world world) : Supplied c { e with world } := by
  intro feeds
  obtain ⟨d, supplies⟩ := supplied feeds
  exact ⟨d, others.supplies supplies⟩

end AlgorithmDriver.CommandLine.Exchange

import AlgorithmDriver.Proofs.Driver.Lending
import AlgorithmDriver.Proofs.Driver.Takings
import Mathlib.Data.List.Nodup

/-!
# What is released, and how

Whatever leaves a table is released by the one who took it out.

* `Change.Handover` says who releases what: each resource at most once, and what was there when
  everything was taken out by nobody else (`Change.Books.handover`).
* What is under way was registered under its id before (`Stage.Known`, `Run.known`).
* An instance that has been ended was waited for (`Run.ended`).
* A channel that has been released was flushed and is closed for good (`Run.releasedWrite`,
  `Run.releasedRead`).
-/

namespace AlgorithmDriver

open Table (Change)

/-! ## Who releases what -/

namespace Table.Change

variable {resource : Resource} {α : Type} {past before after : List (Change resource α)}
  {closer : Closer} {id : Id resource} {value : α}

theorem Live.mem (live : Live past id value) : .issued id value ∈ past := by
  obtain ⟨before, after, rfl, _⟩ := live
  exact List.mem_append_right _ List.mem_cons_self

/-- What was registered, and no caller closed, is taken out when everything is, unless everything
was taken out before. -/
theorem takenBy_everything (issued : .issued id value ∈ before) (unclosed : .closed id ∉ before) :
    TakenBy (before ++ .drained :: after) .everything id := by
  obtain ⟨first, second, rfl⟩ := List.append_of_mem issued
  rw [List.mem_append, List.mem_cons, not_or, not_or] at unclosed
  by_cases drained : .drained ∈ second
  · obtain ⟨earlier, later, rfl, kept⟩ := List.eq_append_cons_of_mem drained
    refine ⟨first ++ .issued id value :: earlier, later ++ .drained :: after, value, ?_, ?_⟩
    · simp [ofCloser]
    · exact ⟨first, earlier, rfl, fun mem => unclosed.2.2 (List.mem_append_left _ mem), kept⟩
  · exact ⟨_, after, value, rfl, first, second, rfl, unclosed.2.2, drained⟩

/-- How the resources of a table pass on to those who take them out, given what has been released
so far, by whom, and what is still under way. -/
structure Handover (past : List (Change resource α)) (released underWay : List (Closer × Id resource)) :
    Prop where
  /-- Nothing is released twice, nor while somebody else is about to. -/
  once : ((released ++ underWay).map Prod.snd).Nodup
  /-- Only what was there is released, by the one who took it out. -/
  taken : ∀ closer id, (closer, id) ∈ released ++ underWay → TakenBy past closer id
  /-- What a caller takes out, the caller releases. -/
  closed : ∀ id, TakenBy past .caller id → (.caller, id) ∈ released ++ underWay
  /-- What was registered before everything was taken out, and no caller had closed, is released by
  whoever took everything out. -/
  drained : ∀ before after, past = before ++ .drained :: after → ∀ id value,
    .issued id value ∈ before → .closed id ∉ before → (.everything, id) ∈ released ++ underWay
  /-- No caller releases that. -/
  alone : ∀ id, (.everything, id) ∈ released ++ underWay → (.caller, id) ∉ released ++ underWay
  /-- Of all callers one at most releases a resource. -/
  calls : ∀ id, released.count (.caller, id) ≤ 1

theorem Books.handover {released underWay : List (Closer × Id resource)}
    (books : Books past (released ++ underWay)) : Handover past released underWay where
  once := books.once
  taken closer id mem := (books.mem_iff closer id).1 mem
  closed id taken := (books.mem_iff .caller id).2 taken
  drained before after split id value issued unclosed := by
    rw [books.mem_iff, split]
    exact takenBy_everything issued unclosed
  alone id everything caller := by
    have same := List.inj_on_of_nodup_map books.once everything caller rfl
    cases same
  calls id := by
    have apart : released.Nodup :=
      (List.nodup_append.1 (List.Nodup.of_map _ books.once)).1
    exact List.nodup_iff_count_le_one.1 apart _

end Table.Change

namespace Instance

theorem signal_since (i : Instance) (world : World) : i.Since (i.signal world).1 :=
  terminate_since i _ _

theorem reap_since (i : Instance) (world : World) : i.Since (i.reap world).1 := by
  rcases i.reap_spec world with ⟨_, same⟩ | ⟨_, _, same⟩ | ⟨_, _, ⟨_, same⟩ | ⟨_, same⟩⟩
  · rw [same]
    exact .refl i
  · rw [same]
    exact .refl i
  · rw [same]
    exact ⟨rfl, rfl, .inr rfl, .inr rfl⟩
  · rw [same]
    exact ⟨rfl, rfl, .inl rfl, .inl rfl⟩

end Instance

theorem Departure.settle_since (d : Departure) (world : World) :
    d.i.Since (d.settle world).1 := by
  unfold settle
  split
  · exact d.i.signal_since world
  · exact d.i.reap_since world
  · exact d.i.poll_since world

/-! ## Files behind streams -/

namespace Host

/-- The description is that of a file, a device or a directory, not of a pipe. -/
def OpensNode (host : Host) (n : Nat) : Prop :=
  ∃ d node, host.descriptions[n]? = some d ∧ d.object = .node node

variable {host after : Host} {n : Nat}

theorem OpensNode.onward (opens : host.OpensNode n) (onward : host.Onward after) :
    after.OpensNode n := by
  obtain ⟨d, node, found, object⟩ := opens
  obtain ⟨e, found, same⟩ := onward.descriptions n d found
  exact ⟨e, node, found, same.object.trans object⟩

theorem openWrite_opensNode {directory : Nat} {path : String} {mode : OpenMode}
    (h : host.openWrite directory path mode = .ok (n, after)) : after.OpensNode n := by
  obtain ⟨files, node, appends, rfl, rfl⟩ := openWrite_adds h
  exact ⟨_, node, List.getElem?_concat_length, rfl⟩

/-- A file takes all that it is given, or refuses it. -/
theorem OpensNode.write (opens : host.OpensNode n) (data : Bytes) :
    (∃ e after, host.write n data = some (.error e, after)) ∨
      ∃ after, host.write n data = some (.ok data.length, after) := by
  obtain ⟨d, node, found, object⟩ := opens
  unfold Host.write
  simp only [found, object]
  split
  · exact .inl ⟨_, _, rfl⟩
  · exact .inr ⟨_, rfl⟩

end Host

/-- What becomes of what is pending when a stream is flushed: there is none, the host takes all of
it, or the host refuses it. -/
inductive Sink.Flushed (sink : Sink) (host : Host) : Except StreamError Unit → Host → Prop
  | nothing (empty : sink.pending = []) : Flushed sink host (.ok ()) host
  | taken {after : Host}
      (written : host.write sink.description sink.pending = some (.ok sink.pending.length, after)) :
      Flushed sink host (.ok ()) after
  | refused {e : Errno} {after : Host}
      (failed : host.write sink.description sink.pending = some (.error e, after)) :
      Flushed sink host (.error (.refused e)) after

theorem Sink.flush_flushed {sink : Sink} {host : Host} (opens : host.OpensNode sink.description) :
    sink.Flushed host (sink.flush host).1 (sink.flush host).2.2 := by
  unfold Sink.flush
  split
  · rename_i empty
    exact .nothing (List.isEmpty_iff.1 empty)
  · rcases opens.write sink.pending with ⟨e, after, failed⟩ | ⟨after, written⟩
    · simp only [failed]
      exact .refused failed
    · simp only [written]
      exact .taken written

namespace World

variable {world : World} {w : WriteHandle}

theorem closeSink_of_open {sink : Sink} (found : world.openSink? w = some sink) :
    (world.closeSink w).1 = (sink.flush world.host).1 ∧
      (world.closeSink w).2.host = (sink.flush world.host).2.2.release sink.description := by
  obtain ⟨⟨stream, holders⟩, entry, rfl⟩ := Option.bind_eq_some_iff.1 found
  have same : (sink.flush world.host).2.1.description = sink.description :=
    (Sink.flush_same sink world.host).description
  unfold closeSink
  rw [entry, ← same]
  exact ⟨rfl, rfl⟩

theorem closeSink_of_shut (shut : world.openSink? w = none) :
    world.closeSink w = (.ok (), world) := by
  unfold openSink? at shut
  unfold closeSink
  split
  · rename_i found
    rw [found] at shut
    cases shut
  · rfl

/-- Dropping a handle of a closed stream only counts it. -/
theorem dropSink_of_shut (shut : world.openSink? w = none) :
    world.dropSink w =
      match world.sink? w with
      | none => world
      | some shared => world.setSink w { shared with holders := shared.holders - 1 } := by
  unfold dropSink
  rw [closeSink_of_shut shut]
  cases found : world.sink? w with
  | none => rfl
  | some shared =>
    dsimp only
    rw [ite_self, found]

theorem dropSink_host_of_shut (shut : world.openSink? w = none) :
    (world.dropSink w).host = world.host := by
  rw [dropSink_of_shut shut]
  split <;> rfl

theorem openSink?_closeSink (world : World) (w : WriteHandle) :
    (world.closeSink w).2.openSink? w = none := by
  cases found : world.sink? w with
  | none =>
    have shut : world.openSink? w = none := by
      unfold openSink?
      rw [found]
      rfl
    rw [closeSink_of_shut shut]
    exact shut
  | some shared => exact openSink?_of_set_self found (closeSink_sinks found)

end World

namespace Stage

variable {start s t u : Stage} {deed : Deed} {deeds before after : List Deed} {closer : Closer}

/-! ## Where things under way come from -/

/-- What is under way out of a table was registered in it. -/
structure Known (deeds : List Deed) (s : Stage) : Prop where
  leaving : ∀ d ∈ s.leaving,
    ∃ first, .issued d.id first ∈ Notice.algorithms (notices deeds) ∧ first.Since d.i
  reads : ∀ c ∈ s.closingReads, .issued c.id c.value ∈ Notice.readFiles (notices deeds)
  writes : ∀ c ∈ s.closingWrites, .issued c.id c.value ∈ Notice.writeFiles (notices deeds)

theorem mem_algorithms_append {change : Change .algorithm Instance}
    (mem : change ∈ Notice.algorithms (notices deeds)) (more : List Deed) :
    change ∈ Notice.algorithms (notices (deeds ++ more)) := by
  unfold Notice.algorithms notices at mem ⊢
  rw [List.map_append, List.filterMap_append]
  exact List.mem_append_left _ mem

theorem mem_readFiles_append {change : Change .readFile (Channel ReadHandle)}
    (mem : change ∈ Notice.readFiles (notices deeds)) (more : List Deed) :
    change ∈ Notice.readFiles (notices (deeds ++ more)) := by
  unfold Notice.readFiles notices at mem ⊢
  rw [List.map_append, List.filterMap_append]
  exact List.mem_append_left _ mem

theorem mem_writeFiles_append {change : Change .writeFile (Channel WriteHandle)}
    (mem : change ∈ Notice.writeFiles (notices deeds)) (more : List Deed) :
    change ∈ Notice.writeFiles (notices (deeds ++ more)) := by
  unfold Notice.writeFiles notices at mem ⊢
  rw [List.map_append, List.filterMap_append]
  exact List.mem_append_left _ mem

/-- What is in a table was registered in it. -/
theorem registered {resource : Resource} {α : Type} {R : α → α → Prop} {table : Table resource α}
    {past : List (Change resource α)} (follows : table.Follows R past) {id : Id resource} {value : α}
    (mem : (id, value) ∈ table.toList) : ∃ first, .issued id first ∈ past ∧ R first value := by
  obtain ⟨⟨raw, _⟩, entry, same⟩ := List.mem_map.1 mem
  cases same
  obtain ⟨first, live, since⟩ :=
    follows.found _ value ((Table.mem_entries_iff follows.apart ⟨raw⟩ value).1 entry)
  exact ⟨first, live.mem, since⟩

/-- Nothing is taken out. -/
theorem Known.still (known : s.Known deeds) (leaving : t.leaving ⊆ s.leaving)
    (reads : t.closingReads ⊆ s.closingReads) (writes : t.closingWrites ⊆ s.closingWrites) :
    t.Known (deeds ++ [deed]) where
  leaving d mem := by
    obtain ⟨first, issued, since⟩ := known.leaving d (leaving mem)
    exact ⟨first, mem_algorithms_append issued _, since⟩
  reads c mem := mem_readFiles_append (known.reads c (reads mem)) _
  writes c mem := mem_writeFiles_append (known.writes c (writes mem)) _

theorem Step.known (step : Step s deed t) (follows : s.driver.Follows (notices deeds))
    (known : s.Known deeds) : t.Known (deeds ++ [deed]) := by
  have same {α : Type} (items : List α) : items ⊆ items := fun _ mem => mem
  cases step with
  | takeInstances =>
    have kept : s.Known (deeds ++ [.table (.algorithm .drained)]) :=
      known.still (same _) (same _) (same _)
    refine ⟨fun d mem => ?_, kept.reads, kept.writes⟩
    rcases List.mem_append.1 mem with new | old
    · obtain ⟨⟨id, i⟩, entry, rfl⟩ := List.mem_map.1 new
      obtain ⟨first, issued, since⟩ := registered follows.algorithms entry
      exact ⟨first, mem_algorithms_append issued _, since⟩
    · exact kept.leaving d old
  | @depart d d' leaving goes =>
    obtain ⟨-, rfl, -⟩ := Departure.next_of_goes goes
    have kept : s.Known (deeds ++ [if d.duty = .signal then .signalled d.i.process else .silent]) :=
      known.still (same _) (same _) (same _)
    refine ⟨fun other mem => ?_, kept.reads, kept.writes⟩
    rcases List.mem_cons.1 mem with rfl | old
    · obtain ⟨first, issued, since⟩ := kept.leaving d leaving
      exact ⟨first, issued, since.trans (d.settle_since s.world)⟩
    · exact kept.leaving other (List.mem_of_mem_erase old)
  | depose leaving gone => exact known.still List.erase_subset (same _) (same _)
  | @takeRead id channel found =>
    have kept : s.Known (deeds ++ [.table (.readFile (.closed id))]) :=
      known.still (same _) (same _) (same _)
    refine ⟨kept.leaving, fun c mem => ?_, kept.writes⟩
    rcases List.mem_cons.1 mem with rfl | old
    · obtain ⟨_, live, rfl⟩ := follows.readFiles.found id channel found
      exact mem_readFiles_append live.mem _
    · exact kept.reads c old
  | takeReads =>
    have kept : s.Known (deeds ++ [.table (.readFile .drained)]) :=
      known.still (same _) (same _) (same _)
    refine ⟨kept.leaving, fun c mem => ?_, kept.writes⟩
    rcases List.mem_append.1 mem with new | old
    · obtain ⟨⟨id, channel⟩, entry, rfl⟩ := List.mem_map.1 new
      obtain ⟨_, issued, rfl⟩ := registered follows.readFiles entry
      exact mem_readFiles_append issued _
    · exact kept.reads c old
  | releaseRead closing => exact known.still (same _) List.erase_subset (same _)
  | @takeWrite id channel found =>
    have kept : s.Known (deeds ++ [.table (.writeFile (.closed id))]) :=
      known.still (same _) (same _) (same _)
    refine ⟨kept.leaving, kept.reads, fun c mem => ?_⟩
    rcases List.mem_cons.1 mem with rfl | old
    · obtain ⟨_, live, rfl⟩ := follows.writeFiles.found id channel found
      exact mem_writeFiles_append live.mem _
    · exact kept.writes c old
  | takeWrites =>
    have kept : s.Known (deeds ++ [.table (.writeFile .drained)]) :=
      known.still (same _) (same _) (same _)
    refine ⟨kept.leaving, kept.reads, fun c mem => ?_⟩
    rcases List.mem_append.1 mem with new | old
    · obtain ⟨⟨id, channel⟩, entry, rfl⟩ := List.mem_map.1 new
      obtain ⟨_, issued, rfl⟩ := registered follows.writeFiles entry
      exact mem_writeFiles_append issued _
    · exact kept.writes c old
  | releaseWrite closing => exact known.still (same _) (same _) List.erase_subset
  | spawn | register | look | signal | inputPipe | outputPipe | acquireRead | registerRead | lendRead
    | acquireWrite | registerWrite | lendWrite | holdSource | dropSource | closeSource | read
    | holdSink | dropSink | closeSink | write | flush | record | elsewhere =>
    exact known.still (same _) (same _) (same _)

theorem Run.known (new : start.New) (run : Run start deeds s) : s.Known deeds := by
  induction run with
  | nil =>
    obtain ⟨config, world, rfl⟩ := new.eq
    exact ⟨List.forall_mem_nil _, List.forall_mem_nil _, List.forall_mem_nil _⟩
  | snoc run step ih => exact step.known (run.sound new).follows ih

/-! ## Instances -/

/-- The instance has been ended for good: its process is over and was waited for, and unless it
ended by itself it was killed. -/
structure Ended (deeds : List Deed) (world : World) (id : AlgorithmId) (i : Instance) : Prop where
  issued : ∃ first, .issued id first ∈ Notice.algorithms (notices deeds) ∧ first.Since i
  waited : ∃ p, world.host.process? i.process = some p ∧ p.reaped = true ∧
    ∃ status, p.activity = .ended status
  stopped : (∃ status, world.host.HasEnded i.process status ∧ i.status = .exited status.code) ∨
    i.status = .killed ∧ .signalled i.process ∈ deeds

/-- What is known of an instance that has been waited for. -/
theorem Ended.of_accounted {id : AlgorithmId} {i : Instance}
    (issued : ∃ first, .issued id first ∈ Notice.algorithms (notices deeds) ∧ first.Since i)
    (accounted : i.Accounted s.world deeds) (stopped : i.status ≠ .running)
    (reaped : i.reaped = true) : Ended deeds s.world id i where
  issued := issued
  waited := accounted.waited reaped
  stopped := by
    cases status : i.status with
    | running => exact absurd status stopped
    | notFound => exact absurd status accounted.known
    | exited code =>
      obtain ⟨ending, ended, rfl⟩ := accounted.exited code status
      exact .inl ⟨ending, ended, rfl⟩
    | killed => exact .inr ⟨rfl, (accounted.doomed status).2⟩

theorem Ended.later {id : AlgorithmId} {i : Instance} {world after : World}
    (ended : Ended deeds world id i) (ahead : world.Ahead after) (more : List Deed) :
    Ended (deeds ++ more) after id i where
  issued := by
    obtain ⟨first, issued, since⟩ := ended.issued
    exact ⟨first, mem_algorithms_append issued _, since⟩
  waited := by
    obtain ⟨p, found, told, status, gone⟩ := ended.waited
    obtain ⟨q, found', kept⟩ := ahead.onward.processes _ p found
    obtain ⟨_, found'', gone'⟩ := ahead.later _ status ⟨p, found, gone⟩
    obtain rfl := Option.some.inj (found'.symm.trans found'')
    exact ⟨q, found', kept.reaped told, status, gone'⟩
  stopped := by
    rcases ended.stopped with ⟨status, gone, noted⟩ | ⟨killed, sent⟩
    · exact .inl ⟨status, ahead.later _ status gone, noted⟩
    · exact .inr ⟨killed, List.mem_append_left _ sent⟩

/-- What an instance was when its ending was over. -/
theorem Step.ended (step : Step s deed t) {id : AlgorithmId} {i : Instance}
    (shows : deed = .ended id i) : ∃ d ∈ s.leaving, d.id = id ∧ d.i = i ∧ d.duty = .release := by
  cases step with
  | @depose d leaving gone =>
    cases shows
    exact ⟨d, leaving, rfl, rfl, (Departure.next_of_gone gone).1⟩
  | depart =>
    split at shows <;> cases shows
  | _ => cases shows

/-- Every instance that has been ended was ended for good. -/
theorem Run.ended (new : start.New) (run : Run start deeds s) {id : AlgorithmId} {i : Instance}
    (ended : .ended id i ∈ deeds) : Ended deeds s.world id i := by
  induction run with
  | nil => cases ended
  | snoc run step ih =>
    rcases List.mem_append.1 ended with old | last
    · exact (ih old).later step.ahead _
    · obtain ⟨d, leaving, rfl, rfl, release⟩ := step.ended (List.mem_singleton.1 last).symm
      have accounted := run.accounted new
      have ready : d.i.status ≠ .running ∧ d.i.reaped = true := by
        have ready := accounted.leaving d leaving
        unfold Departure.Ready at ready
        rw [release] at ready
        exact ready
      have known := accounted.instances d.i
        ((instances_of_leaving leaving).mem_iff.2 List.mem_cons_self)
      exact (Ended.of_accounted ((run.known new).leaving d leaving) known ready.1 ready.2).later
        step.ahead _

/-! ## Channels -/

/-- A run up to one of its steps and from there on. -/
theorem Run.split (run : Run start deeds s) (split : deeds = before ++ deed :: after) :
    ∃ t u, Run start before t ∧ Step t deed u ∧ Run u after s := by
  induction run generalizing after with
  | nil => cases before <;> cases split
  | @snoc _ s t last run step ih =>
    rcases List.eq_nil_or_concat after with rfl | ⟨after, final, rfl⟩
    · obtain ⟨rfl, same⟩ := List.append_inj' split rfl
      obtain rfl := List.singleton_inj.1 same
      exact ⟨s, t, run, step, .nil⟩
    · rw [List.concat_eq_append, ← List.cons_append, ← List.append_assoc] at split
      obtain ⟨rfl, same⟩ := List.append_inj' split rfl
      obtain rfl := List.singleton_inj.1 same
      obtain ⟨t', u, first, middle, rest⟩ := ih rfl
      refine ⟨t', u, first, middle, ?_⟩
      rw [List.concat_eq_append]
      exact rest.snoc step

/-- Channels to write to lead to files. -/
def OnFiles (s : Stage) : Prop :=
  ∀ channel ∈ s.writes, ∀ sink, s.world.openSink? channel.pipe = some sink →
    s.world.host.OpensNode sink.description

theorem Step.onFiles (step : Step s deed t) (sound : s.Sound start.world deeds)
    (onFiles : s.OnFiles) : t.OnFiles := by
  intro channel mem sink isOpen
  rcases step.mem_writes sound.follows mem with old | ⟨path, opened⟩
  · have station : channel.pipe.number ∈ s.holdings.writeStations :=
      List.mem_append_left _ (List.mem_map_of_mem old)
    have bound := (sound.holdings.issued _ station).2
    obtain ⟨shared, found, shuts, _⟩ :=
      step.sinks_stay.kept _ _ (List.getElem?_eq_getElem bound)
    have stream : shared.stream = some sink := by
      rw [← isOpen]
      exact (congrArg (Option.bind · Shared.stream) found).symm
    obtain ⟨earlier, was, same⟩ := shuts sink stream
    have before : s.world.openSink? channel.pipe = some earlier :=
      (congrArg (Option.bind · Shared.stream) (List.getElem?_eq_getElem bound)).trans was
    rw [same.description]
    exact (onFiles channel old earlier before).onward step.ahead.onward
  · obtain ⟨-, description, host, made, rfl, after⟩ := Driver.acquireWrite_eq_ok_iff.1 opened
    rw [after] at isOpen ⊢
    unfold World.openSink? World.sink? at isOpen
    rw [List.getElem?_concat_length] at isOpen
    cases isOpen
    exact Host.openWrite_opensNode made

theorem Run.onFiles (new : start.New) (run : Run start deeds s) : s.OnFiles := by
  induction run with
  | nil =>
    obtain ⟨config, world, rfl⟩ := new.eq
    exact fun channel mem => nomatch mem
  | snoc run step ih => exact step.onFiles (run.sound new) ih

theorem Step.releasedWrite (step : Step s deed t) {id : WriteFileId} {r : Except StreamError Unit}
    (shows : deed = .releasedWrite closer id r) :
    ∃ channel, ⟨closer, id, channel⟩ ∈ s.closingWrites ∧
      r = (s.world.closeSink channel.pipe).1 ∧
      t.world = (s.world.closeSink channel.pipe).2.dropSink channel.pipe := by
  cases step with
  | @releaseWrite c closing =>
    cases shows
    exact ⟨c.value, closing, rfl, rfl⟩
  | depart =>
    split at shows <;> cases shows
  | _ => cases shows

theorem Step.releasedRead (step : Step s deed t) {id : ReadFileId}
    (shows : deed = .releasedRead closer id) :
    ∃ channel, ⟨closer, id, channel⟩ ∈ s.closingReads ∧
      t.world = (s.world.closeSource channel.pipe).dropSource channel.pipe := by
  cases step with
  | @releaseRead c closing =>
    cases shows
    exact ⟨c.value, closing, rfl⟩
  | depart =>
    split at shows <;> cases shows
  | _ => cases shows

/-- A channel to write to has been released, at the step from `t` to `u`: what was pending was
flushed then, and the stream stays closed for all its handles. -/
structure ReleasedWrite (before : List Deed) (t u s : Stage) (id : WriteFileId)
    (r : Except StreamError Unit) (channel : Channel WriteHandle) : Prop where
  issued : .issued id channel ∈ Notice.writeFiles (notices before)
  flushed : ∀ sink, t.world.openSink? channel.pipe = some sink →
    ∃ host, sink.Flushed t.world.host r host ∧ u.world.host = host.release sink.description
  already : t.world.openSink? channel.pipe = none → r = .ok () ∧ u.world.host = t.world.host
  closed : s.world.isWritable channel.pipe = false

/-- A channel to read from has been released: its stream stays closed for all its handles. -/
structure ReleasedRead (before : List Deed) (s : Stage) (id : ReadFileId)
    (channel : Channel ReadHandle) : Prop where
  issued : .issued id channel ∈ Notice.readFiles (notices before)
  closed : s.world.isReadable channel.pipe = false

theorem Run.releasedWrite (new : start.New) (first : Run start before t) {id : WriteFileId}
    {r : Except StreamError Unit} (step : Step t (.releasedWrite closer id r) u)
    (rest : Run u after s) : ∃ channel, ReleasedWrite before t u s id r channel := by
  obtain ⟨channel, closing, rfl, world⟩ := step.releasedWrite rfl
  have mem : channel ∈ t.writes := List.mem_append_right _
    (List.mem_append_right _ (List.mem_map_of_mem closing))
  have shut := World.openSink?_closeSink t.world channel.pipe
  have host : u.world.host = (t.world.closeSink channel.pipe).2.host := by
    rw [world]
    exact World.dropSink_host_of_shut shut
  refine ⟨channel, (first.known new).writes _ closing, fun sink isOpen => ?_, fun already => ?_, ?_⟩
  · obtain ⟨result, released⟩ := World.closeSink_of_open isOpen
    rw [result]
    exact ⟨_, Sink.flush_flushed (first.onFiles new channel mem sink isOpen), host.trans released⟩
  · rw [World.closeSink_of_shut already] at host ⊢
    exact ⟨rfl, host⟩
  · have station : channel.pipe.number ∈ t.holdings.writeStations :=
      List.mem_append_left _ (List.mem_map_of_mem mem)
    have bound := ((first.sound new).holdings.issued _ station).2
    have found : t.world.sink? channel.pipe = some _ := List.getElem?_eq_getElem bound
    have sinks := World.releaseSink_sinks found
    rw [← world] at sinks
    have gone := rest.sink_shut (World.sink?_of_set_self found sinks) rfl
    rw [Bool.eq_false_iff, Ne, World.isWritable_iff, gone]
    exact Bool.false_ne_true

theorem Run.releasedRead (new : start.New) (first : Run start before t) {id : ReadFileId}
    (step : Step t (.releasedRead closer id) u) (rest : Run u after s) :
    ∃ channel, ReleasedRead before s id channel := by
  obtain ⟨channel, closing, world⟩ := step.releasedRead rfl
  have mem : channel ∈ t.reads := List.mem_append_right _
    (List.mem_append_right _ (List.mem_map_of_mem closing))
  refine ⟨channel, (first.known new).reads _ closing, ?_⟩
  have station : channel.pipe.number ∈ t.holdings.readRefs :=
    List.mem_append_right _ (List.mem_append_left _ (List.mem_map_of_mem mem))
  have bound := (first.sound new).holdings.sources.lt_length station
  have found : t.world.source? channel.pipe = some _ := List.getElem?_eq_getElem bound
  have sources := World.releaseSource_sources found
  rw [← world] at sources
  have gone := rest.source_shut (World.source?_of_set_self found sources) rfl
  rw [Bool.eq_false_iff, Ne, World.isReadable_iff, gone]
  exact Bool.false_ne_true

end Stage

end AlgorithmDriver

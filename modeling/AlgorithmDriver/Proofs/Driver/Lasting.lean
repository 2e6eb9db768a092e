import AlgorithmDriver.Proofs.Driver.Ending

/-!
# How long streams last

A stream that is closed is never opened again, and one that is open is closed in two ways only: one
of its handles is closed, or the last one is dropped.

* `Shared.Stays` says this of the streams before and after something is done, with the numbers of
  the streams that are closed on purpose.  Every operation with handles is of that kind
  (`World.dropSink_stays`, `World.closeSink_stays`, `Instance.Settles.sinks_stay` and the like).
* So is every step on stage (`Stage.Step.sinks_stay`, `Stage.Step.sources_stay`).
-/

namespace AlgorithmDriver

/-! ## Lasting -/

namespace Shared

variable {α : Type}

/-- No stream is lost, and none is opened again.  One that is open stays so, unless it is among
those that are closed on purpose or has no handle left.  Streams that are added are open and
`fresh`.  No stream is left open without a handle. -/
structure Stays (same : α → α → Prop) (closes : Nat → Prop) (fresh : α → Prop)
    (before after : List (Shared α)) : Prop where
  kept : ∀ (n : Nat) (old : Shared α), before[n]? = some old → ∃ new, after[n]? = some new ∧
    (∀ stream', new.stream = some stream' → ∃ stream, old.stream = some stream ∧ same stream stream') ∧
    (old.stream.isSome = true → new.stream.isSome = true ∨ new.holders = 0 ∨ closes n)
  added : ∀ (n : Nat) (new : Shared α), before[n]? = none → after[n]? = some new →
    ∃ stream, new.stream = some stream ∧ fresh stream
  tended : ∀ (n : Nat) (new : Shared α), after[n]? = some new → new.stream.isSome = true →
    (∀ old, before[n]? = some old → old.stream.isSome = true → 0 < old.holders) → 0 < new.holders

namespace Stays

variable {same : α → α → Prop} {closes : Nat → Prop} {fresh : α → Prop}
  {before after : List (Shared α)} {n : Nat} {old new : Shared α}

theorem refl (refl : ∀ stream, same stream stream) (streams : List (Shared α)) :
    Stays same closes fresh streams streams where
  kept _ old found := ⟨old, found, fun stream h => ⟨stream, h, refl stream⟩, fun h => .inl h⟩
  added _ _ missing found := nomatch missing.symm.trans found
  tended _ new found isOpen earlier := earlier new found isOpen

/-- One stream is changed. -/
theorem set (refl : ∀ stream, same stream stream) (found : before[n]? = some old)
    (shuts : ∀ stream', new.stream = some stream' →
      ∃ stream, old.stream = some stream ∧ same stream stream')
    (stays : old.stream.isSome = true →
      new.stream.isSome = true ∨ new.holders = 0 ∨ closes n)
    (tended : new.stream.isSome = true → (old.stream.isSome = true → 0 < old.holders) →
      0 < new.holders) :
    Stays same closes fresh before (before.set n new) where
  kept m other found' := by
    by_cases this : n = m
    · subst this
      obtain rfl := Option.some.inj (found.symm.trans found')
      exact ⟨new, List.getElem?_set_self (List.getElem?_eq_some_iff.1 found).1, shuts, stays⟩
    · exact ⟨other, (List.getElem?_set_ne this).trans found',
        fun stream h => ⟨stream, h, refl stream⟩, fun h => .inl h⟩
  added m other missing found' := by
    have bound := (List.getElem?_eq_some_iff.1 found').1
    rw [List.length_set] at bound
    exact absurd bound (Nat.not_lt.2 (List.getElem?_eq_none_iff.1 missing))
  tended m other found' isOpen earlier := by
    by_cases this : n = m
    · subst this
      rw [List.getElem?_set_self (List.getElem?_eq_some_iff.1 found).1] at found'
      cases found'
      exact tended isOpen (earlier old found)
    · rw [List.getElem?_set_ne this] at found'
      exact earlier other found' isOpen

/-- A stream is added. -/
theorem append (refl : ∀ stream, same stream stream) (before : List (Shared α))
    (held : 0 < new.holders) (isFresh : ∃ stream, new.stream = some stream ∧ fresh stream) :
    Stays same closes fresh before (before ++ [new]) where
  kept _ old found := ⟨old, (List.getElem?_append_left (List.getElem?_eq_some_iff.1 found).1).trans
    found, fun stream h => ⟨stream, h, refl stream⟩, fun h => .inl h⟩
  added m other missing found := by
    rw [List.getElem?_append_right (List.getElem?_eq_none_iff.1 missing)] at found
    obtain rfl := List.mem_singleton.1 (List.mem_of_getElem? found)
    exact isFresh
  tended m other found isOpen earlier := by
    by_cases old : m < before.length
    · rw [List.getElem?_append_left old] at found
      exact earlier other found isOpen
    · rw [List.getElem?_append_right (Nat.le_of_not_lt old)] at found
      obtain rfl := List.mem_singleton.1 (List.mem_of_getElem? found)
      exact held

theorem mono {closes' : Nat → Prop} (stays : Stays same closes fresh before after)
    (more : ∀ n, closes n → closes' n) : Stays same closes' fresh before after where
  kept n old found := by
    obtain ⟨new, found', shuts, kept⟩ := stays.kept n old found
    refine ⟨new, found', shuts, fun isOpen => ?_⟩
    rcases kept isOpen with still | gone | closed
    · exact .inl still
    · exact .inr (.inl gone)
    · exact .inr (.inr (more n closed))
  added := stays.added
  tended := stays.tended

theorem length_le (stays : Stays same closes fresh before after) :
    before.length ≤ after.length := by
  refine Nat.le_of_not_lt fun bound => ?_
  obtain ⟨new, found, _⟩ := stays.kept after.length _ (List.getElem?_eq_getElem bound)
  exact Nat.lt_irrefl _ (List.getElem?_eq_some_iff.1 found).1

/-- A handle is copied. -/
theorem hold (refl : ∀ stream, same stream stream) (found : before[n]? = some old) :
    Stays same closes fresh before (before.set n { old with holders := old.holders + 1 }) :=
  .set refl found (fun stream h => ⟨stream, h, refl stream⟩) (fun h => .inl h)
    fun _ _ => Nat.succ_pos _

/-- A handle is dropped. -/
theorem drop (refl : ∀ stream, same stream stream) (found : before[n]? = some old) :
    Stays same closes fresh before (before.set n
      { stream := if old.holders ≤ 1 then none else old.stream, holders := old.holders - 1 }) := by
  refine .set refl found (fun stream h => ?_) (fun h => ?_) fun h _ => ?_
  · dsimp only at h
    split at h
    · cases h
    · exact ⟨stream, h, refl stream⟩
  · by_cases last : old.holders ≤ 1
    · exact .inr (.inl (Nat.sub_eq_zero_of_le last))
    · left
      rw [if_neg last]
      exact h
  · dsimp only at h
    split at h
    · cases h
    · rename_i more
      exact Nat.sub_pos_of_lt (Nat.lt_of_not_le more)

/-- A stream is closed. -/
theorem close (refl : ∀ stream, same stream stream) (found : before[n]? = some old)
    (holders : Nat) : Stays same (· = n) fresh before (before.set n { stream := none, holders }) :=
  .set refl found (fun _ h => nomatch h) (fun _ => .inr (.inr rfl)) fun h _ => nomatch h

/-- A stream is used. -/
theorem use (refl : ∀ stream, same stream stream) {stream stream' : α} {holders : Nat}
    (found : before[n]? = some { stream := some stream, holders }) (kept : same stream stream') :
    Stays same closes fresh before (before.set n { stream := some stream', holders }) := by
  refine .set refl found (fun _ h => ?_) (fun _ => .inl rfl) fun _ earlier => earlier rfl
  cases h
  exact ⟨stream, rfl, kept⟩

end Stays

end Shared

namespace World

variable {world after : World} {closes : Nat → Prop}

/-! ## Reading -/

section Sources

variable {r : ReadHandle} {fresh : Source → Prop}

theorem holdSource_stays (world : World) (r : ReadHandle) :
    Shared.Stays Source.Same closes fresh world.sources (world.holdSource r).sources := by
  cases found : world.source? r with
  | none =>
    rw [holdSource_of_none found]
    exact .refl Source.Same.refl _
  | some shared =>
    rw [holdSource_sources found]
    exact .hold Source.Same.refl found

theorem dropSource_stays (world : World) (r : ReadHandle) :
    Shared.Stays Source.Same closes fresh world.sources (world.dropSource r).sources := by
  cases found : world.source? r with
  | none =>
    rw [dropSource_of_none found]
    exact .refl Source.Same.refl _
  | some shared =>
    rw [dropSource_sources found]
    exact .drop Source.Same.refl found

theorem closeSource_stays (world : World) (r : ReadHandle) :
    Shared.Stays Source.Same (· = r.number) fresh world.sources (world.closeSource r).sources := by
  cases found : world.source? r with
  | none =>
    rw [closeSource_of_none found]
    exact .refl Source.Same.refl _
  | some shared =>
    rw [closeSource_sources found]
    exact .close Source.Same.refl found _

theorem releaseSource_stays (world : World) (r : ReadHandle) :
    Shared.Stays Source.Same (· = r.number) fresh world.sources
      ((world.closeSource r).dropSource r).sources := by
  cases found : world.source? r with
  | none =>
    rw [closeSource_of_none found]
    exact dropSource_stays world r
  | some shared =>
    rw [releaseSource_sources found]
    exact .close Source.Same.refl found _

theorem read_stays {count : Nat} {result : Except StreamError Bytes}
    (h : world.read r count = some (result, after)) :
    Shared.Stays Source.Same closes fresh world.sources after.sources := by
  rcases read_outcome h with ⟨-, -, rfl⟩ | ⟨source, source', holders, host, found, done, rfl⟩
  · exact .refl Source.Same.refl _
  · exact .use Source.Same.refl found (Source.read_same done)

end Sources

/-! ## Writing -/

section Sinks

variable {w : WriteHandle} {fresh : Sink → Prop}

theorem holdSink_stays (world : World) (w : WriteHandle) :
    Shared.Stays Sink.Same closes fresh world.sinks (world.holdSink w).sinks := by
  cases found : world.sink? w with
  | none =>
    rw [holdSink_of_none found]
    exact .refl Sink.Same.refl _
  | some shared =>
    rw [holdSink_sinks found]
    exact .hold Sink.Same.refl found

theorem dropSink_stays (world : World) (w : WriteHandle) :
    Shared.Stays Sink.Same closes fresh world.sinks (world.dropSink w).sinks := by
  cases found : world.sink? w with
  | none =>
    rw [dropSink_of_none found]
    exact .refl Sink.Same.refl _
  | some shared =>
    rw [dropSink_sinks found]
    exact .drop Sink.Same.refl found

theorem closeSink_stays (world : World) (w : WriteHandle) :
    Shared.Stays Sink.Same (· = w.number) fresh world.sinks (world.closeSink w).2.sinks := by
  cases found : world.sink? w with
  | none =>
    rw [closeSink_of_none found]
    exact .refl Sink.Same.refl _
  | some shared =>
    rw [closeSink_sinks found]
    exact .close Sink.Same.refl found _

theorem releaseSink_stays (world : World) (w : WriteHandle) :
    Shared.Stays Sink.Same (· = w.number) fresh world.sinks
      ((world.closeSink w).2.dropSink w).sinks := by
  cases found : world.sink? w with
  | none =>
    rw [closeSink_of_none found]
    exact dropSink_stays world w
  | some shared =>
    rw [releaseSink_sinks found]
    exact .close Sink.Same.refl found _

theorem write_stays {data : Bytes} {result : Except StreamError Nat}
    (h : world.write w data = some (result, after)) :
    Shared.Stays Sink.Same closes fresh world.sinks after.sinks := by
  rcases write_outcome h with ⟨-, -, rfl⟩ | ⟨sink, sink', holders, host, found, done, rfl⟩
  · exact .refl Sink.Same.refl _
  · exact .use Sink.Same.refl found (Sink.write_same done)

theorem flush_stays (world : World) (w : WriteHandle) :
    Shared.Stays Sink.Same closes fresh world.sinks (world.flush w).2.sinks := by
  rcases world.flush_outcome w with ⟨-, same⟩ | ⟨sink, holders, found, same⟩
  · rw [same]
    exact .refl Sink.Same.refl _
  · rw [same]
    exact .use Sink.Same.refl found (Sink.flush_same sink world.host)

end Sinks

end World

namespace Instance.Settles

variable {i i' : Instance} {world after : World} {closes : Nat → Prop}

theorem sources_stay {fresh : Source → Prop} (settles : i.Settles world i' after) :
    Shared.Stays Source.Same closes fresh world.sources after.sources := by
  cases settles with
  | kept _ _ sources _ =>
    rw [sources]
    exact .refl Source.Same.refl _
  | ended between _ _ sources _ =>
    rw [Instance.releasePipes_sources]
    cases i.output with
    | some pipe =>
      rw [World.dropSource_congr sources pipe]
      exact World.dropSource_stays world pipe
    | none =>
      rw [sources]
      exact .refl Source.Same.refl _

theorem sinks_stay {fresh : Sink → Prop} (settles : i.Settles world i' after) :
    Shared.Stays Sink.Same closes fresh world.sinks after.sinks := by
  cases settles with
  | kept _ _ _ sinks =>
    rw [sinks]
    exact .refl Sink.Same.refl _
  | ended between _ _ _ sinks =>
    rw [Custody.releasePipes_sinks]
    cases i.input with
    | owned pipe =>
      dsimp only
      rw [World.dropSink_congr sinks pipe]
      exact World.dropSink_stays world pipe
    | lent pipe =>
      dsimp only
      rw [sinks]
      exact .refl Sink.Same.refl _
    | released =>
      dsimp only
      rw [sinks]
      exact .refl Sink.Same.refl _

end Instance.Settles

/-- An instance that drops all its handles settles. -/
theorem Instance.releasePipes_settles (i : Instance) (world : World) :
    i.Settles world (i.terminate .killed world).1 (i.releasePipes world) :=
  .ended world rfl rfl rfl rfl

theorem Driver.inputPipe_stays {closes : Nat → Prop} {fresh : Sink → Prop} (driver : Driver) (id : AlgorithmId)
    (world : World) :
    Shared.Stays Sink.Same closes fresh world.sinks (driver.inputPipe id world).2.2.sinks :=
  driver.inputPipe_world id world
    (P := fun after => Shared.Stays Sink.Same closes fresh world.sinks after.sinks)
    (.refl Sink.Same.refl _) (World.holdSink_stays world)

theorem Driver.outputPipe_stays {closes : Nat → Prop} {fresh : Source → Prop} (driver : Driver) (id : AlgorithmId)
    (world : World) :
    Shared.Stays Source.Same closes fresh world.sources (driver.outputPipe id world).2.2.sources :=
  driver.outputPipe_world id world
    (P := fun after => Shared.Stays Source.Same closes fresh world.sources after.sources)
    (.refl Source.Same.refl _) (World.holdSource_stays world)

/-- The pipes of an instance that is started are new. -/
theorem Instance.pipedHost_made {policy : ErrorPolicy} {world : World} {errors : Nat} {host : Host}
    (opened : openErrors policy world = .ok (errors, host)) (program : Program Nat) :
    world.host.Made (pipedHost host program errors) host.makePipe.2.1 ∧
      world.host.Made (pipedHost host program errors) host.makePipe.2.2.makePipe.1 := by
  have before := openErrors_onward opened
  have after (input output : Nat) (host : Host) :
      host.Onward (host.start program input output errors).2 := Host.start_onward _ _ _ _ _
  exact ⟨host.makePipe_made.2.onward before ((Host.makePipe_onward _).trans (after _ _ _)),
    host.makePipe.2.2.makePipe_made.1.onward (before.trans (Host.makePipe_onward _)) (after _ _ _)⟩

/-! ## On a stage -/

namespace Stage

variable {start s t u : Stage} {deed : Deed} {deeds more : List Deed}

/-- The stream to read from with the number `n` is closed on purpose, through one of its handles or
with its channel. -/
def ClosesSource (s : Stage) (deed : Deed) (n : Nat) : Prop :=
  deed = .closedSource ⟨n⟩ ∨
    ∃ c ∈ s.closingReads, c.value.pipe.number = n ∧ deed = .releasedRead c.closer c.id

/-- The stream to write to with the number `n` is closed on purpose, through one of its handles or
with its channel. -/
def ClosesSink (s : Stage) (deed : Deed) (n : Nat) : Prop :=
  (∃ r, deed = .closedSink ⟨n⟩ r) ∨
    ∃ c ∈ s.closingWrites, c.value.pipe.number = n ∧ ∃ r, deed = .releasedWrite c.closer c.id r

theorem Step.sources_stay (step : Step s deed t) :
    Shared.Stays Source.Same (s.ClosesSource deed)
      (fun source => s.world.host.Made t.world.host source.description)
      s.world.sources t.world.sources := by
  have still {after : World} {fresh : Source → Prop} (same : after.sources = s.world.sources) :
      Shared.Stays Source.Same (s.ClosesSource deed) fresh s.world.sources after.sources := by
    rw [same]
    exact .refl Source.Same.refl _
  cases step with
  | spawn spawned =>
    obtain ⟨command, started⟩ := Driver.spawn_start spawned
    obtain ⟨-, errors, host, program, opened, -, rfl, rfl⟩ := Instance.start_eq_ok_iff.1 started
    exact .append Source.Same.refl _ Nat.one_pos
      ⟨_, rfl, (Instance.pipedHost_made opened program).2⟩
  | @look id i _ => exact (i.poll_settles s.world).sources_stay
  | @signal id i _ _ => exact (i.signal_settles s.world).sources_stay
  | inputPipe id =>
    exact still (s.driver.inputPipe_world id s.world (P := (·.sources = s.world.sources)) rfl
      (World.holdSink_sources s.world))
  | outputPipe id => exact Driver.outputPipe_stays s.driver id s.world
  | @depart d d' leaving goes =>
    obtain ⟨-, rfl, next⟩ := Departure.next_of_goes goes
    rw [next]
    exact (d.settle_settles s.world).sources_stay
  | @depose d leaving gone =>
    rw [(Departure.next_of_gone gone).2]
    exact (d.i.releasePipes_settles s.world).sources_stay
  | acquireRead opened =>
    obtain ⟨-, description, host, made, _, rfl, rfl⟩ := Driver.acquireRead_eq_ok_iff.1 opened
    exact .append Source.Same.refl _ Nat.one_pos ⟨_, rfl, (Host.openRead_adds made).made⟩
  | @lendRead id channel _ => exact World.holdSource_stays s.world channel.pipe
  | @releaseRead c closing =>
    exact (World.releaseSource_stays s.world c.value.pipe).mono fun n same =>
      .inr ⟨c, closing, same.symm, rfl⟩
  | acquireWrite opened =>
    obtain ⟨-, description, host, _, rfl, rfl⟩ := Driver.acquireWrite_eq_ok_iff.1 opened
    exact still rfl
  | @lendWrite id channel _ => exact still (World.holdSink_sources s.world channel.pipe)
  | @releaseWrite c _ =>
    exact still ((World.dropSink_sources _ c.value.pipe).trans (World.closeSink_sources s.world _))
  | @holdSource r _ => exact World.holdSource_stays s.world r
  | @dropSource r _ => exact World.dropSource_stays s.world r
  | @closeSource r _ =>
    refine (World.closeSource_stays s.world r).mono fun n same => .inl ?_
    rw [same]
  | read _ done => exact World.read_stays done
  | @holdSink w _ => exact still (World.holdSink_sources s.world w)
  | @dropSink w _ => exact still (World.dropSink_sources s.world w)
  | @closeSink w _ => exact still (World.closeSink_sources s.world w)
  | write _ done => exact still (World.write_sources done)
  | @flush w _ => exact still (World.flush_sources s.world w)
  | elsewhere elsewhere => exact still elsewhere.sources
  | register _ | takeInstances | registerRead _ | takeRead _ | takeReads | registerWrite _
    | takeWrite _ | takeWrites | record _ => exact still rfl

theorem Step.sinks_stay (step : Step s deed t) :
    Shared.Stays Sink.Same (s.ClosesSink deed)
      (fun sink => s.world.host.Made t.world.host sink.description)
      s.world.sinks t.world.sinks := by
  have still {after : World} {fresh : Sink → Prop} (same : after.sinks = s.world.sinks) :
      Shared.Stays Sink.Same (s.ClosesSink deed) fresh s.world.sinks after.sinks := by
    rw [same]
    exact .refl Sink.Same.refl _
  cases step with
  | spawn spawned =>
    obtain ⟨command, started⟩ := Driver.spawn_start spawned
    obtain ⟨-, errors, host, program, opened, -, rfl, rfl⟩ := Instance.start_eq_ok_iff.1 started
    exact .append Sink.Same.refl _ Nat.one_pos
      ⟨_, rfl, (Instance.pipedHost_made opened program).1⟩
  | @look id i _ => exact (i.poll_settles s.world).sinks_stay
  | @signal id i _ _ => exact (i.signal_settles s.world).sinks_stay
  | inputPipe id => exact Driver.inputPipe_stays s.driver id s.world
  | outputPipe id =>
    exact still (s.driver.outputPipe_world id s.world (P := (·.sinks = s.world.sinks)) rfl
      (World.holdSource_sinks s.world))
  | @depart d d' leaving goes =>
    obtain ⟨-, rfl, next⟩ := Departure.next_of_goes goes
    rw [next]
    exact (d.settle_settles s.world).sinks_stay
  | @depose d leaving gone =>
    rw [(Departure.next_of_gone gone).2]
    exact (d.i.releasePipes_settles s.world).sinks_stay
  | acquireRead opened =>
    obtain ⟨-, description, host, _, _, rfl, rfl⟩ := Driver.acquireRead_eq_ok_iff.1 opened
    exact still rfl
  | @lendRead id channel _ => exact still (World.holdSource_sinks s.world channel.pipe)
  | @releaseRead c _ =>
    exact still ((World.dropSource_sinks _ c.value.pipe).trans
      (World.closeSource_sinks s.world _))
  | acquireWrite opened =>
    obtain ⟨-, description, host, made, rfl, rfl⟩ := Driver.acquireWrite_eq_ok_iff.1 opened
    exact .append Sink.Same.refl _ Nat.one_pos ⟨_, rfl, (Host.openWrite_adds made).made⟩
  | @lendWrite id channel _ => exact World.holdSink_stays s.world channel.pipe
  | @releaseWrite c closing =>
    exact (World.releaseSink_stays s.world c.value.pipe).mono fun n same =>
      .inr ⟨c, closing, same.symm, _, rfl⟩
  | @holdSource r _ => exact still (World.holdSource_sinks s.world r)
  | @dropSource r _ => exact still (World.dropSource_sinks s.world r)
  | @closeSource r _ => exact still (World.closeSource_sinks s.world r)
  | read _ done => exact still (World.read_sinks done)
  | @holdSink w _ => exact World.holdSink_stays s.world w
  | @dropSink w _ => exact World.dropSink_stays s.world w
  | @closeSink w _ =>
    refine (World.closeSink_stays s.world w).mono fun n same => .inl ⟨(s.world.closeSink w).1, ?_⟩
    rw [same]
  | write _ done => exact World.write_stays done
  | @flush w _ => exact World.flush_stays s.world w
  | elsewhere elsewhere => exact still elsewhere.sinks
  | register _ | takeInstances | registerRead _ | takeRead _ | takeReads | registerWrite _
    | takeWrite _ | takeWrites | record _ => exact still rfl

/-! ## For ever -/

/-- What is closed stays closed. -/
theorem Run.source_shut (run : Run s deeds t) {r : ReadHandle} {shared : Shared Source}
    (found : s.world.source? r = some shared) (shut : shared.stream = none) :
    t.world.openSource? r = none := by
  have stays : ∃ shared, t.world.source? r = some shared ∧ shared.stream = none := by
    induction run with
    | nil => exact ⟨shared, found, shut⟩
    | snoc _ step ih =>
      obtain ⟨old, found, shut⟩ := ih
      obtain ⟨new, found', shuts, _⟩ := step.sources_stay.kept r.number old found
      refine ⟨new, found', Option.eq_none_iff_forall_not_mem.2 fun stream h => ?_⟩
      obtain ⟨_, was, _⟩ := shuts stream h
      cases shut.symm.trans was
  obtain ⟨shared, found, shut⟩ := stays
  unfold World.openSource?
  rw [found]
  exact shut

theorem Run.sink_shut (run : Run s deeds t) {w : WriteHandle} {shared : Shared Sink}
    (found : s.world.sink? w = some shared) (shut : shared.stream = none) :
    t.world.openSink? w = none := by
  have stays : ∃ shared, t.world.sink? w = some shared ∧ shared.stream = none := by
    induction run with
    | nil => exact ⟨shared, found, shut⟩
    | snoc _ step ih =>
      obtain ⟨old, found, shut⟩ := ih
      obtain ⟨new, found', shuts, _⟩ := step.sinks_stay.kept w.number old found
      refine ⟨new, found', Option.eq_none_iff_forall_not_mem.2 fun stream h => ?_⟩
      obtain ⟨_, was, _⟩ := shuts stream h
      cases shut.symm.trans was
  obtain ⟨shared, found, shut⟩ := stays
  unfold World.openSink?
  rw [found]
  exact shut

end Stage

end AlgorithmDriver

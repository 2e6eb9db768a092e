import AlgorithmDriver.Proofs.Driver.Lasting

/-!
# Handles that instances lend

The handles of the input and the output of an instance belong to the callers that asked for them.
The stream of such a handle is never that of a channel (`Stage.Lent`), and so it stays open for as
long as somebody holds the handle and nobody closes it, whatever becomes of the instance and of the
driver (`Stage.Run.lent_sink`, `Stage.Run.lent_source`).
-/

namespace AlgorithmDriver

namespace Stage

variable {start s t : Stage} {deed : Deed} {deeds more : List Deed}

/-! ## Where channels come from -/

/-- A channel was there before, or it is opened. -/
theorem Step.mem_reads (step : Step s deed t) (follows : s.driver.Follows (notices deeds))
    {channel : Channel ReadHandle} (mem : channel ∈ t.reads) :
    channel ∈ s.reads ∨ ∃ path, Driver.acquireRead path s.world = .ok (channel, t.world) := by
  cases step with
  | acquireRead opened =>
    rcases List.mem_cons.1 (List.perm_middle.mem_iff.1 mem) with rfl | old
    · exact .inr ⟨_, opened⟩
    · exact .inl old
  | registerRead opened => exact .inl ((registerRead_perm opened).mem_iff.2 mem)
  | takeRead found => exact .inl ((takeRead_perm follows.readFiles.apart found).mem_iff.2 mem)
  | takeReads => exact .inl ((takeReads_perm s).mem_iff.2 mem)
  | releaseRead closing =>
    exact .inl ((reads_of_closing closing).mem_iff.2 (List.mem_cons_of_mem _ mem))
  | inputPipe id =>
    left
    have same := (inputPipe_tables s.driver id s.world).1
    change channel ∈ (s.driver.inputPipe id s.world).2.1.readFiles.values ++ _ at mem
    rw [same] at mem
    exact mem
  | outputPipe id =>
    left
    have same := s.driver.outputPipe_driver id s.world
    change channel ∈ (s.driver.outputPipe id s.world).2.1.readFiles.values ++ _ at mem
    rw [same] at mem
    exact mem
  | spawn | register | look | signal | takeInstances | depart | depose | lendRead | acquireWrite
    | registerWrite | lendWrite | takeWrite | takeWrites | releaseWrite | holdSource | dropSource
    | closeSource | read | holdSink | dropSink | closeSink | write | flush | record | elsewhere =>
    exact .inl mem

theorem Step.mem_writes (step : Step s deed t) (follows : s.driver.Follows (notices deeds))
    {channel : Channel WriteHandle} (mem : channel ∈ t.writes) :
    channel ∈ s.writes ∨ ∃ path, Driver.acquireWrite path s.world = .ok (channel, t.world) := by
  cases step with
  | acquireWrite opened =>
    rcases List.mem_cons.1 (List.perm_middle.mem_iff.1 mem) with rfl | old
    · exact .inr ⟨_, opened⟩
    · exact .inl old
  | registerWrite opened => exact .inl ((registerWrite_perm opened).mem_iff.2 mem)
  | takeWrite found => exact .inl ((takeWrite_perm follows.writeFiles.apart found).mem_iff.2 mem)
  | takeWrites => exact .inl ((takeWrites_perm s).mem_iff.2 mem)
  | releaseWrite closing =>
    exact .inl ((writes_of_closing closing).mem_iff.2 (List.mem_cons_of_mem _ mem))
  | inputPipe id =>
    left
    have same := (inputPipe_tables s.driver id s.world).2
    change channel ∈ (s.driver.inputPipe id s.world).2.1.writeFiles.values ++ _ at mem
    rw [same] at mem
    exact mem
  | outputPipe id =>
    left
    have same := s.driver.outputPipe_driver id s.world
    change channel ∈ (s.driver.outputPipe id s.world).2.1.writeFiles.values ++ _ at mem
    rw [same] at mem
    exact mem
  | spawn | register | look | signal | takeInstances | depart | depose | lendWrite | acquireRead
    | registerRead | lendRead | takeRead | takeReads | releaseRead | holdSource | dropSource
    | closeSource | read | holdSink | dropSink | closeSink | write | flush | record | elsewhere =>
    exact .inl mem

/-! ## Lent streams are not those of channels -/

/-- The stream of a handle that was lent is that of no channel. -/
structure Lent (deeds : List Deed) (s : Stage) : Prop where
  inputs : ∀ id w, .lentInput id (some w) ∈ deeds → w.number < s.world.sinks.length ∧
    ∀ channel ∈ s.writes, channel.pipe.number ≠ w.number
  outputs : ∀ id r, .lentOutput id (some r) ∈ deeds → r.number < s.world.sources.length ∧
    ∀ channel ∈ s.reads, channel.pipe.number ≠ r.number

/-- What an instance lends to write to is its own.  It has it or has lent it before, to somebody who
still holds it. -/
theorem inputPipe_own {id : AlgorithmId} {w : WriteHandle}
    (lent : (s.driver.inputPipe id s.world).1 = some w) :
    ∃ i ∈ s.instances, w.number ∈ i.inputStream ∧
      (w.number ∈ i.keptInput ∨ s.world.isAlive w = true) := by
  cases found : s.driver.algorithms.get? id with
  | none =>
    rw [Driver.inputPipe_of_none found] at lent
    cases lent
  | some i =>
    rw [Driver.inputPipe_of_some found] at lent
    refine ⟨i, List.mem_append_left _ (Table.mem_values found), ?_⟩
    unfold Instance.inputStream Instance.keptInput Input.pipe?
    rcases i.inputPipe_cases s.world with
      ⟨w', input, answer⟩ | ⟨w', input, alive, answer⟩ | answer
    · rw [answer] at lent
      cases lent
      simp [input]
    · rw [answer] at lent
      cases lent
      simp [input, alive]
    · rw [answer] at lent
      cases lent

/-- What an instance lends to read from is its own. -/
theorem outputPipe_own {id : AlgorithmId} {r : ReadHandle}
    (lent : (s.driver.outputPipe id s.world).1 = some r) :
    ∃ i ∈ s.instances, r.number ∈ i.outputStream := by
  cases found : s.driver.algorithms.get? id with
  | none =>
    rw [Driver.outputPipe_of_none found] at lent
    cases lent
  | some i =>
    rw [Driver.outputPipe_of_some found] at lent
    refine ⟨i, List.mem_append_left _ (Table.mem_values found), ?_⟩
    unfold Instance.outputStream
    rcases i.outputPipe_cases s.world with ⟨r', output, answer⟩ | answer
    · rw [answer] at lent
      cases lent
      simp [output]
    · rw [answer] at lent
      cases lent

/-- The stream of what is lent is that of no channel. -/
theorem Sound.lentInput (sound : s.Sound start.world deeds) {id : AlgorithmId} {w : WriteHandle}
    (lent : (s.driver.inputPipe id s.world).1 = some w) :
    w.number < s.world.sinks.length ∧ ∀ channel ∈ s.writes, channel.pipe.number ≠ w.number := by
  obtain ⟨i, mem, stream, _⟩ := inputPipe_own lent
  have station : w.number ∈ s.instances.flatMap Instance.inputStream :=
    List.mem_flatMap.2 ⟨i, mem, stream⟩
  refine ⟨(sound.holdings.issued _ (List.mem_append_right _ station)).2, fun channel mem => ?_⟩
  exact (List.nodup_append.1 sound.holdings.writeApart).2.2 _ (List.mem_map_of_mem mem) _ station

theorem Sound.lentOutput (sound : s.Sound start.world deeds) {id : AlgorithmId} {r : ReadHandle}
    (lent : (s.driver.outputPipe id s.world).1 = some r) :
    r.number < s.world.sources.length ∧ ∀ channel ∈ s.reads, channel.pipe.number ≠ r.number := by
  obtain ⟨i, mem, stream⟩ := outputPipe_own lent
  have station : r.number ∈ s.instances.flatMap Instance.outputStream :=
    List.mem_flatMap.2 ⟨i, mem, stream⟩
  refine ⟨?_, fun channel mem => ?_⟩
  · exact sound.holdings.sources.lt_length
      (List.mem_append_right (s.readers.map ReadHandle.number) (List.mem_append_right _ station))
  · exact (List.nodup_append.1 sound.holdings.readApart).2.2 _ (List.mem_map_of_mem mem) _ station

/-- What is lent is what the instance was asked for. -/
theorem Step.lentInput_eq (step : Step s deed t) {id : AlgorithmId} {pipe : Option WriteHandle}
    (shows : deed = .lentInput id pipe) : (s.driver.inputPipe id s.world).1 = pipe := by
  cases step with
  | inputPipe id =>
    cases shows
    rfl
  | depart =>
    split at shows <;> cases shows
  | _ => cases shows

theorem Step.lentOutput_eq (step : Step s deed t) {id : AlgorithmId} {pipe : Option ReadHandle}
    (shows : deed = .lentOutput id pipe) : (s.driver.outputPipe id s.world).1 = pipe := by
  cases step with
  | outputPipe id =>
    cases shows
    rfl
  | depart =>
    split at shows <;> cases shows
  | _ => cases shows

theorem Step.lent (step : Step s deed t) (sound : s.Sound start.world deeds)
    (lent : s.Lent deeds) : t.Lent (deeds ++ [deed]) := by
  have follows := sound.follows
  have sources := step.sources_stay.length_le
  have sinks := step.sinks_stay.length_le
  have input {w : WriteHandle} (apart : w.number < s.world.sinks.length ∧
      ∀ channel ∈ s.writes, channel.pipe.number ≠ w.number) :
      w.number < t.world.sinks.length ∧ ∀ channel ∈ t.writes, channel.pipe.number ≠ w.number := by
    refine ⟨Nat.lt_of_lt_of_le apart.1 sinks, fun channel mem => ?_⟩
    rcases step.mem_writes follows mem with old | ⟨_, opened⟩
    · exact apart.2 channel old
    · obtain ⟨-, _, _, _, rfl, _⟩ := Driver.acquireWrite_eq_ok_iff.1 opened
      exact Nat.ne_of_gt apart.1
  have output {r : ReadHandle} (apart : r.number < s.world.sources.length ∧
      ∀ channel ∈ s.reads, channel.pipe.number ≠ r.number) :
      r.number < t.world.sources.length ∧ ∀ channel ∈ t.reads, channel.pipe.number ≠ r.number := by
    refine ⟨Nat.lt_of_lt_of_le apart.1 sources, fun channel mem => ?_⟩
    rcases step.mem_reads follows mem with old | ⟨_, opened⟩
    · exact apart.2 channel old
    · obtain ⟨-, _, _, _, _, rfl, _⟩ := Driver.acquireRead_eq_ok_iff.1 opened
      exact Nat.ne_of_gt apart.1
  constructor
  · intro id w mem
    refine input ?_
    rcases List.mem_append.1 mem with old | new
    · exact lent.inputs id w old
    · exact sound.lentInput (step.lentInput_eq (List.mem_singleton.1 new).symm)
  · intro id r mem
    refine output ?_
    rcases List.mem_append.1 mem with old | new
    · exact lent.outputs id r old
    · exact sound.lentOutput (step.lentOutput_eq (List.mem_singleton.1 new).symm)

theorem Run.lent (new : start.New) (run : Run start deeds s) : s.Lent deeds := by
  induction run with
  | nil => exact ⟨fun _ _ h => (nomatch h), fun _ _ h => (nomatch h)⟩
  | snoc run step ih => exact step.lent (run.sound new) ih

/-! ## Handles that are held on to -/

/-- A handle is held until it is dropped. -/
theorem Step.mem_writers (step : Step s deed t) {w : WriteHandle} (holds : w ∈ s.writers)
    (kept : deed ≠ .droppedSink w) : w ∈ t.writers := by
  cases step with
  | inputPipe id => exact List.mem_append_right _ holds
  | lendWrite _ => exact List.mem_cons_of_mem _ holds
  | holdSink _ => exact List.mem_cons_of_mem _ holds
  | @dropSink other _ =>
    refine (List.mem_erase_of_ne ?_).2 holds
    rintro rfl
    exact kept rfl
  | spawn | register | look | signal | outputPipe | takeInstances | depart | depose | acquireRead
    | registerRead | lendRead | takeRead | takeReads | releaseRead | acquireWrite | registerWrite
    | takeWrite | takeWrites | releaseWrite | holdSource | dropSource | closeSource | read
    | closeSink | write | flush | record | elsewhere => exact holds

theorem Step.mem_readers (step : Step s deed t) {r : ReadHandle} (holds : r ∈ s.readers)
    (kept : deed ≠ .droppedSource r) : r ∈ t.readers := by
  cases step with
  | outputPipe id => exact List.mem_append_right _ holds
  | lendRead _ => exact List.mem_cons_of_mem _ holds
  | holdSource _ => exact List.mem_cons_of_mem _ holds
  | @dropSource other _ =>
    refine (List.mem_erase_of_ne ?_).2 holds
    rintro rfl
    exact kept rfl
  | spawn | register | look | signal | inputPipe | takeInstances | depart | depose | acquireRead
    | registerRead | takeRead | takeReads | releaseRead | acquireWrite | registerWrite | lendWrite
    | takeWrite | takeWrites | releaseWrite | closeSource | read | holdSink | dropSink | closeSink
    | write | flush | record | elsewhere => exact holds

/-- Only its holders close a stream that an instance has lent. -/
theorem Step.lent_sink (step : Step s deed t) (sound : t.Sound start.world (deeds ++ [deed]))
    (lent : s.Lent deeds) {id : AlgorithmId} {w : WriteHandle}
    (given : .lentInput id (some w) ∈ deeds) (holds : w ∈ t.writers)
    (unclosed : ∀ result, deed ≠ .closedSink w result)
    (isOpen : (s.world.openSink? w).isSome = true) : (t.world.openSink? w).isSome = true := by
  obtain ⟨stream, found⟩ := Option.isSome_iff_exists.1 isOpen
  obtain ⟨old, entry, is⟩ := Option.bind_eq_some_iff.1 found
  obtain ⟨new, entry', _, stays⟩ := step.sinks_stay.kept w.number old entry
  have held := Holdings.Sound.mem_writeRefs (h := t.holdings) holds
  obtain ⟨shared, found', holders⟩ := sound.holdings.sinks.exists_of_mem held
  obtain rfl := Option.some.inj (entry'.symm.trans found')
  have look : t.world.openSink? w = new.stream := congrArg (Option.bind · Shared.stream) entry'
  rw [look]
  rcases stays (Option.isSome_iff_exists.2 ⟨stream, is⟩) with still | gone | ⟨result, closed⟩ |
    ⟨c, closing, same, _⟩
  · exact still
  · have positive := List.count_pos_iff.2 held
    omega
  · exact absurd closed (unclosed result)
  · have mem : c.value ∈ s.writes := List.mem_append_right _
      (List.mem_append_right _ (List.mem_map_of_mem closing))
    exact absurd same ((lent.inputs id w given).2 _ mem)

theorem Step.lent_source (step : Step s deed t) (sound : t.Sound start.world (deeds ++ [deed]))
    (lent : s.Lent deeds) {id : AlgorithmId} {r : ReadHandle}
    (given : .lentOutput id (some r) ∈ deeds) (holds : r ∈ t.readers)
    (unclosed : deed ≠ .closedSource r)
    (isOpen : (s.world.openSource? r).isSome = true) : (t.world.openSource? r).isSome = true := by
  obtain ⟨stream, found⟩ := Option.isSome_iff_exists.1 isOpen
  obtain ⟨old, entry, is⟩ := Option.bind_eq_some_iff.1 found
  obtain ⟨new, entry', _, stays⟩ := step.sources_stay.kept r.number old entry
  have held := Holdings.Sound.mem_readRefs (h := t.holdings) holds
  obtain ⟨shared, found', holders⟩ := sound.holdings.sources.exists_of_mem held
  obtain rfl := Option.some.inj (entry'.symm.trans found')
  have look : t.world.openSource? r = new.stream := congrArg (Option.bind · Shared.stream) entry'
  rw [look]
  rcases stays (Option.isSome_iff_exists.2 ⟨stream, is⟩) with still | gone | closed |
    ⟨c, closing, same, _⟩
  · exact still
  · have positive := List.count_pos_iff.2 held
    omega
  · exact absurd closed unclosed
  · have mem : c.value ∈ s.reads := List.mem_append_right _
      (List.mem_append_right _ (List.mem_map_of_mem closing))
    exact absurd same ((lent.outputs id r given).2 _ mem)

/-- A handle of an input stays open as long as a caller holds it and none closes it. -/
theorem Run.lent_sink (new : start.New) (run : Run start deeds s) (rest : Run s more t)
    {id : AlgorithmId} {w : WriteHandle} (given : .lentInput id (some w) ∈ deeds)
    (holds : w ∈ s.writers) (isOpen : (s.world.openSink? w).isSome = true)
    (kept : .droppedSink w ∉ more) (unclosed : ∀ result, .closedSink w result ∉ more) :
    w ∈ t.writers ∧ (t.world.openSink? w).isSome = true := by
  induction rest with
  | nil => exact ⟨holds, isOpen⟩
  | snoc earlier step ih =>
    obtain ⟨holds, isOpen⟩ := ih (fun mem => kept (List.mem_append_left _ mem))
      fun result mem => unclosed result (List.mem_append_left _ mem)
    have before := run.append earlier
    have holds' := step.mem_writers holds fun same =>
      kept (List.mem_append_right _ (List.mem_singleton.2 same.symm))
    refine ⟨holds', step.lent_sink ((before.snoc step).sound new) (before.lent new)
      (List.mem_append_left _ given) holds' (fun result same => ?_) isOpen⟩
    exact unclosed result (List.mem_append_right _ (List.mem_singleton.2 same.symm))

/-- A handle of an output stays open as long as a caller holds it and none closes it. -/
theorem Run.lent_source (new : start.New) (run : Run start deeds s) (rest : Run s more t)
    {id : AlgorithmId} {r : ReadHandle} (given : .lentOutput id (some r) ∈ deeds)
    (holds : r ∈ s.readers) (isOpen : (s.world.openSource? r).isSome = true)
    (kept : .droppedSource r ∉ more) (unclosed : .closedSource r ∉ more) :
    r ∈ t.readers ∧ (t.world.openSource? r).isSome = true := by
  induction rest with
  | nil => exact ⟨holds, isOpen⟩
  | snoc earlier step ih =>
    obtain ⟨holds, isOpen⟩ := ih (fun mem => kept (List.mem_append_left _ mem))
      fun mem => unclosed (List.mem_append_left _ mem)
    have before := run.append earlier
    have holds' := step.mem_readers holds fun same =>
      kept (List.mem_append_right _ (List.mem_singleton.2 same.symm))
    refine ⟨holds', step.lent_source ((before.snoc step).sound new) (before.lent new)
      (List.mem_append_left _ given) holds' (fun same => ?_) isOpen⟩
    exact unclosed (List.mem_append_right _ (List.mem_singleton.2 same.symm))

end Stage

end AlgorithmDriver

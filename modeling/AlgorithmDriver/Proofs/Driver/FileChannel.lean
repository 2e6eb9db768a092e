import AlgorithmDriver.Proofs.Driver.Ownership

/-!
# Channels of files

What a channel to write to a file, and the channels to read from it, have got done.

* `World.Carries` says that the file and the buffer of its channel make up all that was accepted, or
  the file alone once the channel is closed.  Whatever closes the channel brings the buffer into the
  file (`Carries.manages`), and each write adds to what was accepted (`Carries.write`).
* `World.Delivers` says how much of that was given to the readers of one channel, in order
  (`Delivers.read`), whatever other channels do.
-/

namespace AlgorithmDriver

namespace World

/-! ## Using a stream -/

/-- One sink is used and stays open. -/
structure UsesSink (w : WriteHandle) (sink sink' : Sink) (before after : World) : Prop where
  found : before.openSink? w = some sink
  now : after.openSink? w = some sink'
  others : ∀ w', w' ≠ w → after.openSink? w' = before.openSink? w'
  sources : after.sources = before.sources
  sinkCount : after.sinks.length = before.sinks.length

/-- One source is used and stays open. -/
structure UsesSource (r : ReadHandle) (source source' : Source) (before after : World) : Prop where
  found : before.openSource? r = some source
  now : after.openSource? r = some source'
  others : ∀ r', r' ≠ r → after.openSource? r' = before.openSource? r'
  sinks : after.sinks = before.sinks
  sourceCount : after.sources.length = before.sources.length

variable {world after : World} {w : WriteHandle} {r : ReadHandle} {data : Bytes} {count : Nat}

theorem UsesSink.of_set {sink sink' : Sink} {holders : Nat}
    (found : world.sink? w = some { stream := some sink, holders }) (host : Host) :
    UsesSink w sink sink' world
      ({ world with host }.setSink w { stream := some sink', holders }) := by
  have sinks : ({ world with host }.setSink w { stream := some sink', holders } : World).sinks =
      world.sinks.set w.number { stream := some sink', holders } := rfl
  refine ⟨?_, openSink?_of_set_self found sinks, fun w' other => ?_, rfl, List.length_set⟩
  · unfold openSink?
    rw [found]
    rfl
  · exact openSink?_of_set found sinks fun same => absurd same other

theorem UsesSource.of_set {source source' : Source} {holders : Nat}
    (found : world.source? r = some { stream := some source, holders }) (host : Host) :
    UsesSource r source source' world
      ({ world with host }.setSource r { stream := some source', holders }) := by
  have sources : ({ world with host }.setSource r { stream := some source', holders } : World).sources =
      world.sources.set r.number { stream := some source', holders } := rfl
  refine ⟨?_, openSource?_of_set_self found sources, fun r' other => ?_, rfl, List.length_set⟩
  · unfold openSource?
    rw [found]
    rfl
  · exact openSource?_of_set found sources fun same => absurd same other

theorem openSink?_eq_none
    (shut : ∀ sink holders, world.sink? w ≠ some { stream := some sink, holders }) :
    world.openSink? w = none := by
  unfold openSink?
  rcases found : world.sink? w with _ | ⟨_ | sink, holders⟩
  · rfl
  · rfl
  · exact absurd found (shut sink holders)

theorem openSource?_eq_none
    (shut : ∀ source holders, world.source? r ≠ some { stream := some source, holders }) :
    world.openSource? r = none := by
  unfold openSource?
  rcases found : world.source? r with _ | ⟨_ | source, holders⟩
  · rfl
  · rfl
  · exact absurd found (shut source holders)

/-- A write uses the sink of its handle, or finds it closed. -/
theorem write_cases {result : Except StreamError Nat} (h : world.write w data = some (result, after)) :
    (world.openSink? w = none ∧ result = .error .closed ∧ after = world) ∨
      ∃ sink sink', sink.write world.host data = some (result, sink', after.host) ∧
        UsesSink w sink sink' world after := by
  rcases write_outcome h with ⟨shut, rfl, rfl⟩ | ⟨sink, sink', holders, host, found, done, rfl⟩
  · exact .inl ⟨openSink?_eq_none shut, rfl, rfl⟩
  · exact .inr ⟨sink, sink', done, .of_set found host⟩

theorem write_of_open {sink : Sink} (isOpen : world.openSink? w = some sink) :
    ∃ holders, world.write w data = (sink.write world.host data).map fun (r, sink, host) =>
      (r, { world with host }.setSink w { stream := some sink, holders }) := by
  obtain ⟨⟨stream, holders⟩, found, rfl⟩ := Option.bind_eq_some_iff.1 isOpen
  refine ⟨holders, ?_⟩
  unfold write
  rw [found]

/-- A flush uses the sink of its handle, or finds it closed. -/
theorem flush_cases (world : World) (w : WriteHandle) :
    (world.openSink? w = none ∧ world.flush w = (.error .closed, world)) ∨
      ∃ sink, (world.flush w).1 = (sink.flush world.host).1 ∧
        (world.flush w).2.host = (sink.flush world.host).2.2 ∧
        UsesSink w sink (sink.flush world.host).2.1 world (world.flush w).2 := by
  rcases world.flush_outcome w with ⟨shut, same⟩ | ⟨sink, holders, found, same⟩
  · exact .inl ⟨openSink?_eq_none shut, same⟩
  · rw [same]
    exact .inr ⟨sink, rfl, rfl, .of_set found _⟩

/-- A read uses the source of its handle, or finds it closed. -/
theorem read_cases {result : Except StreamError Bytes}
    (h : world.read r count = some (result, after)) :
    (world.openSource? r = none ∧ result = .error .closed ∧ after = world) ∨
      ∃ source source', source.read world.host count = some (result, source', after.host) ∧
        UsesSource r source source' world after := by
  rcases read_outcome h with ⟨shut, rfl, rfl⟩ | ⟨source, source', holders, host, found, done, rfl⟩
  · exact .inl ⟨openSource?_eq_none shut, rfl, rfl⟩
  · exact .inr ⟨source, source', done, .of_set found host⟩

theorem read_of_shut (isShut : world.openSource? r = none) :
    world.read r count = some (.error .closed, world) := by
  unfold openSource? at isShut
  unfold read
  split
  · rename_i found
    rw [found] at isShut
    cases isShut
  · rfl

theorem read_of_open {source : Source} (isOpen : world.openSource? r = some source) :
    ∃ holders, world.read r count = (source.read world.host count).map fun (result, source, host) =>
      (result, { world with host }.setSource r { stream := some source, holders }) := by
  obtain ⟨⟨stream, holders⟩, found, rfl⟩ := Option.bind_eq_some_iff.1 isOpen
  refine ⟨holders, ?_⟩
  unfold read
  rw [found]

section Uses

variable {sink sink' : Sink} {source source' : Source} {n : Nat} {sinks : WriteHandle → Prop}
  {sources : ReadHandle → Prop}

/-- An open sink was open before, with the same description. -/
theorem UsesSink.origin (uses : UsesSink w sink sink' world after) (same : sink.Same sink')
    {w' : WriteHandle} {other : Sink} (isOpen : after.openSink? w' = some other) :
    ∃ was, world.openSink? w' = some was ∧ other.description = was.description := by
  by_cases here : w' = w
  · subst here
    obtain rfl := Option.some.inj (uses.now.symm.trans isOpen)
    exact ⟨sink, uses.found, same.description⟩
  · exact ⟨other, (uses.others w' here).symm.trans isOpen, rfl⟩

theorem UsesSink.own (uses : UsesSink w sink sink' world after) (same : sink.Same sink')
    (own : world.Own n sinks sources) : after.Own n sinks sources where
  sinks w' other isOpen here := by
    obtain ⟨was, isOpen', description⟩ := uses.origin same isOpen
    exact own.sinks w' was isOpen' (description.symm.trans here)
  sources r source isOpen :=
    own.sources r source ((openSource?_of_sources uses.sources r).symm.trans isOpen)

theorem UsesSink.grounded (uses : UsesSink w sink sink' world after) (same : sink.Same sink')
    (onward : world.host.Onward after.host) (grounded : world.Grounded) : after.Grounded where
  sources r source isOpen := by
    have was := (openSource?_of_sources uses.sources r).symm.trans isOpen
    exact Nat.lt_of_lt_of_le (grounded.sources r source was) onward.length_le
  sinks w' other isOpen := by
    obtain ⟨was, isOpen', description⟩ := uses.origin same isOpen
    rw [description]
    exact Nat.lt_of_lt_of_le (grounded.sinks w' was isOpen') onward.length_le

/-- An open source was open before, with the same description. -/
theorem UsesSource.origin (uses : UsesSource r source source' world after)
    (same : source.Same source') {r' : ReadHandle} {other : Source}
    (isOpen : after.openSource? r' = some other) :
    ∃ was, world.openSource? r' = some was ∧ other.description = was.description := by
  by_cases here : r' = r
  · subst here
    obtain rfl := Option.some.inj (uses.now.symm.trans isOpen)
    exact ⟨source, uses.found, same.description⟩
  · exact ⟨other, (uses.others r' here).symm.trans isOpen, rfl⟩

theorem UsesSource.own (uses : UsesSource r source source' world after)
    (same : source.Same source') (own : world.Own n sinks sources) : after.Own n sinks sources where
  sinks w sink isOpen := own.sinks w sink ((openSink?_of_sinks uses.sinks w).symm.trans isOpen)
  sources r' other isOpen here := by
    obtain ⟨was, isOpen', description⟩ := uses.origin same isOpen
    exact own.sources r' was isOpen' (description.symm.trans here)

theorem UsesSource.grounded (uses : UsesSource r source source' world after)
    (same : source.Same source') (onward : world.host.Onward after.host) (grounded : world.Grounded) :
    after.Grounded where
  sources r' other isOpen := by
    obtain ⟨was, isOpen', description⟩ := uses.origin same isOpen
    rw [description]
    exact Nat.lt_of_lt_of_le (grounded.sources r' was isOpen') onward.length_le
  sinks w sink isOpen := by
    have was := (openSink?_of_sinks uses.sinks w).symm.trans isOpen
    exact Nat.lt_of_lt_of_le (grounded.sinks w sink was) onward.length_le

end Uses

/-! ## What a channel to write to carries -/

/-- What the channel with the handle `w` accepted is in the file `node`, up to what is in the buffer
of the channel as long as it is open.  Nobody else has anything left to write to the file. -/
structure Carries (world : World) (w : WriteHandle) (node : Nat) (whole : Bytes) : Prop where
  grounded : world.Grounded
  known : w.number < world.sinks.length
  fills : ∀ sink, world.openSink? w = some sink → sink.Fills world.host node whole
  own : ∀ sink, world.openSink? w = some sink → world.Own sink.description (· = w) fun _ => False
  shut : world.openSink? w = none → world.host.files.bytes? node = some whole
  idle : ∀ w' sink, w' ≠ w → world.openSink? w' = some sink →
    world.host.Leads sink.description node → sink.pending = []

namespace Carries

variable {moved written : Nat → Prop} {node : Nat} {whole : Bytes} {w' : WriteHandle} {sink : Sink}

/-- The file holds the beginning of what was accepted. -/
theorem part (carries : world.Carries w node whole) :
    ∃ content, world.host.files.bytes? node = some content ∧ content <+: whole := by
  cases isOpen : world.openSink? w with
  | none => exact ⟨whole, carries.shut isOpen, List.prefix_refl _⟩
  | some sink => exact (carries.fills sink isOpen).part

/-- No other sink has the description of the channel. -/
theorem apart {other : Sink} (carries : world.Carries w node whole)
    (isOpen : world.openSink? w = some sink) (different : w' ≠ w)
    (isOpen' : world.openSink? w' = some other) : sink.description ≠ other.description :=
  fun same => different ((carries.own sink isOpen).sinks w' other isOpen' same.symm)

/-- Another stream that is as it was has nothing to write to the file. -/
theorem idle_of_same (carries : world.Carries w node whole) (onward : world.host.Onward after.host)
    (different : w' ≠ w) (isOpen : world.openSink? w' = some sink)
    (leads : after.host.Leads sink.description node) : sink.pending = [] :=
  carries.idle w' sink different isOpen (leads.of_onward onward (carries.grounded.sinks w' sink isOpen))

/-- The channel and the file are left alone. -/
theorem spared (carries : world.Carries w node whole)
    (host : world.host.Keeps moved written after.host)
    (unmoved : ∀ sink, world.openSink? w = some sink → ¬ moved sink.description)
    (unwritten : ¬ written node) (same : after.openSink? w = world.openSink? w)
    (grounded : after.Grounded)
    (own : ∀ sink, world.openSink? w = some sink →
      after.Own sink.description (· = w) fun _ => False)
    (idle : ∀ w' sink, w' ≠ w → after.openSink? w' = some sink →
      after.host.Leads sink.description node → sink.pending = [])
    (kept : world.sinks.length ≤ after.sinks.length) : after.Carries w node whole where
  grounded := grounded
  known := Nat.lt_of_lt_of_le carries.known kept
  fills sink isOpen := by
    have was := same.symm.trans isOpen
    exact (carries.fills sink was).kept host (unmoved sink was) unwritten
  own sink isOpen := own sink (same.symm.trans isOpen)
  shut isShut := host.files node whole unwritten (carries.shut (same.symm.trans isShut))
  idle := idle

theorem quiet (carries : world.Carries w node whole) (quiet : world.Quiet after) :
    after.Carries w node whole := by
  refine carries.spared quiet.host.toKeeps (fun _ _ => id) id (quiet.sinks w)
    (quiet.manages.grounded carries.grounded) (fun sink isOpen => ?_)
    (fun w' sink different isOpen leads => ?_) (Nat.le_of_eq quiet.sinkCount.symm)
  · exact (carries.own sink isOpen).quiet quiet
  · exact carries.idle_of_same quiet.host.onward different ((quiet.sinks w').symm.trans isOpen) leads

/-- When the channel is closed, everything is in the file. -/
theorem shuts_self (carries : world.Carries w node whole) (shuts : world.Shuts w sink after) :
    after.Carries w node whole where
  grounded := (Manages.shut .refl shuts).grounded carries.grounded
  known := Nat.lt_of_lt_of_le carries.known (Nat.le_of_eq shuts.sinkCount.symm)
  fills other isOpen := nomatch shuts.shut.symm.trans isOpen
  own other isOpen := nomatch shuts.shut.symm.trans isOpen
  shut _ := by
    obtain ⟨host, flushed, fills⟩ := (carries.fills sink shuts.found).flush
    have kept := shuts.host
    rw [flushed] at kept
    exact kept.files node whole id (fills.all rfl)
  idle w' other different isOpen leads := by
    have onward := (sink.flush_onward world.host).trans shuts.host.onward
    exact carries.idle_of_same onward different ((shuts.others w' different).symm.trans isOpen) leads

theorem shuts_other (carries : world.Carries w node whole) (shuts : world.Shuts w' sink after)
    (different : w' ≠ w) : after.Carries w node whole := by
  have flushed := Sink.flush_spares_of_idle (carries.idle w' sink different shuts.found)
  have host := flushed.trans (shuts.host.mono (fun _ => False.elim) fun _ => False.elim)
  refine carries.spared host.toKeeps (fun mine isOpen => ?_) (fun apart => apart rfl)
    (shuts.others w (Ne.symm different)) ((Manages.shut .refl shuts).grounded carries.grounded)
    (fun mine isOpen => ?_) (fun w'' other different' isOpen leads => ?_)
    (Nat.le_of_eq shuts.sinkCount.symm)
  · exact carries.apart isOpen different shuts.found
  · exact (carries.own mine isOpen).shuts shuts
  · by_cases here : w'' = w'
    · subst here
      cases shuts.shut.symm.trans isOpen
    · exact carries.idle_of_same host.onward different' ((shuts.others w'' here).symm.trans isOpen)
        leads

/-- Whatever is done with handles, nothing is lost. -/
theorem manages (carries : world.Carries w node whole) (manages : world.Manages after) :
    after.Carries w node whole := by
  induction manages with
  | refl => exact carries
  | quiet _ quiet ih => exact ih.quiet quiet
  | @shut _ _ w' _ _ shuts ih =>
    by_cases here : w' = w
    · subst here
      exact ih.shuts_self shuts
    · exact ih.shuts_other shuts here

/-- The channel is used: what was accepted now is in the file and the buffer. -/
theorem uses_self {sink' : Sink} {more : Bytes} (carries : world.Carries w node whole)
    (uses : UsesSink w sink sink' world after) (same : sink.Same sink')
    (onward : world.host.Onward after.host) (fills : sink'.Fills after.host node more) :
    after.Carries w node more where
  grounded := uses.grounded same onward carries.grounded
  known := Nat.lt_of_lt_of_le carries.known (Nat.le_of_eq uses.sinkCount.symm)
  fills other isOpen := by
    obtain rfl := Option.some.inj (uses.now.symm.trans isOpen)
    exact fills
  own other isOpen := by
    obtain rfl := Option.some.inj (uses.now.symm.trans isOpen)
    rw [same.description]
    exact uses.own same (carries.own sink uses.found)
  shut isShut := nomatch uses.now.symm.trans isShut
  idle w' other different isOpen leads :=
    carries.idle_of_same onward different ((uses.others w' different).symm.trans isOpen) leads

/-- Another stream is used, and does not write the file. -/
theorem uses_other {sink' : Sink} (carries : world.Carries w node whole)
    (uses : UsesSink w' sink sink' world after) (different : w' ≠ w) (same : sink.Same sink')
    (host : world.host.Spares (· = sink.description) written after.host) (unwritten : ¬ written node)
    (idle : after.host.Leads sink.description node → sink'.pending = []) :
    after.Carries w node whole := by
  refine carries.spared host.toKeeps (fun mine isOpen => carries.apart isOpen different uses.found) unwritten
    (uses.others w (Ne.symm different)) (uses.grounded same host.onward carries.grounded)
    (fun mine isOpen => uses.own same (carries.own mine isOpen))
    (fun w'' other different' isOpen leads => ?_) (Nat.le_of_eq uses.sinkCount.symm)
  by_cases here : w'' = w'
  · subst here
    obtain rfl := Option.some.inj (uses.now.symm.trans isOpen)
    rw [same.description] at leads
    exact idle leads
  · exact carries.idle_of_same host.onward different' ((uses.others w'' here).symm.trans isOpen) leads

/-- A flush brings everything into the file, unless the channel was closed, when it is there. -/
theorem flush_self (carries : world.Carries w node whole) :
    (world.flush w).2.Carries w node whole ∧
      (world.flush w).2.host.files.bytes? node = some whole ∧
      (world.openSink? w ≠ none → (world.flush w).1 = .ok ()) := by
  rcases world.flush_cases w with ⟨isShut, flushed⟩ | ⟨sink, result, host, uses⟩
  · rw [flushed]
    exact ⟨carries, carries.shut isShut, fun isOpen => absurd isShut isOpen⟩
  · have same := sink.flush_same world.host
    have onward := sink.flush_onward world.host
    obtain ⟨after, flushed, fills⟩ := (carries.fills sink uses.found).flush
    simp only [flushed] at result host uses same onward
    rw [← host] at fills onward
    exact ⟨carries.uses_self uses same onward fills, fills.all rfl, fun _ => result⟩

theorem flush_other (carries : world.Carries w node whole) (different : w' ≠ w) :
    (world.flush w').2.Carries w node whole := by
  rcases world.flush_cases w' with ⟨_, flushed⟩ | ⟨sink, _, host, uses⟩
  · rw [flushed]
    exact carries
  · have idle := carries.idle w' sink different uses.found
    have spares := Sink.flush_spares_of_idle idle
    rw [← host] at spares
    refine carries.uses_other uses different (sink.flush_same world.host) spares
      (fun apart => apart rfl) fun leads => ?_
    have empty := idle (leads.of_onward spares.onward (carries.grounded.sinks w' sink uses.found))
    rw [Sink.flush, empty]
    exact empty

/-- As long as the channel is open, all data is accepted. -/
theorem accepts (carries : world.Carries w node whole) (isOpen : world.openSink? w = some sink)
    (data : Bytes) : ∃ after, world.write w data = some (.ok data.length, after) := by
  obtain ⟨holders, written⟩ := @write_of_open world w data sink isOpen
  obtain ⟨sink', host, taken, _⟩ := (carries.fills sink isOpen).write data
  rw [written, taken]
  exact ⟨_, rfl⟩

/-- What is accepted is added. -/
theorem write_self {result : Except StreamError Nat} (carries : world.Carries w node whole)
    (h : world.write w data = some (result, after)) :
    after.Carries w node (whole ++ (Deed.wrote w data result).accepted w) := by
  rcases write_cases h with ⟨_, rfl, rfl⟩ | ⟨sink, sink', written, uses⟩
  · rw [show (Deed.wrote w data (.error .closed)).accepted w = [] from rfl, List.append_nil]
    exact carries
  · obtain ⟨_, _, taken, fills⟩ := (carries.fills sink uses.found).write data
    cases written.symm.trans taken
    have accepted : (Deed.wrote w data (.ok data.length)).accepted w = data := by
      show (if w = w then data.take data.length else []) = data
      rw [if_pos rfl, List.take_length]
    rw [accepted]
    exact carries.uses_self uses (Sink.write_same written) (Sink.write_onward written) fills

theorem write_other {result : Except StreamError Nat} (carries : world.Carries w node whole)
    (h : world.write w' data = some (result, after)) (different : w' ≠ w)
    (aside : ∀ sink, world.openSink? w' = some sink → ¬ world.host.Leads sink.description node) :
    after.Carries w node whole := by
  rcases write_cases h with ⟨_, rfl, rfl⟩ | ⟨sink, sink', written, uses⟩
  · exact carries
  · have spares := Sink.write_spares written
    refine carries.uses_other uses different (Sink.write_same written) spares
      (aside sink uses.found) fun leads => ?_
    have was := leads.of_onward spares.onward (carries.grounded.sinks w' sink uses.found)
    exact absurd was (aside sink uses.found)

/-- Reading, through whatever handle, leaves the channel and the file alone. -/
theorem read {result : Except StreamError Bytes} (carries : world.Carries w node whole)
    (h : world.read r count = some (result, after)) : after.Carries w node whole := by
  rcases read_cases h with ⟨_, _, rfl⟩ | ⟨source, source', read, uses⟩
  · exact carries
  · have same := Source.read_same read
    have host : world.host.Spares (· = source.description) (fun _ => False) after.host :=
      Source.read_spares read
    have sinks (w' : WriteHandle) := openSink?_of_sinks uses.sinks w'
    refine carries.spared host.toKeeps (fun sink isOpen here => ?_) id (sinks w)
      (uses.grounded same host.onward carries.grounded)
      (fun sink isOpen => uses.own same (carries.own sink isOpen))
      (fun w' sink different isOpen leads => ?_) (Nat.le_of_eq (congrArg List.length uses.sinks).symm)
    · exact (carries.own sink isOpen).sources r source uses.found here.symm
    · exact carries.idle_of_same host.onward different ((sinks w').symm.trans isOpen) leads

end Carries

/-! ## What a channel to read from delivers -/

/-- What was `drawn` through the channel with the handle `r` is the beginning of the `whole`, and the
channel, as long as it is open, goes on from there in the file `node`. -/
structure Delivers (world : World) (r : ReadHandle) (node : Nat) (drawn whole : Bytes) : Prop where
  known : r.number < world.sources.length
  part : drawn <+: whole
  draws : ∀ source, world.openSource? r = some source → source.Draws world.host node drawn whole
  own : ∀ source, world.openSource? r = some source →
    world.Own source.description (fun _ => False) (· = r)

namespace Delivers

variable {moved written : Nat → Prop} {node : Nat} {drawn whole content : Bytes} {r' : ReadHandle}
  {source : Source}

theorem grow (delivers : world.Delivers r node drawn whole) (more : Bytes) :
    world.Delivers r node drawn (whole ++ more) where
  known := delivers.known
  part := delivers.part.trans (List.prefix_append _ _)
  draws source isOpen := (delivers.draws source isOpen).grow more
  own := delivers.own

/-- The channel is left alone, or closed. -/
theorem spared (delivers : world.Delivers r node drawn whole)
    (host : world.host.Keeps moved written after.host)
    (unmoved : ∀ source, world.openSource? r = some source → ¬ moved source.description)
    (same : ∀ source, after.openSource? r = some source → world.openSource? r = some source)
    (own : ∀ source, world.openSource? r = some source →
      after.Own source.description (fun _ => False) (· = r))
    (kept : world.sources.length ≤ after.sources.length) : after.Delivers r node drawn whole where
  known := Nat.lt_of_lt_of_le delivers.known kept
  part := delivers.part
  draws source isOpen := by
    have was := same source isOpen
    exact (delivers.draws source was).kept host (unmoved source was)
  own source isOpen := own source (same source isOpen)

/-- Whatever is done with handles, the channel stands where it stood. -/
theorem manages (delivers : world.Delivers r node drawn whole) (manages : world.Manages after) :
    after.Delivers r node drawn whole := by
  induction manages with
  | refl => exact delivers
  | quiet _ quiet ih =>
    exact ih.spared quiet.host.toKeeps (fun _ _ => id) (quiet.sources r)
      (fun source isOpen => (ih.own source isOpen).quiet quiet) (Nat.le_of_eq quiet.sourceCount.symm)
  | @shut _ _ w sink _ shuts ih =>
    have host := (sink.flush_spares _).trans (shuts.host.mono (fun _ => False.elim) fun _ => False.elim)
    refine ih.spared host.toKeeps (fun source isOpen here => ?_)
      (fun source isOpen => (openSource?_of_sources shuts.sources r).symm.trans isOpen)
      (fun source isOpen => (ih.own source isOpen).shuts shuts)
      (Nat.le_of_eq (congrArg List.length shuts.sources).symm)
    exact (ih.own source isOpen).sinks w sink shuts.found here.symm

theorem uses_sink {sink sink' : Sink} (delivers : world.Delivers r node drawn whole)
    (uses : UsesSink w sink sink' world after) (same : sink.Same sink')
    (host : world.host.Spares (· = sink.description) written after.host) :
    after.Delivers r node drawn whole := by
  refine delivers.spared host.toKeeps (fun source isOpen here => ?_)
    (fun source isOpen => (openSource?_of_sources uses.sources r).symm.trans isOpen)
    (fun source isOpen => uses.own same (delivers.own source isOpen))
    (Nat.le_of_eq (congrArg List.length uses.sources).symm)
  exact (delivers.own source isOpen).sinks w sink uses.found here.symm

theorem flush (delivers : world.Delivers r node drawn whole) (w : WriteHandle) :
    (world.flush w).2.Delivers r node drawn whole := by
  rcases world.flush_cases w with ⟨_, flushed⟩ | ⟨sink, _, host, uses⟩
  · rw [flushed]
    exact delivers
  · have spares := sink.flush_spares world.host
    rw [← host] at spares
    exact delivers.uses_sink uses (sink.flush_same world.host) spares

theorem write {result : Except StreamError Nat} (delivers : world.Delivers r node drawn whole)
    (h : world.write w data = some (result, after)) : after.Delivers r node drawn whole := by
  rcases write_cases h with ⟨_, _, rfl⟩ | ⟨sink, sink', written, uses⟩
  · exact delivers
  · exact delivers.uses_sink uses (Sink.write_same written) (Sink.write_spares written)

/-- Reading through another channel leaves this one where it stands. -/
theorem read_other {result : Except StreamError Bytes} (delivers : world.Delivers r node drawn whole)
    (h : world.read r' count = some (result, after)) (different : r' ≠ r) :
    after.Delivers r node drawn whole := by
  rcases read_cases h with ⟨_, _, rfl⟩ | ⟨source', source'', read, uses⟩
  · exact delivers
  · have host : world.host.Spares (· = source'.description) (fun _ => False) after.host :=
      Source.read_spares read
    refine delivers.spared host.toKeeps (fun source isOpen here => ?_)
      (fun source isOpen => (uses.others r (Ne.symm different)).symm.trans isOpen)
      (fun source isOpen => uses.own (Source.read_same read) (delivers.own source isOpen))
      (Nat.le_of_eq uses.sourceCount.symm)
    exact different ((delivers.own source isOpen).sources r' source' uses.found here.symm)

/-- What is read goes on where the channel stood. -/
theorem read_self {result : Except StreamError Bytes} (delivers : world.Delivers r node drawn whole)
    (file : world.host.files.bytes? node = some content) (part : content <+: whole)
    (h : world.read r count = some (result, after)) :
    after.Delivers r node (drawn ++ (Deed.read r count result).given r) whole := by
  rcases read_cases h with ⟨_, rfl, rfl⟩ | ⟨source, source', read, uses⟩
  · rw [show (Deed.read r count (.error .closed)).given r = [] from rfl, List.append_nil]
    exact delivers
  · obtain ⟨bytes, _, _, answer, draws, _⟩ := (delivers.draws source uses.found).read file part count
    cases read.symm.trans answer
    have given : (Deed.read r count (.ok bytes)).given r = bytes := if_pos rfl
    have own := uses.own (Source.read_same read) (delivers.own source uses.found)
    rw [given]
    refine ⟨Nat.lt_of_lt_of_le delivers.known (Nat.le_of_eq uses.sourceCount.symm),
      (List.prefix_append _ _).trans draws.within, fun other isOpen => ?_, fun other isOpen => ?_⟩
    · obtain rfl := Option.some.inj (uses.now.symm.trans isOpen)
      exact draws
    · obtain rfl := Option.some.inj (uses.now.symm.trans isOpen)
      rw [(Source.read_same read).description]
      exact own

/-- As long as the channel is open it answers, and gives nothing only when all that is in the file
was drawn. -/
theorem answers (delivers : world.Delivers r node drawn whole)
    (isOpen : world.openSource? r = some source)
    (file : world.host.files.bytes? node = some content) (part : content <+: whole) (count : Nat) :
    ∃ bytes after, world.read r count = some (.ok bytes, after) ∧ bytes.length ≤ count ∧
      drawn ++ bytes <+: whole ∧ (bytes = [] → 0 < count → content <+: drawn) := by
  obtain ⟨holders, answer⟩ := @read_of_open world r count source isOpen
  obtain ⟨bytes, source', host, read, draws, short, exhausted⟩ :=
    (delivers.draws source isOpen).read file part count
  rw [answer, read]
  exact ⟨bytes, _, rfl, short, (List.prefix_append _ _).trans draws.within, exhausted⟩

/-- What one channel gives next does not depend on what is read through another. -/
theorem read_apart {result : Except StreamError Bytes} {count' : Nat}
    (delivers : world.Delivers r node drawn whole)
    (file : world.host.files.bytes? node = some content)
    (h : world.read r' count' = some (result, after)) (different : r' ≠ r) (count : Nat) :
    (after.read r count).map Prod.fst = (world.read r count).map Prod.fst := by
  rcases read_cases h with ⟨_, _, rfl⟩ | ⟨source', source'', read, uses⟩
  · rfl
  · have host : world.host.Spares (· = source'.description) (fun _ => False) after.host :=
      Source.read_spares read
    have same := uses.others r (Ne.symm different)
    cases isOpen : world.openSource? r with
    | none =>
      rw [read_of_shut isOpen, read_of_shut (same.trans isOpen)]
      rfl
    | some source =>
      have stands := (delivers.draws source isOpen).stands
      have apart : source.description ≠ source'.description := fun here =>
        different ((delivers.own source isOpen).sources r' source' uses.found here.symm)
      have answer := Source.read_congr stands (host.places _ _ apart stands) file
        (host.files node content id file) count
      obtain ⟨_, before⟩ := @read_of_open world r count source isOpen
      obtain ⟨_, now⟩ := @read_of_open after r count source (same.trans isOpen)
      rw [before, now, Option.map_map, Option.map_map]
      exact answer

end Delivers

/-! ## Opening -/

variable {node : Nat} {whole content : Bytes} {path : String}

theorem openSink?_of_extended (sinks : world.sinks <+: after.sinks)
    (known : w.number < world.sinks.length) : after.openSink? w = world.openSink? w := by
  obtain ⟨more, sinks⟩ := sinks
  unfold openSink? sink?
  rw [← sinks, List.getElem?_append_left known]

theorem openSource?_of_extended (sources : world.sources <+: after.sources)
    (known : r.number < world.sources.length) : after.openSource? r = world.openSource? r := by
  obtain ⟨more, sources⟩ := sources
  unfold openSource? source?
  rw [← sources, List.getElem?_append_left known]

/-- One sink is added, with a description that is new. -/
structure AddsSink (sink : Sink) (before after : World) : Prop where
  onward : before.host.Onward after.host
  sinks : after.sinks = before.sinks ++ [{ stream := some sink }]
  sources : after.sources = before.sources
  made : before.host.Made after.host sink.description

/-- One source is added, with a description that is new. -/
structure AddsSource (source : Source) (before after : World) : Prop where
  onward : before.host.Onward after.host
  sources : after.sources = before.sources ++ [{ stream := some source }]
  sinks : after.sinks = before.sinks
  made : before.host.Made after.host source.description

section Adds

variable {sink other : Sink} {source another : Source}

theorem AddsSink.self (adds : AddsSink sink world after) :
    after.openSink? ⟨world.sinks.length⟩ = some sink := by
  unfold openSink? sink?
  rw [adds.sinks, List.getElem?_concat_length]
  rfl

/-- An open sink is the one that was added, or was open before. -/
theorem AddsSink.origin (adds : AddsSink sink world after) (isOpen : after.openSink? w = some other) :
    (w = ⟨world.sinks.length⟩ ∧ other = sink) ∨ world.openSink? w = some other := by
  by_cases old : w.number < world.sinks.length
  · exact .inr ((openSink?_of_extended ⟨_, adds.sinks.symm⟩ old).symm.trans isOpen)
  · have bound := lt_of_openSink? isOpen
    rw [adds.sinks, List.length_append] at bound
    have here : w = ⟨world.sinks.length⟩ :=
      congrArg WriteHandle.mk (Nat.le_antisymm (Nat.lt_succ_iff.1 bound) (Nat.not_lt.1 old))
    rw [here] at isOpen
    exact .inl ⟨here, Option.some.inj (isOpen.symm.trans adds.self)⟩

theorem AddsSink.grounded (adds : AddsSink sink world after) (grounded : world.Grounded) :
    after.Grounded where
  sources r source isOpen := by
    have was := (openSource?_of_sources adds.sources r).symm.trans isOpen
    exact Nat.lt_of_lt_of_le (grounded.sources r source was) adds.onward.length_le
  sinks w other isOpen := by
    rcases adds.origin isOpen with ⟨_, rfl⟩ | was
    · exact adds.made.2
    · exact Nat.lt_of_lt_of_le (grounded.sinks w other was) adds.onward.length_le

/-- The new sink has its description to itself. -/
theorem AddsSink.own (adds : AddsSink sink world after) (grounded : world.Grounded) :
    after.Own sink.description (· = ⟨world.sinks.length⟩) fun _ => False where
  sinks w other isOpen same := by
    rcases adds.origin isOpen with ⟨here, _⟩ | was
    · exact here
    · exact absurd (same ▸ grounded.sinks w other was) (Nat.not_lt.2 adds.made.1)
  sources r source isOpen same := by
    have was := (openSource?_of_sources adds.sources r).symm.trans isOpen
    exact absurd (same ▸ grounded.sources r source was) (Nat.not_lt.2 adds.made.1)

theorem AddsSource.self (adds : AddsSource source world after) :
    after.openSource? ⟨world.sources.length⟩ = some source := by
  unfold openSource? source?
  rw [adds.sources, List.getElem?_concat_length]
  rfl

/-- An open source is the one that was added, or was open before. -/
theorem AddsSource.origin (adds : AddsSource source world after)
    (isOpen : after.openSource? r = some another) :
    (r = ⟨world.sources.length⟩ ∧ another = source) ∨ world.openSource? r = some another := by
  by_cases old : r.number < world.sources.length
  · exact .inr ((openSource?_of_extended ⟨_, adds.sources.symm⟩ old).symm.trans isOpen)
  · have bound := lt_of_openSource? isOpen
    rw [adds.sources, List.length_append] at bound
    have here : r = ⟨world.sources.length⟩ :=
      congrArg ReadHandle.mk (Nat.le_antisymm (Nat.lt_succ_iff.1 bound) (Nat.not_lt.1 old))
    rw [here] at isOpen
    exact .inl ⟨here, Option.some.inj (isOpen.symm.trans adds.self)⟩

/-- The new source has its description to itself. -/
theorem AddsSource.own (adds : AddsSource source world after) (grounded : world.Grounded) :
    after.Own source.description (fun _ => False) (· = ⟨world.sources.length⟩) where
  sinks w sink isOpen same := by
    have was := (openSink?_of_sinks adds.sinks w).symm.trans isOpen
    exact absurd (same ▸ grounded.sinks w sink was) (Nat.not_lt.2 adds.made.1)
  sources r another isOpen same := by
    rcases adds.origin isOpen with ⟨here, _⟩ | was
    · exact here
    · exact absurd (same ▸ grounded.sources r another was) (Nat.not_lt.2 adds.made.1)

end Adds

/-- A file that was just opened for writing is empty, and so is the buffer. -/
theorem Carries.opened {channel : Channel WriteHandle} (grounded : world.Grounded)
    (opened : Driver.acquireWrite path world = .ok (channel, after))
    (found : after.host.files.find after.host.directory path = .ok node)
    (isFile : after.host.files.bytes? node ≠ none)
    (idle : ∀ w sink, world.openSink? w = some sink → world.host.Leads sink.description node →
      sink.pending = []) : after.Carries channel.pipe node [] := by
  obtain ⟨-, description, host, made, rfl, same⟩ := Driver.acquireWrite_eq_ok_iff.1 opened
  obtain ⟨rfl, sinks, sources⟩ : host = after.host ∧
      after.sinks = world.sinks ++ [{ stream := some { description, capacity := bufferSize } }] ∧
        after.sources = world.sources := by
    rw [same]
    exact ⟨rfl, rfl, rfl⟩
  have onward := (Host.openWrite_adds made).onward
  have adds : AddsSink { description, capacity := bufferSize } world after :=
    ⟨onward, sinks, sources, (Host.openWrite_adds made).made⟩
  obtain ⟨node', opening⟩ := Host.openWrite_opened made
  obtain rfl : node' = node := by
    have leads := opening.found
    rw [← opening.directory] at leads
    exact Except.ok.inj (leads.symm.trans found)
  obtain ⟨content, file⟩ := Option.ne_none_iff_exists'.1 isFile
  obtain ⟨executable, regular⟩ := FileTree.bytes?_eq_some_iff.1 file
  obtain rfl := opening.emptied rfl content executable regular
  refine
    { grounded := adds.grounded grounded
      known := ?_
      fills := fun sink isOpen => ?_
      own := fun sink isOpen => ?_
      shut := fun isShut => nomatch adds.self.symm.trans isShut
      idle := fun w sink different isOpen leads => ?_ }
  · rw [sinks, List.length_append]
    exact Nat.lt_succ_self _
  · obtain rfl := Option.some.inj (adds.self.symm.trans isOpen)
    refine .of_empty (Nat.zero_lt_succ _) file (Host.standsAt_iff.2 ⟨1, ?_⟩)
    rw [opening.description, opening.number, List.getElem?_concat_length]
    rfl
  · obtain rfl := Option.some.inj (adds.self.symm.trans isOpen)
    exact adds.own grounded
  · rcases adds.origin isOpen with ⟨here, _⟩ | was
    · exact absurd here different
    · exact idle w sink was (leads.of_onward onward (grounded.sinks w sink was))

/-- A channel that was just opened to read from a file stands at its beginning. -/
theorem Delivers.opened {channel : Channel ReadHandle} (grounded : world.Grounded)
    (opened : Driver.acquireRead path world = .ok (channel, after))
    (found : world.host.files.find world.host.directory path = .ok node) (whole : Bytes) :
    after.Delivers channel.pipe node [] whole := by
  obtain ⟨-, description, host, made, _, rfl, same⟩ := Driver.acquireRead_eq_ok_iff.1 opened
  obtain ⟨rfl, sources, sinks⟩ : host = after.host ∧
      after.sources = world.sources ++ [{ stream := some { description, capacity := bufferSize } }] ∧
        after.sinks = world.sinks := by
    rw [same]
    exact ⟨rfl, rfl, rfl⟩
  have adds : AddsSource { description, capacity := bufferSize } world after :=
    ⟨(Host.openRead_adds made).onward, sources, sinks, (Host.openRead_adds made).made⟩
  have stands : after.host.StandsAt description node 0 := by
    obtain ⟨_, found', number, described⟩ := Host.openRead_eq_ok_iff.1 made
    cases found.symm.trans found'
    refine Host.standsAt_iff.2 ⟨1, ?_⟩
    rw [described, number]
    exact List.getElem?_concat_length
  refine
    { known := ?_
      part := List.nil_prefix
      draws := fun source isOpen => ?_
      own := fun source isOpen => ?_ }
  · rw [sources, List.length_append]
    exact Nat.lt_succ_self _
  · obtain rfl := Option.some.inj (adds.self.symm.trans isOpen)
    exact ⟨stands, List.nil_prefix⟩
  · obtain rfl := Option.some.inj (adds.self.symm.trans isOpen)
    exact adds.own grounded

/-- A file can be opened for reading. -/
theorem acquireRead_of_file (named : Instance.containsNul path = false)
    (found : world.host.files.find world.host.directory path = .ok node)
    (file : world.host.files.bytes? node = some content) :
    ∃ channel after, Driver.acquireRead path world = .ok (channel, after) := by
  obtain ⟨executable, isFile⟩ := FileTree.bytes?_eq_some_iff.1 file
  have opened : world.host.openRead world.host.directory path =
      .ok (world.host.describe { object := .node node }) :=
    Host.openRead_eq_ok_iff.2 ⟨node, found, rfl, rfl⟩
  have regular : (world.host.describe { object := .node node }).2.isDirectory
      (world.host.describe { object := .node node }).1 = false := by
    unfold Host.isDirectory Host.describe
    simp [isFile]
  exact ⟨_, _, Driver.acquireRead_eq_ok_iff.2 ⟨named, _, _, opened, regular, rfl, rfl⟩⟩

end World

end AlgorithmDriver

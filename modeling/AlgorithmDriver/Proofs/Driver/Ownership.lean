import AlgorithmDriver.Proofs.Driver.Managing

/-!
# Whose description it is

Each stream has a description of the host to itself, for as long as it is open.

* `World.Grounded` says that no stream has a description that is yet to be made, and `World.Own` which
  streams have a given description.
* Streams keep their descriptions, and new streams get new ones (`Stage.Step.sink_origin`,
  `Stage.Step.source_origin`).  So every step on stage keeps both (`Step.grounded`, `Step.own`).
-/

namespace AlgorithmDriver

/-- A stream that is open was open before, or it is new. -/
theorem Shared.Stays.origin {α : Type} {same : α → α → Prop} {closes : Nat → Prop}
    {fresh : α → Prop} {before after : List (Shared α)} (stays : Stays same closes fresh before after)
    {n : Nat} {stream' : α} (isOpen : (after[n]?).bind Shared.stream = some stream') :
    (∃ stream, (before[n]?).bind Shared.stream = some stream ∧ same stream stream') ∨
      (before.length ≤ n ∧ fresh stream') := by
  obtain ⟨new, found, stream⟩ := Option.bind_eq_some_iff.1 isOpen
  cases known : before[n]? with
  | none =>
    obtain ⟨_, opened, isFresh⟩ := stays.added n new known found
    obtain rfl := Option.some.inj (stream.symm.trans opened)
    exact .inr ⟨List.getElem?_eq_none_iff.1 known, isFresh⟩
  | some old =>
    obtain ⟨_, found', shuts, _⟩ := stays.kept n old known
    obtain rfl := Option.some.inj (found.symm.trans found')
    exact .inl (shuts stream' stream)

namespace World

/-- Open streams have descriptions of the host. -/
structure Grounded (world : World) : Prop where
  sources : ∀ r source, world.openSource? r = some source →
    source.description < world.host.descriptions.length
  sinks : ∀ w sink, world.openSink? w = some sink →
    sink.description < world.host.descriptions.length

/-- Of the open streams only those with the given handles have the description. -/
structure Own (world : World) (n : Nat) (sinks : WriteHandle → Prop) (sources : ReadHandle → Prop) :
    Prop where
  sinks : ∀ w sink, world.openSink? w = some sink → sink.description = n → sinks w
  sources : ∀ r source, world.openSource? r = some source → source.description = n → sources r

variable {world after : World} {n : Nat} {sinks : WriteHandle → Prop} {sources : ReadHandle → Prop}

/-- A world in which no stream was opened yet. -/
theorem Grounded.of_unused (sources : world.sources = []) (sinks : world.sinks = []) :
    world.Grounded where
  sources r _ isOpen := by
    unfold openSource? source? at isOpen
    rw [sources] at isOpen
    cases isOpen
  sinks w _ isOpen := by
    unfold openSink? sink? at isOpen
    rw [sinks] at isOpen
    cases isOpen

theorem Own.quiet (own : world.Own n sinks sources) (quiet : world.Quiet after) :
    after.Own n sinks sources where
  sinks w sink isOpen := own.sinks w sink ((quiet.sinks w).symm.trans isOpen)
  sources r source isOpen := own.sources r source (quiet.sources r source isOpen)

theorem Own.shuts {w : WriteHandle} {sink : Sink} (own : world.Own n sinks sources)
    (shuts : world.Shuts w sink after) : after.Own n sinks sources where
  sinks w' sink' isOpen := by
    by_cases here : w' = w
    · subst here
      cases shuts.shut.symm.trans isOpen
    · exact own.sinks w' sink' ((shuts.others w' here).symm.trans isOpen)
  sources r source isOpen :=
    own.sources r source ((openSource?_of_sources shuts.sources r).symm.trans isOpen)

theorem Manages.grounded (manages : world.Manages after) (grounded : world.Grounded) :
    after.Grounded := by
  induction manages with
  | refl => exact grounded
  | quiet _ quiet ih =>
    have grown := quiet.host.onward.length_le
    exact ⟨fun r source isOpen =>
      Nat.lt_of_lt_of_le (ih.sources r source (quiet.sources r source isOpen)) grown,
      fun w sink isOpen =>
        Nat.lt_of_lt_of_le (ih.sinks w sink ((quiet.sinks w).symm.trans isOpen)) grown⟩
  | @shut world _ w sink _ shuts ih =>
    have grown := ((sink.flush_onward world.host).trans shuts.host.onward).length_le
    refine ⟨fun r source isOpen => ?_, fun w' sink' isOpen => ?_⟩
    · have was := (openSource?_of_sources shuts.sources r).symm.trans isOpen
      exact Nat.lt_of_lt_of_le (ih.sources r source was) grown
    · by_cases here : w' = w
      · subst here
        cases shuts.shut.symm.trans isOpen
      · have was := (shuts.others w' here).symm.trans isOpen
        exact Nat.lt_of_lt_of_le (ih.sinks w' sink' was) grown

end World

namespace Stage

variable {s t : Stage} {deed : Deed} {deeds : List Deed} {n : Nat}

/-- A sink that is open was open before, or it is new and has a new description. -/
theorem Step.sink_origin (step : Step s deed t) {w : WriteHandle} {sink' : Sink}
    (isOpen : t.world.openSink? w = some sink') :
    (∃ sink, s.world.openSink? w = some sink ∧ sink.Same sink') ∨
      (s.world.sinks.length ≤ w.number ∧ s.world.host.Made t.world.host sink'.description) :=
  step.sinks_stay.origin isOpen

theorem Step.source_origin (step : Step s deed t) {r : ReadHandle} {source' : Source}
    (isOpen : t.world.openSource? r = some source') :
    (∃ source, s.world.openSource? r = some source ∧ source.Same source') ∨
      (s.world.sources.length ≤ r.number ∧ s.world.host.Made t.world.host source'.description) :=
  step.sources_stay.origin isOpen

theorem Step.grounded (step : Step s deed t) (grounded : s.world.Grounded) : t.world.Grounded where
  sources r source' isOpen := by
    rcases step.source_origin isOpen with ⟨source, was, same⟩ | ⟨_, made⟩
    · rw [same.description]
      exact Nat.lt_of_lt_of_le (grounded.sources r source was) step.ahead.onward.length_le
    · exact made.2
  sinks w sink' isOpen := by
    rcases step.sink_origin isOpen with ⟨sink, was, same⟩ | ⟨_, made⟩
    · rw [same.description]
      exact Nat.lt_of_lt_of_le (grounded.sinks w sink was) step.ahead.onward.length_le
    · exact made.2

theorem Run.grounded (run : Run s deeds t) (grounded : s.world.Grounded) : t.world.Grounded := by
  induction run with
  | nil => exact grounded
  | snoc _ step ih => exact step.grounded ih

/-- What is owned stays so. -/
theorem Step.own {sinks : WriteHandle → Prop} {sources : ReadHandle → Prop} (step : Step s deed t)
    (own : s.world.Own n sinks sources) (known : n < s.world.host.descriptions.length) :
    t.world.Own n sinks sources where
  sinks w sink' isOpen here := by
    rcases step.sink_origin isOpen with ⟨sink, was, same⟩ | ⟨_, made⟩
    · exact own.sinks w sink was (same.description.symm.trans here)
    · exact absurd (here ▸ made.1) (Nat.not_le.2 known)
  sources r source' isOpen here := by
    rcases step.source_origin isOpen with ⟨source, was, same⟩ | ⟨_, made⟩
    · exact own.sources r source was (same.description.symm.trans here)
    · exact absurd (here ▸ made.1) (Nat.not_le.2 known)

end Stage

end AlgorithmDriver

import AlgorithmDriver.CommandLine.Exchange
import AlgorithmDriver.Proofs.Driver.FileRun
import AlgorithmDriver.Proofs.Driver.Piping

/-!
# Steps of a copy

A copy takes turns at reading a piece and writing it.

* `CommandLine.Transfer.Goes` has a case for each outcome of a step (`step_goes`).
* `World.Copies` is what such a step does to the world, whatever its outcome: one source is read, or
  one sink is written.  Streams that are neither of the two are left alone (`Piped.copies`,
  `Supplies.copies`, `Carries.copies`, `Delivers.copies` and the like).
-/

namespace AlgorithmDriver

namespace World

variable {world after : World} {r r' : ReadHandle} {w w' : WriteHandle}

/-! ## What a copy leaves alone -/

/-- Something is read from `r` or written to `w`. -/
inductive Copies (r : ReadHandle) (w : WriteHandle) (before after : World) : Prop
  | read {result : Except StreamError Bytes}
      (done : before.read r bufferSize = some (result, after))
  | write {data : Bytes} {result : Except StreamError Nat}
      (done : before.write w data = some (result, after))

namespace Copies

theorem processes (copies : Copies r w world after) :
    after.host.processes = world.host.processes := by
  cases copies with
  | read done =>
    rcases read_cases done with ⟨_, _, rfl⟩ | ⟨_, _, read, _⟩
    · rfl
    · exact Source.read_processes read
  | write done =>
    rcases write_cases done with ⟨_, _, rfl⟩ | ⟨_, _, written, _⟩
    · rfl
    · exact Sink.write_processes written

theorem ahead (copies : Copies r w world after) : world.Ahead after := by
  cases copies with
  | read done => exact ⟨read_later done, read_onward done⟩
  | write done => exact ⟨write_later done, write_onward done⟩

theorem counts (copies : Copies r w world after) :
    after.sources.length = world.sources.length ∧ after.sinks.length = world.sinks.length := by
  cases copies with
  | read done =>
    rcases read_cases done with ⟨_, _, rfl⟩ | ⟨_, _, _, uses⟩
    · exact ⟨rfl, rfl⟩
    · exact ⟨uses.sourceCount, congrArg List.length uses.sinks⟩
  | write done =>
    rcases write_cases done with ⟨_, _, rfl⟩ | ⟨_, _, _, uses⟩
    · exact ⟨rfl, rfl⟩
    · exact ⟨congrArg List.length uses.sources, uses.sinkCount⟩

theorem spares (copies : Copies r w world after) :
    world.host.Spares (fun _ => True) (fun _ => True) after.host := by
  cases copies with
  | read done =>
    rcases read_cases done with ⟨_, _, rfl⟩ | ⟨_, _, read, _⟩
    · exact .refl _
    · exact (Source.read_spares read).mono (fun _ _ => trivial) fun _ here => here
  | write done =>
    rcases write_cases done with ⟨_, _, rfl⟩ | ⟨_, _, written, _⟩
    · exact .refl _
    · exact (Sink.write_spares written).mono (fun _ _ => trivial) fun _ _ => trivial

/-- A stream that is open was open before. -/
theorem sink_origin {sink' : Sink} (copies : Copies r w world after)
    (isOpen : after.openSink? w' = some sink') :
    ∃ sink, world.openSink? w' = some sink ∧ sink'.description = sink.description ∧
      (w' ≠ w → sink' = sink) := by
  cases copies with
  | read done =>
    rw [openSink?_of_sinks (read_sinks done)] at isOpen
    exact ⟨sink', isOpen, rfl, fun _ => rfl⟩
  | write done =>
    rcases write_cases done with ⟨_, _, rfl⟩ | ⟨sink, sink'', written, uses⟩
    · exact ⟨sink', isOpen, rfl, fun _ => rfl⟩
    · by_cases here : w' = w
      · subst here
        obtain ⟨was, before, same⟩ := uses.origin (Sink.write_same written) isOpen
        exact ⟨was, before, same, fun apart => absurd rfl apart⟩
      · exact ⟨sink', (uses.others w' here).symm.trans isOpen, rfl, fun _ => rfl⟩

theorem grounded (copies : Copies r w world after) (grounded : world.Grounded) :
    after.Grounded := by
  cases copies with
  | read done =>
    rcases read_cases done with ⟨_, _, rfl⟩ | ⟨_, _, read, uses⟩
    · exact grounded
    · exact uses.grounded (Source.read_same read) (Source.read_onward read) grounded
  | write done =>
    rcases write_cases done with ⟨_, _, rfl⟩ | ⟨_, _, written, uses⟩
    · exact grounded
    · exact uses.grounded (Sink.write_same written) (Sink.write_onward written) grounded

/-- No pipe gets a writer. -/
theorem seals (copies : Copies r w world after) : world.host.Seals after.host := by
  cases copies with
  | read done =>
    rcases read_cases done with ⟨_, _, rfl⟩ | ⟨_, _, read, _⟩
    · exact .refl _
    · exact (Source.read_uses read).sealed
  | write done =>
    rcases write_cases done with ⟨_, _, rfl⟩ | ⟨_, _, written, _⟩
    · exact .refl _
    · exact (Sink.write_uses written).sealed

theorem source_isSome (copies : Copies r w world after)
    (isOpen : (world.openSource? r').isSome = true) : (after.openSource? r').isSome = true := by
  cases copies with
  | read done =>
    rcases read_cases done with ⟨_, _, rfl⟩ | ⟨source, source', _, uses⟩
    · exact isOpen
    · by_cases here : r' = r
      · rw [here, uses.now]
        rfl
      · rwa [uses.others r' here]
  | write done => rwa [openSource?_of_sources (write_sources done)]

end Copies

theorem Piped.copies {k : Nat} {writer : Option WriteHandle} {reader : Option ReadHandle}
    {held : Bytes} (piped : world.Piped k writer reader held) (copies : Copies r w world after)
    (apart : reader ≠ some r) (apart' : writer ≠ some w) : after.Piped k writer reader held := by
  cases copies with
  | read done => exact piped.read_ne done apart
  | write done => exact piped.write_ne done apart'

/-- A copy to a pipe changes no file. -/
theorem Piped.copies_into {k : Nat} {reader : Option ReadHandle} {held : Bytes}
    (piped : world.Piped k (some w) reader held) (copies : Copies r w world after)
    (apart : reader ≠ some r) : (after.host.files = world.host.files ∧
      after.host.directory = world.host.directory) ∧
      ∃ more, after.Piped k (some w) reader (held ++ more) := by
  cases copies with
  | read done =>
    refine ⟨?_, [], (List.append_nil held).symm ▸ piped.read_ne done apart⟩
    rcases read_cases done with ⟨_, _, rfl⟩ | ⟨_, _, read, _⟩
    · exact ⟨rfl, rfl⟩
    · exact Source.read_files read
  | write done =>
    obtain ⟨same, ⟨_, _, now⟩ | ⟨m, _, now⟩⟩ := piped.write_self done
    · exact ⟨same, [], (List.append_nil held).symm ▸ now⟩
    · exact ⟨same, _, now⟩

theorem Supplies.copies {d k : Nat} (supplies : world.Supplies w' d k)
    (copies : Copies r w world after) : after.Supplies w' d k := by
  cases copies with
  | read done => exact supplies.read done
  | write done => exact supplies.write done

theorem Unwritten.copies {node : Nat} {content : Bytes} (unwritten : world.Unwritten node content)
    (copies : Copies r w world after) : after.Unwritten node content := by
  cases copies with
  | read done => exact unwritten.read done
  | write done => exact unwritten.write done

theorem Delivers.copies {node : Nat} {drawn whole : Bytes}
    (delivers : world.Delivers r' node drawn whole) (copies : Copies r w world after)
    (apart : r ≠ r') : after.Delivers r' node drawn whole := by
  cases copies with
  | read done => exact delivers.read_other done apart
  | write done => exact delivers.write done

theorem Carries.copies {node : Nat} {whole : Bytes} (carries : world.Carries w' node whole)
    (copies : Copies r w world after) (apart : w ≠ w')
    (aside : ∀ sink, world.openSink? w = some sink → ¬ world.host.Leads sink.description node) :
    after.Carries w' node whole := by
  cases copies with
  | read done => exact carries.read done
  | write done => exact carries.write_other done apart aside

/-- What writes to a pipe writes to no file. -/
theorem Piped.aside {k node : Nat} {reader : Option ReadHandle} {held : Bytes}
    (piped : world.Piped k (some w) reader held) (sink : Sink)
    (isOpen : world.openSink? w = some sink) : ¬ world.host.Leads sink.description node := by
  intro leads
  cases leads.denotes.unique (((piped.sinks w sink isOpen).1).1 rfl)

/-! ## Streams without anything left to write -/

/-- No open stream has anything left to write. -/
def Idle (world : World) : Prop := ∀ w sink, world.openSink? w = some sink → sink.pending = []

/-- Nothing is written when handles are managed. -/
theorem Manages.muted_of_idle (manages : world.Manages after) (idle : world.Idle) :
    world.host.Muted after.host ∧ after.Idle := by
  induction manages with
  | refl => exact ⟨.refl _, idle⟩
  | quiet _ quiet ih =>
    exact ⟨ih.1.trans quiet.muted, fun w sink isOpen =>
      ih.2 w sink ((quiet.sinks w).symm.trans isOpen)⟩
  | shut _ shuts ih =>
    rename_i w sink _
    refine ⟨ih.1.trans ?_, fun w' sink' isOpen => ?_⟩
    · have muted := shuts.muted
      rwa [Sink.flush_of_idle (ih.2 w sink shuts.found)] at muted
    · by_cases here : w' = w
      · subst here
        cases shuts.shut.symm.trans isOpen
      · exact ih.2 w' sink' ((shuts.others w' here).symm.trans isOpen)

theorem Manages.seals (manages : world.Manages after) : world.host.Seals after.host := by
  induction manages with
  | refl => exact .refl _
  | quiet _ quiet ih => exact ih.trans quiet.muted.sealed
  | shut _ shuts ih => exact (ih.trans (Sink.flush_uses _ _).sealed).trans shuts.muted.sealed

/-! ## Sources that are held -/

theorem openSource?_holdSource (world : World) (r r' : ReadHandle) :
    (world.holdSource r).openSource? r' = world.openSource? r' := by
  cases found : world.source? r with
  | none =>
    unfold World.holdSource
    rw [found]
  | some shared => exact openSource?_of_set found (holdSource_sources found) fun _ => rfl

/-- Another source is dropped. -/
theorem openSource?_dropSource (world : World) (apart : r' ≠ r) :
    (world.dropSource r).openSource? r' = world.openSource? r' := by
  cases found : world.source? r with
  | none =>
    unfold World.dropSource
    rw [found]
  | some shared =>
    exact openSource?_of_set found (dropSource_sources found) fun here => absurd here apart

end World

namespace CommandLine.Transfer

variable {t : Transfer} {world after : World} {progress : Progress}

/-! ## Steps -/

/-- What comes of a step of a copy. -/
inductive Goes (t : Transfer) (world : World) : Progress → World → Prop
  | unread {error : StreamError} {after : World} (idle : t.pending = [])
      (read : world.read t.source bufferSize = some (.error error, after)) :
      Goes t world (.ended (.error error)) after
  | finished {after : World} (idle : t.pending = [])
      (read : world.read t.source bufferSize = some (.ok [], after)) :
      Goes t world (.ended (.ok ())) after
  | fetched {bytes : Bytes} {after : World} (idle : t.pending = []) (more : bytes ≠ [])
      (read : world.read t.source bufferSize = some (.ok bytes, after)) :
      Goes t world (.onward { t with pending := bytes }) after
  | unwritten {error : StreamError} {after : World} (busy : t.pending ≠ [])
      (written : world.write t.sink t.pending = some (.error error, after)) :
      Goes t world (.ended (.error error)) after
  | delivered {n : Nat} {after : World} (busy : t.pending ≠ [])
      (written : world.write t.sink t.pending = some (.ok n, after)) :
      Goes t world (.onward { t with pending := t.pending.drop n }) after

theorem step_goes (h : t.step world = some (progress, after)) : t.Goes world progress after := by
  unfold Transfer.step at h
  split at h
  · rename_i empty
    have idle := List.isEmpty_iff.1 empty
    obtain ⟨⟨result, _⟩, read, gives⟩ := Option.map_eq_some_iff.1 h
    cases result with
    | error e =>
      cases gives
      exact .unread idle read
    | ok bytes =>
      cases bytes with
      | nil =>
        cases gives
        exact .finished idle read
      | cons b rest =>
        cases gives
        exact .fetched idle (List.cons_ne_nil b rest) read
  · rename_i more
    have busy : t.pending ≠ [] := fun idle => more (List.isEmpty_iff.2 idle)
    obtain ⟨⟨result, _⟩, written, gives⟩ := Option.map_eq_some_iff.1 h
    cases result <;> cases gives
    · exact .unwritten busy written
    · exact .delivered busy written

theorem Goes.copies (goes : t.Goes world progress after) :
    world.Copies t.source t.sink after := by
  cases goes with
  | unread _ read => exact .read read
  | finished _ read => exact .read read
  | fetched _ _ read => exact .read read
  | unwritten _ written => exact .write written
  | delivered _ written => exact .write written

/-- The streams stay those of the copy. -/
theorem Goes.same {t' : Transfer} (goes : t.Goes world (.onward t') after) :
    t'.source = t.source ∧ t'.sink = t.sink := by
  cases goes <;> exact ⟨rfl, rfl⟩

/-- The streams are given up in the end. -/
theorem release_manages (t : Transfer) (world : World) : world.Manages
    (((world.closeSink t.sink).2.dropSink t.sink).dropSource t.source) :=
  (World.releaseSink_manages world t.sink).trans (World.dropSource_quiet _ _).manages

/-- A write that is refused ends the copy. -/
theorem step_of_unwritten {error : StreamError} (busy : t.pending ≠ [])
    (written : world.write t.sink t.pending = some (.error error, after)) :
    t.step world = some (.ended (.error error), after) := by
  have more : t.pending.isEmpty = false := by
    cases pending : t.pending with
    | nil => exact absurd pending busy
    | cons b rest => rfl
  rw [Transfer.step, more, if_neg Bool.false_ne_true, Transfer.writePiece, written]
  rfl

end CommandLine.Transfer

end AlgorithmDriver

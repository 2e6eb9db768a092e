import AlgorithmDriver.Proofs.Driver.Piping
import AlgorithmDriver.Proofs.Host.Confinement

/-!
# Streams out of reach

The descriptions of a driver's streams are its own: no process has a descriptor of one.

* `World.Secluded` says so, and that descriptions are held at least as often as processes denote them.
* `World.Tends` is what a driver does with its streams, apart from starting instances: it gives up no
  descriptions but those of its streams, and new streams get new ones (`read_tends`, `write_tends`,
  `Manages.tends` and the like).  It keeps them secluded (`Secluded.tends`).
-/

namespace AlgorithmDriver

/-- No process has a descriptor of the description. -/
structure Host.Shielded (host : Host) (n : Nat) : Prop where
  known : n < host.descriptions.length
  free : host.grasps n = 0

namespace World

variable {world after : World} {n : Nat}

/-- No process has a descriptor of what a stream reads or writes. -/
structure Secluded (world : World) : Prop where
  counted : ∀ n, world.host.grasps n ≤ world.host.holders n
  streams : ∀ n, world.Describes n → world.host.Shielded n

/-- A driver goes on with its streams.  No pipe is lost meanwhile. -/
structure Tends (before after : World) : Prop where
  onward : before.host.Onward after.host
  frees : before.host.Frees before.Describes after.host
  origin : ∀ n, after.Describes n → before.Describes n ∨ before.host.Made after.host n
  pipes : before.host.pipes.length ≤ after.host.pipes.length

namespace Tends

theorem refl (world : World) : world.Tends world :=
  ⟨.refl _, .refl _, fun _ => .inl, Nat.le_refl _⟩

theorem trans {a b c : World} (hab : a.Tends b) (hbc : b.Tends c) : a.Tends c where
  onward := hab.onward.trans hbc.onward
  frees :=
    { grasps := fun n => Nat.le_trans (hbc.frees.grasps n) (hab.frees.grasps n)
      holders := fun n other => by
        have first := hab.frees.holders n other
        by_cases between : b.Describes n
        · -- a stream got the description in between, so nobody held it before
          obtain was | made := hab.origin n between
          · exact absurd was other
          · rw [Host.holders_of_le made.1, Nat.zero_add]
            have fewer := Nat.le_trans (hbc.frees.grasps n) (hab.frees.grasps n)
            exact Nat.le_trans fewer (Nat.le_add_left _ _)
        · have second := hbc.frees.holders n between
          omega }
  origin n described := by
    rcases hbc.origin n described with between | made
    · exact (hab.origin n between).imp_right fun made => made.onward (.refl _) hbc.onward
    · exact .inr (made.onward hab.onward (.refl _))
  pipes := Nat.le_trans hab.pipes hbc.pipes

end Tends

/-- A description that is yet to be made is nobody's. -/
theorem Secluded.free_of_le (secluded : world.Secluded)
    (new : world.host.descriptions.length ≤ n) : world.host.grasps n = 0 :=
  Nat.le_zero.1 (Host.holders_of_le new ▸ secluded.counted n)

theorem Secluded.tends (secluded : world.Secluded) (tends : world.Tends after) :
    after.Secluded where
  counted n := by
    have counted := secluded.counted n
    by_cases described : world.Describes n
    · have fewer := tends.frees.grasps n
      rw [(secluded.streams n described).free] at fewer
      exact Nat.le_trans fewer (Nat.zero_le _)
    · have balanced := tends.frees.holders n described
      omega
  streams n described := by
    have fewer := tends.frees.grasps n
    rcases tends.origin n described with was | made
    · obtain ⟨known, free⟩ := secluded.streams n was
      exact ⟨Nat.lt_of_lt_of_le known tends.onward.length_le, Nat.le_zero.1 (free ▸ fewer)⟩
    · exact ⟨made.2, Nat.le_zero.1 (secluded.free_of_le made.1 ▸ fewer)⟩

/-! ## Handles -/

theorem Quiet.tends (quiet : world.Quiet after) : world.Tends after where
  onward := quiet.host.onward
  frees := quiet.frees
  origin n described := by
    rcases described with ⟨w, sink, isOpen, same⟩ | ⟨r, source, isOpen, same⟩
    · exact .inl (.inl ⟨w, sink, (quiet.sinks w).symm.trans isOpen, same⟩)
    · exact .inl (.inr ⟨r, source, quiet.sources r source isOpen, same⟩)
  pipes := Nat.le_of_eq (congrArg List.length quiet.muted.pipes).symm

end World

/-! ## Reading and writing -/

/-- What a read or a write does to descriptions and pipes. -/
structure Host.Stirs (before after : Host) : Prop where
  onward : before.Onward after
  balanced : before.Balanced after
  pipes : before.pipes.length ≤ after.pipes.length

namespace Host.Stirs

variable {host after : Host} {n count : Nat} {data : Bytes}

theorem refl (host : Host) : host.Stirs host := ⟨.refl _, .refl _, Nat.le_refl _⟩

theorem trans {a b c : Host} (hab : a.Stirs b) (hbc : b.Stirs c) : a.Stirs c :=
  ⟨hab.onward.trans hbc.onward, hab.balanced.trans hbc.balanced, Nat.le_trans hab.pipes hbc.pipes⟩

theorem of_read {r : Except Errno Bytes} (done : host.read n count = some (r, after)) :
    host.Stirs after := by
  have shuns : host.Shuns (fun _ => False) after := .read id done
  exact ⟨shuns.onward, (read_moves done).balanced (read_processes done), shuns.pipes_le⟩

theorem of_write {r : Except Errno Nat} (done : host.write n data = some (r, after)) :
    host.Stirs after := by
  have shuns : host.Shuns (fun _ => False) after := .write id done
  exact ⟨shuns.onward, (write_moves done).balanced (write_processes done), shuns.pipes_le⟩

end Host.Stirs

namespace World

variable {world after : World} {n count : Nat} {w : WriteHandle} {r : ReadHandle} {data : Bytes}

theorem read_tends {result : Except StreamError Bytes}
    (done : world.read r count = some (result, after)) : world.Tends after := by
  rcases read_cases done with ⟨_, _, rfl⟩ | ⟨source, source', read, uses⟩
  · exact .refl _
  · have stirs : world.host.Stirs after.host := by
      rcases Source.read_through read with same | ⟨_, _, read⟩
      · rw [same]
        exact .refl _
      · exact .of_read read
    refine ⟨stirs.onward, stirs.balanced.mono fun _ => False.elim, fun n described => .inl ?_,
      stirs.pipes⟩
    rcases described with ⟨w, sink, isOpen, same⟩ | ⟨r', other, isOpen, same⟩
    · exact .inl ⟨w, sink, (openSink?_of_sinks uses.sinks w).symm.trans isOpen, same⟩
    · obtain ⟨was, before, description⟩ := uses.origin (Source.read_same read) isOpen
      exact .inr ⟨r', was, before, description.symm.trans same⟩

theorem write_tends {result : Except StreamError Nat}
    (done : world.write w data = some (result, after)) : world.Tends after := by
  rcases write_cases done with ⟨_, _, rfl⟩ | ⟨sink, sink', written, uses⟩
  · exact .refl _
  · have stirs : world.host.Stirs after.host :=
      Sink.write_through Host.Stirs.refl (fun first second => first.trans second) Host.Stirs.of_write
        written
    refine ⟨stirs.onward, stirs.balanced.mono fun _ => False.elim, fun n described => .inl ?_,
      stirs.pipes⟩
    rcases described with ⟨w', other, isOpen, same⟩ | ⟨r, source, isOpen, same⟩
    · obtain ⟨was, before, description⟩ := uses.origin (Sink.write_same written) isOpen
      exact .inl ⟨w', was, before, description.symm.trans same⟩
    · exact .inr ⟨r, source, (openSource?_of_sources uses.sources r).symm.trans isOpen, same⟩

theorem Shuts.tends {sink : Sink} (shuts : world.Shuts w sink after) : world.Tends after := by
  have flushed : world.host.Stirs (sink.flush world.host).2.2 := by
    rcases sink.flush_through world.host with same | ⟨_, written⟩
    · rw [same]
      exact .refl _
    · exact .of_write written
  refine ⟨flushed.onward.trans shuts.host.onward, ?_, fun n described => .inl ?_, ?_⟩
  · exact (flushed.balanced.mono fun _ => False.elim).trans
      (shuts.frees.mono fun n here => .inl ⟨w, sink, shuts.found, here.symm⟩)
  · rcases described with ⟨w', other, isOpen, same⟩ | ⟨r, source, isOpen, same⟩
    · by_cases here : w' = w
      · subst here
        cases shuts.shut.symm.trans isOpen
      · exact .inl ⟨w', other, (shuts.others w' here).symm.trans isOpen, same⟩
    · exact .inr ⟨r, source, (openSource?_of_sources shuts.sources r).symm.trans isOpen, same⟩
  · rw [shuts.muted.pipes]
    exact flushed.pipes

theorem Manages.tends (manages : world.Manages after) : world.Tends after := by
  induction manages with
  | refl => exact .refl world
  | quiet _ quiet ih => exact ih.trans quiet.tends
  | shut _ shuts ih => exact ih.trans shuts.tends

/-! ## Opening files -/

variable {path : String} {node : Nat}

theorem OpensRead.tends {source : Source} (opens : OpensRead path node source world after) :
    world.Tends after where
  onward := opens.onward
  frees := opens.balanced.mono fun _ => False.elim
  origin n described := by
    rcases described with ⟨w, sink, isOpen, same⟩ | ⟨r, other, isOpen, same⟩
    · exact .inl (.inl ⟨w, sink, (openSink?_of_sinks opens.sinks w).symm.trans isOpen, same⟩)
    · rcases opens.toAddsSource.origin isOpen with ⟨_, rfl⟩ | was
      · exact .inr (same ▸ opens.made)
      · exact .inl (.inr ⟨r, other, was, same⟩)
  pipes := Nat.le_of_eq (congrArg List.length opens.pipes).symm

theorem OpensWrite.tends {sink : Sink} (opens : OpensWrite path node sink world after) :
    world.Tends after where
  onward := opens.onward
  frees := opens.balanced.mono fun _ => False.elim
  origin n described := by
    rcases described with ⟨w, other, isOpen, same⟩ | ⟨r, source, isOpen, same⟩
    · rcases opens.toAddsSink.origin isOpen with ⟨_, rfl⟩ | was
      · exact .inr (same ▸ opens.made)
      · exact .inl (.inl ⟨w, other, was, same⟩)
    · exact .inl (.inr ⟨r, source, (openSource?_of_sources opens.sources r).symm.trans isOpen, same⟩)
  pipes := Nat.le_of_eq (congrArg List.length opens.pipes).symm

end World

end AlgorithmDriver

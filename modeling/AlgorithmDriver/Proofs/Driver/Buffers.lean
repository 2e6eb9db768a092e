import AlgorithmDriver.Proofs.Driver.Lasting
import AlgorithmDriver.Proofs.Host.Spares

/-!
# Buffers

File streams are buffered: what was written may not have reached the file yet, and more may have been
read from the file than was asked for.

* `Sink.Fills` says how a file and the buffer before it make up all that was accepted.  Writes of any
  size, flushed or not, keep to this (`Fills.write`), and a flush brings everything into the file
  (`Fills.flush`).
* `Source.Draws` says how far a source has got.  Each read goes on where the one before it ended, and
  gives nothing only at the end of the file (`Draws.read`).
-/

namespace AlgorithmDriver

variable {host after : Host} {node : Nat} {whole content data : Bytes}

/-! ## Sinks -/

namespace Sink

variable {sink : Sink}

/-- The sink stands at the end of the file `node`.  What is in the file, and then what is in the
buffer, is the `whole` of what was accepted. -/
structure Fills (sink : Sink) (host : Host) (node : Nat) (whole : Bytes) : Prop where
  buffered : 0 < sink.capacity
  fits : sink.pending.length ≤ sink.capacity
  file : ∃ content, host.files.bytes? node = some content ∧ content ++ sink.pending = whole ∧
    host.StandsAt sink.description node content.length

/-- A new stream of an empty file. -/
theorem Fills.of_empty {n capacity : Nat} (buffered : 0 < capacity)
    (file : host.files.bytes? node = some []) (stands : host.StandsAt n node 0) :
    ({ description := n, capacity } : Sink).Fills host node [] :=
  ⟨buffered, Nat.zero_le _, [], file, rfl, stands⟩

theorem Fills.kept {moved written : Nat → Prop} (fills : sink.Fills host node whole)
    (keeps : host.Keeps moved written after) (unmoved : ¬ moved sink.description)
    (unwritten : ¬ written node) : sink.Fills after node whole where
  buffered := fills.buffered
  fits := fills.fits
  file := by
    obtain ⟨content, file, all, stands⟩ := fills.file
    exact ⟨content, keeps.files node content unwritten file, all,
      keeps.places _ _ unmoved stands⟩

theorem Fills.leads (fills : sink.Fills host node whole) : host.Leads sink.description node := by
  obtain ⟨_, _, _, stands⟩ := fills.file
  exact stands.leads

/-- What is in the file is the beginning of what was accepted. -/
theorem Fills.part (fills : sink.Fills host node whole) :
    ∃ content, host.files.bytes? node = some content ∧ content <+: whole := by
  obtain ⟨content, file, rfl, _⟩ := fills.file
  exact ⟨content, file, List.prefix_append _ _⟩

/-- With an empty buffer everything is in the file. -/
theorem Fills.all (fills : sink.Fills host node whole) (empty : sink.pending = []) :
    host.files.bytes? node = some whole := by
  obtain ⟨content, file, rfl, _⟩ := fills.file
  rw [empty, List.append_nil]
  exact file

/-- A flush brings everything into the file. -/
theorem Fills.flush (fills : sink.Fills host node whole) :
    ∃ after, sink.flush host = (.ok (), { sink with pending := [] }, after) ∧
      ({ sink with pending := [] } : Sink).Fills after node whole := by
  obtain ⟨content, file, rfl, stands⟩ := fills.file
  by_cases empty : sink.pending = []
  · have same : { sink with pending := [] } = sink := by
      rw [← empty]
    refine ⟨host, ?_, ?_⟩
    · rw [same, Sink.flush, empty]
      rfl
    · rw [same]
      exact fills
  · obtain ⟨after, written, stands', file'⟩ := Host.write_file stands file sink.pending
    refine ⟨after, ?_, fills.buffered, Nat.zero_le _, _, file', List.append_nil _, stands'⟩
    rw [Sink.flush, if_neg (by rwa [List.isEmpty_iff]), written]
    simp only [List.drop_length]

/-- Data that is put into the buffer is accepted. -/
theorem Fills.buffer (fills : sink.Fills host node whole)
    (fits : (sink.pending ++ data).length ≤ sink.capacity) :
    ({ sink with pending := sink.pending ++ data } : Sink).Fills host node (whole ++ data) where
  buffered := fills.buffered
  fits := fits
  file := by
    obtain ⟨content, file, rfl, stands⟩ := fills.file
    exact ⟨content, file, (List.append_assoc _ _ _).symm, stands⟩

/-- Data that passes by an empty buffer is accepted. -/
theorem Fills.writeDirect (fills : sink.Fills host node whole) (empty : sink.pending = [])
    (data : Bytes) : ∃ after, sink.writeDirect host data = some (.ok data.length, sink, after) ∧
      sink.Fills after node (whole ++ data) := by
  obtain ⟨content, file, rfl, stands⟩ := fills.file
  obtain ⟨after, written, stands', file'⟩ := Host.write_file stands file data
  refine ⟨after, ?_, fills.buffered, fills.fits, _, file', ?_, stands'⟩
  · unfold Sink.writeDirect
    rw [written]
    rfl
  · rw [empty, List.append_nil, List.append_nil]

/-- All data is accepted: it goes into the buffer, after a flush if need be, or past it. -/
theorem Fills.write (fills : sink.Fills host node whole) (data : Bytes) :
    ∃ sink' after, sink.write host data = some (.ok data.length, sink', after) ∧
      sink'.Fills after node (whole ++ data) := by
  have buffered := fills.buffered
  have fits := fills.fits
  unfold Sink.write
  rw [if_neg (Nat.ne_of_gt buffered)]
  dsimp only
  by_cases room : data.length < sink.capacity - sink.pending.length
  · rw [if_pos room]
    refine ⟨_, _, rfl, fills.buffer ?_⟩
    rw [List.length_append]
    omega
  · rw [if_neg room]
    by_cases tight : data.length > sink.capacity - sink.pending.length
    · obtain ⟨after, flushed, fills'⟩ := fills.flush
      rw [if_pos tight, flushed]
      dsimp only
      by_cases large : data.length ≥ sink.capacity
      · rw [if_pos large]
        obtain ⟨last, written, fills''⟩ := fills'.writeDirect rfl data
        exact ⟨_, last, written, fills''⟩
      · rw [if_neg large]
        exact ⟨_, _, rfl, fills'.buffer (Nat.le_of_not_le large)⟩
    · rw [if_neg tight]
      dsimp only
      by_cases large : data.length ≥ sink.capacity
      · -- The data just fits and is as large as the buffer, so there is nothing in the buffer.
        have empty : sink.pending = [] := List.length_eq_zero_iff.1 (by omega)
        rw [if_pos large]
        obtain ⟨after, written, fills'⟩ := fills.writeDirect empty data
        exact ⟨_, after, written, fills'⟩
      · rw [if_neg large]
        refine ⟨_, _, rfl, fills.buffer ?_⟩
        rw [List.length_append]
        omega

/-- What a sink does, it does through its own description. -/
theorem flush_spares (sink : Sink) (host : Host) :
    host.Spares (· = sink.description) (host.Leads sink.description) (sink.flush host).2.2 := by
  rcases sink.flush_through host with same | ⟨_, written⟩
  · rw [same]
    exact .refl host
  · exact Host.write_spares written

/-- A sink with nothing to write leaves the file alone. -/
theorem flush_spares_of_idle (idle : host.Leads sink.description node → sink.pending = []) :
    host.Spares (· = sink.description) (· ≠ node) (sink.flush host).2.2 := by
  by_cases empty : sink.pending = []
  · rw [Sink.flush, empty]
    exact .refl host
  · refine (sink.flush_spares host).mono (fun _ here => here) fun n leads => ?_
    rintro rfl
    exact empty (idle leads)

theorem write_spares {sink' : Sink} {r : Except StreamError Nat}
    (h : sink.write host data = some (r, sink', after)) :
    host.Spares (· = sink.description) (host.Leads sink.description) after := by
  -- The description leads to the same file all along, so what is spared first is spared later.
  have spares := write_through
    (R := fun before after => before.Spares (· = sink.description) (before.Leads sink.description)
      after ∧ ∀ n, after.Leads sink.description n → before.Leads sink.description n)
    (fun _ => ⟨.refl _, fun _ => id⟩)
    (fun first second => ⟨first.1.trans (second.1.mono (fun _ => id) first.2),
      fun n leads => first.2 n (second.2 n leads)⟩)
    (fun written => ⟨Host.write_spares written, fun _ => Host.leads_of_write written⟩) h
  exact spares.1

end Sink

/-! ## Sources -/

/-- What comes next in a file follows what was drawn from it. -/
theorem prefix_append_of_drop {drawn : Bytes} (within : drawn <+: whole) (part : content <+: whole)
    (count : Nat) : drawn ++ (content.drop drawn.length).take count <+: whole := by
  by_cases far : drawn.length ≤ content.length
  · obtain ⟨rest, rfl⟩ := List.prefix_of_prefix_length_le within part far
    rw [List.drop_left]
    exact ((List.prefix_append_right_inj drawn).2 (List.take_prefix _ _)).trans part
  · rw [List.drop_eq_nil_of_le (Nat.le_of_not_le far), List.take_nil, List.append_nil]
    exact within

namespace Source

variable {source : Source} {drawn : Bytes}

/-- The source stands in the file `node`, behind what was `drawn` from it and what is in the
buffer.  Both together are the beginning of the `whole`. -/
structure Draws (source : Source) (host : Host) (node : Nat) (drawn whole : Bytes) : Prop where
  stands : host.StandsAt source.description node (drawn ++ source.pending).length
  within : drawn ++ source.pending <+: whole

theorem Draws.kept {moved written : Nat → Prop} (draws : source.Draws host node drawn whole)
    (keeps : host.Keeps moved written after) (unmoved : ¬ moved source.description) :
    source.Draws after node drawn whole :=
  ⟨keeps.places _ _ unmoved draws.stands, draws.within⟩

theorem Draws.grow (draws : source.Draws host node drawn whole) (more : Bytes) :
    source.Draws host node drawn (whole ++ more) :=
  ⟨draws.stands, draws.within.trans (List.prefix_append _ _)⟩

/-- A read goes on where the one before it ended, and gives nothing only when all that is in the file
was drawn. -/
theorem Draws.read (draws : source.Draws host node drawn whole)
    (file : host.files.bytes? node = some content) (part : content <+: whole) (count : Nat) :
    ∃ bytes source' after, source.read host count = some (.ok bytes, source', after) ∧
      source'.Draws after node (drawn ++ bytes) whole ∧ bytes.length ≤ count ∧
      (bytes = [] → 0 < count → content <+: drawn) := by
  obtain ⟨stands, within⟩ := draws
  unfold Source.read
  by_cases empty : source.pending = []
  · rw [empty, List.append_nil] at stands within
    have next (count : Nat) := prefix_append_of_drop within part count
    -- Nothing is left in the file: it ends where the source stands.
    have exhausted (count : Nat) (nothing : (content.drop drawn.length).take count = [])
        (positive : 0 < count) : content <+: drawn := by
      have short : content.length ≤ drawn.length := by
        rcases List.take_eq_nil_iff.1 nothing with zero | none
        · exact absurd zero (Nat.ne_of_gt positive)
        · exact List.drop_eq_nil_iff.1 none
      exact List.prefix_of_prefix_length_le part within short
    by_cases large : count ≥ source.capacity
    · obtain ⟨after, read, stands'⟩ := Host.read_file stands file count
      rw [if_pos (by simp [empty, large]), Source.readDirect, read]
      refine ⟨_, source, after, rfl, ⟨?_, ?_⟩, List.length_take_le _ _, exhausted count⟩
      · rw [empty, List.append_nil, List.length_append]
        exact stands'
      · rw [empty, List.append_nil]
        exact next count
    · obtain ⟨after, read, stands'⟩ := Host.read_file stands file source.capacity
      rw [if_neg (by simp [large]), if_pos (by simp [empty]), read]
      refine ⟨_, _, after, rfl, ⟨?_, ?_⟩, List.length_take_le _ _, fun nothing positive => ?_⟩
      · rw [List.append_assoc, List.take_append_drop, List.length_append]
        exact stands'
      · rw [List.append_assoc, List.take_append_drop]
        exact next source.capacity
      · refine exhausted source.capacity ?_ (Nat.lt_trans positive (Nat.lt_of_not_le large))
        rcases List.take_eq_nil_iff.1 nothing with zero | none
        · exact absurd zero (Nat.ne_of_gt positive)
        · exact none
  · rw [if_neg (by simp [empty]), if_neg (by simp [empty])]
    refine ⟨_, _, host, rfl, ⟨?_, ?_⟩, List.length_take_le _ _, fun nothing positive => ?_⟩
    · rw [List.append_assoc, List.take_append_drop]
      exact stands
    · rw [List.append_assoc, List.take_append_drop]
      exact within
    · rcases List.take_eq_nil_iff.1 nothing with zero | none
      · exact absurd zero (Nat.ne_of_gt positive)
      · exact absurd none empty

/-- What is given depends on the buffer, on the file and on where the source stands in it. -/
theorem read_congr {offset : Nat} (stands : host.StandsAt source.description node offset)
    (stands' : after.StandsAt source.description node offset)
    (file : host.files.bytes? node = some content) (file' : after.files.bytes? node = some content)
    (count : Nat) :
    (source.read after count).map Prod.fst = (source.read host count).map Prod.fst := by
  unfold Source.read Source.readDirect
  split
  · obtain ⟨_, read, _⟩ := Host.read_file stands file count
    obtain ⟨_, read', _⟩ := Host.read_file stands' file' count
    rw [read, read']
    rfl
  · split
    · obtain ⟨_, read, _⟩ := Host.read_file stands file source.capacity
      obtain ⟨_, read', _⟩ := Host.read_file stands' file' source.capacity
      rw [read, read']
      rfl
    · rfl

/-- What a source does, it does through its own description, and it writes nothing. -/
theorem read_spares {written : Nat → Prop} {source' : Source} {count : Nat}
    {r : Except StreamError Bytes} (h : source.read host count = some (r, source', after)) :
    host.Spares (· = source.description) written after := by
  rcases read_through h with rfl | ⟨_, _, read⟩
  · exact .refl _
  · exact Host.read_spares read

end Source

end AlgorithmDriver

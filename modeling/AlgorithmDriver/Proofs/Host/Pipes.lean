import AlgorithmDriver.Proofs.Host.Spares

/-!
# What becomes of pipes

A pipe gives what was written to it, in the same order, and it comes to an end when it is empty and
has no writer any more.

* `Host.Muted` says that pipes and files are left alone and that no pipe gets a writer, as is the case
  whenever only processes and holders change (`release_muted`, `tryWait_muted`, `deliver_muted` and
  the like).
* A read takes from the beginning of the pipe that it is made from (`read_pipe`), and a write adds to
  the end of the pipe that it is made to (`write_pipe`).  All other pipes are left alone
  (`read_pipes_ne`, `write_pipes_ne`).
-/

namespace AlgorithmDriver.Host

variable {host before after : Host} {n k count : Nat} {object : Object} {data held : Bytes}

/-! ## Descriptions -/

/-- The description is that of the object. -/
def Denotes (host : Host) (n : Nat) (object : Object) : Prop :=
  ∃ d, host.descriptions[n]? = some d ∧ d.object = object

/-- Besides, somebody holds it. -/
def Holds (host : Host) (n : Nat) (object : Object) : Prop :=
  ∃ d, host.descriptions[n]? = some d ∧ d.object = object ∧ 0 < d.holders

theorem Denotes.known (denotes : host.Denotes n object) : n < host.descriptions.length := by
  obtain ⟨_, found, _⟩ := denotes
  exact (List.getElem?_eq_some_iff.1 found).1

theorem Denotes.onward (denotes : before.Denotes n object) (onward : before.Onward after) :
    after.Denotes n object := by
  obtain ⟨d, found, rfl⟩ := denotes
  obtain ⟨e, found', same⟩ := onward.descriptions n d found
  exact ⟨e, found', same.object⟩

/-- A description denotes nothing else later on. -/
theorem Denotes.of_onward (denotes : after.Denotes n object) (onward : before.Onward after)
    (bound : n < before.descriptions.length) : before.Denotes n object := by
  obtain ⟨e, found, rfl⟩ := denotes
  have was : before.descriptions[n]? = some before.descriptions[n] := List.getElem?_eq_getElem bound
  obtain ⟨e', found', same⟩ := onward.descriptions n _ was
  obtain rfl := Option.some.inj (found.symm.trans found')
  exact ⟨_, was, same.object.symm⟩

theorem Denotes.unique {other : Object} (denotes : host.Denotes n object)
    (denotes' : host.Denotes n other) : object = other := by
  obtain ⟨d, found, rfl⟩ := denotes
  obtain ⟨e, found', rfl⟩ := denotes'
  rw [Option.some.inj (found.symm.trans found')]

/-- A description that leads to a file denotes it. -/
theorem Leads.denotes {node : Nat} (leads : host.Leads n node) : host.Denotes n (.node node) := by
  obtain ⟨d, place, object⟩ := leads
  obtain ⟨e, found, rfl⟩ := Option.map_eq_some_iff.1 place
  exact ⟨e, found, object⟩

theorem Holds.denotes (holds : host.Holds n object) : host.Denotes n object := by
  obtain ⟨d, found, same, _⟩ := holds
  exact ⟨d, found, same⟩

theorem Holds.hasWriter (holds : host.Holds n (.writeEnd k)) : host.hasWriter k = true := by
  obtain ⟨d, found, object, held⟩ := holds
  refine List.any_eq_true.2 ⟨d, List.mem_of_getElem? found, ?_⟩
  simp [object, held]

theorem hasWriter_eq_false_iff : host.hasWriter k = false ↔
    ∀ (n : Nat) (d : Description), host.descriptions[n]? = some d → d.object = .writeEnd k →
      d.holders = 0 := by
  unfold hasWriter
  rw [List.any_eq_false]
  constructor
  · intro none n d found object
    have quiet := none d (List.mem_of_getElem? found)
    simpa [object] using quiet
  · intro none d mem
    obtain ⟨n, found⟩ := List.mem_iff_getElem?.1 mem
    by_cases object : d.object = .writeEnd k
    · simp [none n d found object]
    · simp [object]

/-! ## Pipes that get no writer -/

/-- No pipe gets a writer that had none. -/
def Seals (before after : Host) : Prop :=
  ∀ k, before.hasWriter k = false → after.hasWriter k = false

theorem Seals.refl (host : Host) : host.Seals host := fun _ sealed => sealed

theorem Seals.trans {a b c : Host} (hab : a.Seals b) (hbc : b.Seals c) : a.Seals c :=
  fun k sealed => hbc k (hab k sealed)

theorem Seals.of_descriptions (same : after.descriptions = before.descriptions) :
    before.Seals after := by
  intro k sealed
  unfold hasWriter at sealed ⊢
  rw [same]
  exact sealed

/-- A description is moved, or held less often. -/
theorem Seals.setDescription {d e : Description} (found : host.descriptions[n]? = some d)
    (same : e.object = d.object) (less : e.holders ≤ d.holders) :
    host.Seals (host.setDescription n e) := by
  intro k sealed
  rw [hasWriter_eq_false_iff] at sealed ⊢
  intro m other found' object
  by_cases here : n = m
  · subst here
    have now : (host.setDescription n e).descriptions[n]? = some e :=
      List.getElem?_set_self (List.getElem?_eq_some_iff.1 found).1
    obtain rfl := Option.some.inj (now.symm.trans found')
    exact Nat.le_zero.1 (sealed n d found (same.symm.trans object) ▸ less)
  · exact sealed m other ((List.getElem?_set_ne here).symm.trans found') object

/-- A new description of a file. -/
theorem Seals.describe {d : Description} {node : Nat} (object : d.object = .node node) :
    host.Seals (host.describe d).2 := by
  intro k sealed
  rw [hasWriter_eq_false_iff] at sealed ⊢
  intro m other found writes
  rcases List.mem_append.1 (List.mem_of_getElem? found) with old | new
  · obtain ⟨m, found⟩ := List.mem_iff_getElem?.1 old
    exact sealed m other found writes
  · cases List.mem_singleton.1 new
    cases object.symm.trans writes

/-! ## What leaves pipes and files alone -/

/-- Pipes and files are left alone, and no pipe gets a writer. -/
structure Muted (before after : Host) : Prop where
  pipes : after.pipes = before.pipes
  files : after.files = before.files
  directory : after.directory = before.directory
  sealed : before.Seals after

namespace Muted

theorem refl (host : Host) : host.Muted host := ⟨rfl, rfl, rfl, .refl host⟩

theorem trans {a b c : Host} (hab : a.Muted b) (hbc : b.Muted c) : a.Muted c where
  pipes := hbc.pipes.trans hab.pipes
  files := hbc.files.trans hab.files
  directory := hbc.directory.trans hab.directory
  sealed := hab.sealed.trans hbc.sealed

end Muted

theorem setProcess_muted (host : Host) (n : Nat) (p : Process) : host.Muted (host.setProcess n p) :=
  ⟨rfl, rfl, rfl, .of_descriptions rfl⟩

theorem release_muted (host : Host) (n : Nat) : host.Muted (host.release n) := by
  unfold release
  split
  · rename_i found
    exact ⟨rfl, rfl, rfl, .setDescription found rfl (Nat.sub_le _ _)⟩
  · exact .refl host

theorem foldl_release_muted (entries : List (Nat × Nat)) (host : Host) :
    host.Muted (entries.foldl (fun host d => host.release d.2) host) := by
  induction entries generalizing host with
  | nil => exact .refl host
  | cons d rest ih => exact (release_muted host d.2).trans (ih _)

theorem finish_muted (host : Host) (n : Nat) (status : ExitStatus) :
    host.Muted (host.finish n status) := by
  unfold finish
  split
  · exact .refl host
  · exact (foldl_release_muted _ host).trans (setProcess_muted _ _ _)

theorem deliver_muted (host : Host) (n : Nat) : host.Muted (host.deliver n) := by
  unfold deliver
  split
  · exact finish_muted host n _
  · exact .refl host

theorem Adjusts.muted (adjusts : host.Adjusts n after) : host.Muted after := by
  cases adjusts with
  | nothing => exact .refl host
  | process => exact setProcess_muted host n _

theorem tryWait_muted (host : Host) (n : Nat) : host.Muted (host.tryWait n).2 :=
  (tryWait_adjusts host n).muted

theorem send_muted (host : Host) (n : Nat) (signal : Signal) :
    host.Muted (host.send n signal) :=
  (send_adjusts host n signal).muted

/-! ## Using a description -/

/-- Descriptions are as held as they were. -/
def SameHolds (before after : Host) : Prop :=
  ∀ (n : Nat) (d : Description), before.descriptions[n]? = some d →
    ∃ e, after.descriptions[n]? = some e ∧ e.object = d.object ∧ e.holders = d.holders

theorem SameHolds.of_descriptions (same : after.descriptions = before.descriptions) :
    before.SameHolds after :=
  fun _ d found => ⟨d, same ▸ found, rfl, rfl⟩

theorem SameHolds.trans {a b c : Host} (hab : a.SameHolds b) (hbc : b.SameHolds c) :
    a.SameHolds c := by
  intro n d found
  obtain ⟨e, found', object, holders⟩ := hab n d found
  obtain ⟨f, found'', object', holders'⟩ := hbc n e found'
  exact ⟨f, found'', object'.trans object, holders'.trans holders⟩

/-- A description is moved. -/
theorem SameHolds.setDescription {d e : Description} (found : host.descriptions[n]? = some d)
    (same : e.object = d.object) (holders : e.holders = d.holders) :
    host.SameHolds (host.setDescription n e) := by
  intro m other found'
  by_cases here : n = m
  · subst here
    obtain rfl := Option.some.inj (found.symm.trans found')
    exact ⟨e, List.getElem?_set_self (List.getElem?_eq_some_iff.1 found).1, same, holders⟩
  · exact ⟨other, (List.getElem?_set_ne here).trans found', rfl, rfl⟩

theorem SameHolds.describe (host : Host) (d : Description) : host.SameHolds (host.describe d).2 :=
  fun _ other found =>
    ⟨other, (List.getElem?_append_left (List.getElem?_eq_some_iff.1 found).1).trans found, rfl, rfl⟩

theorem Holds.same (holds : before.Holds n object) (same : before.SameHolds after) :
    after.Holds n object := by
  obtain ⟨d, found, rfl, held⟩ := holds
  obtain ⟨e, found', object, holders⟩ := same n d found
  exact ⟨e, found', object, holders ▸ held⟩

/-- Another description is given up. -/
theorem Holds.release {m : Nat} (holds : host.Holds n object) (apart : m ≠ n) :
    (host.release m).Holds n object := by
  obtain ⟨d, found, same, held⟩ := holds
  refine ⟨d, ?_, same, held⟩
  unfold Host.release
  split
  · exact (List.getElem?_set_ne apart).trans found
  · exact found

/-- What is done with a description that stays as held as it was: it is moved, or pipes and files
change. -/
structure Uses (before after : Host) : Prop where
  holds : before.SameHolds after
  sealed : before.Seals after

theorem Uses.of_descriptions (same : after.descriptions = before.descriptions) :
    before.Uses after := ⟨.of_descriptions same, .of_descriptions same⟩

theorem Uses.refl (host : Host) : host.Uses host := .of_descriptions rfl

theorem Uses.trans {a b c : Host} (hab : a.Uses b) (hbc : b.Uses c) : a.Uses c :=
  ⟨hab.holds.trans hbc.holds, hab.sealed.trans hbc.sealed⟩

theorem Uses.setDescription {d e : Description} (found : host.descriptions[n]? = some d)
    (same : e.object = d.object) (holders : e.holders = d.holders) :
    host.Uses (host.setDescription n e) :=
  ⟨.setDescription found same holders, .setDescription found same (Nat.le_of_eq holders)⟩

/-! ## Reading -/

section Reading

variable {r : Except Errno Bytes} (h : host.read n count = some (r, after))
include h

theorem read_uses : host.Uses after := by
  cases read_reads h with
  | unknown | failed | ended | wrongEnd => exact .refl host
  | node found => exact .setDescription found rfl rfl
  | pipe => exact .of_descriptions rfl

theorem read_files : after.files = host.files ∧ after.directory = host.directory := by
  cases read_reads h <;> exact ⟨rfl, rfl⟩

/-- A pipe that is not read is left alone. -/
theorem read_pipes_ne (apart : ¬ host.Denotes n (.readEnd k)) :
    after.pipes[k]? = host.pipes[k]? := by
  cases read_reads h with
  | unknown | failed | ended | wrongEnd | node => rfl
  | pipe found object =>
    refine List.getElem?_set_ne fun same => apart ⟨_, found, ?_⟩
    rw [object, same]

/-- What is read from a pipe stood at its beginning.  There is nothing only at the end. -/
theorem read_pipe (denotes : host.Denotes n (.readEnd k)) (pipe : host.pipes[k]? = some held) :
    ∃ bytes rest, r = .ok bytes ∧ held = bytes ++ rest ∧ after.pipes[k]? = some rest ∧
      (bytes = [] → 0 < count → held = [] ∧ host.hasWriter k = false) := by
  obtain ⟨d, found, object⟩ := denotes
  unfold read at h
  simp only [found, object, pipe, Option.getD_some] at h
  split at h
  · rename_i empty
    split at h
    · rename_i ended
      cases h
      refine ⟨[], held, rfl, rfl, pipe, fun _ some => ⟨List.isEmpty_iff.1 empty, ?_⟩⟩
      rcases ended with none | ended
      · exact absurd none (Nat.ne_of_gt some)
      · simpa using ended
    · cases h
  · rename_i more
    cases h
    refine ⟨held.take count, held.drop count, rfl, (List.take_append_drop count held).symm,
      List.getElem?_set_self (List.getElem?_eq_some_iff.1 pipe).1, fun none some => ?_⟩
    rcases List.take_eq_nil_iff.1 none with zero | empty
    · exact absurd zero (Nat.ne_of_gt some)
    · exact absurd (List.isEmpty_iff.2 empty) more

end Reading

/-! ## Writing -/

section Writing

variable {r : Except Errno Nat} (h : host.write n data = some (r, after))
include h

theorem write_uses : host.Uses after := by
  cases write_writes h with
  | unknown | failed | nothing | broken | wrongEnd => exact .refl host
  | @node _ _ files found =>
    have changed : host.Uses { host with files } := .of_descriptions rfl
    exact changed.trans (.setDescription found rfl rfl)
  | pipe => exact .of_descriptions rfl

/-- A pipe that is not written is left alone. -/
theorem write_pipes_ne (apart : ¬ host.Denotes n (.writeEnd k)) :
    after.pipes[k]? = host.pipes[k]? := by
  cases write_writes h with
  | unknown | failed | nothing | broken | wrongEnd | node => rfl
  | pipe found object =>
    refine List.getElem?_set_ne fun same => apart ⟨_, found, ?_⟩
    rw [object, same]

/-- What is accepted by a pipe stands at its end. -/
theorem write_pipe (denotes : host.Denotes n (.writeEnd k)) (pipe : host.pipes[k]? = some held) :
    (after.files = host.files ∧ after.directory = host.directory) ∧
      ((∃ e, r = .error e ∧ after.pipes[k]? = some held) ∨
        ∃ m, r = .ok m ∧ after.pipes[k]? = some (held ++ data.take m)) := by
  obtain ⟨d, found, object⟩ := denotes
  unfold write at h
  simp only [found, object, pipe, Option.getD_some] at h
  split at h
  · cases h
    exact ⟨⟨rfl, rfl⟩, .inr ⟨0, rfl, by rw [List.take_zero, List.append_nil]; exact pipe⟩⟩
  · split at h
    · cases h
      exact ⟨⟨rfl, rfl⟩, .inl ⟨_, rfl, pipe⟩⟩
    · split at h
      · cases h
      · cases h
        exact ⟨⟨rfl, rfl⟩, .inr ⟨_, rfl,
          List.getElem?_set_self (List.getElem?_eq_some_iff.1 pipe).1⟩⟩

end Writing

/-! ## Opening -/

/-- Opening a file leaves pipes alone. -/
theorem AddsNode.pipes (opens : host.AddsNode n after) :
    after.pipes = host.pipes ∧ host.Uses after := by
  obtain ⟨files, node, appends, -, rfl⟩ := opens
  exact ⟨rfl, .describe _ _, Seals.describe rfl⟩

end AlgorithmDriver.Host

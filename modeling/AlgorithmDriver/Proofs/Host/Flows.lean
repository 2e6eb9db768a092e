import AlgorithmDriver.Proofs.Host.Pipes

/-!
# What flows through pipes

Whoever reads a pipe takes from its beginning, and whoever writes to it puts at its end.

* `Host.Moves` is what a read or a write does to descriptions (`read_moves`, `write_moves`).
* `Host.Shuns` says that some descriptions are `kept` from whoever acts on the host: they stay as they
  are, and a pipe is only read and written through others.  Reads and writes of other descriptions do
  no more (`Shuns.read`, `Shuns.write`), and so does whatever consists of such steps (`Shuns.trans`).
-/

namespace AlgorithmDriver.Host

variable {host before after : Host} {kept : Nat → Prop} {n m k : Nat}

/-! ## One description that is used -/

/-- Of all descriptions only `n` changes, and it is as held as it was. -/
structure Moves (n : Nat) (before after : Host) : Prop where
  length : after.descriptions.length = before.descriptions.length
  others : ∀ m, m ≠ n → after.descriptions[m]? = before.descriptions[m]?
  holds : before.SameHolds after

theorem Moves.of_descriptions (same : after.descriptions = before.descriptions) :
    before.Moves n after :=
  ⟨congrArg List.length same, fun m _ => congrArg (fun ds : List Description => ds[m]?) same,
    .of_descriptions same⟩

theorem Moves.trans {a b c : Host} (hab : a.Moves n b) (hbc : b.Moves n c) : a.Moves n c :=
  ⟨hbc.length.trans hab.length, fun m other => (hbc.others m other).trans (hab.others m other),
    hab.holds.trans hbc.holds⟩

theorem Moves.setDescription {d e : Description} (found : host.descriptions[n]? = some d)
    (onward : d.Onward e) (holders : e.holders = d.holders) :
    host.Moves n (host.setDescription n e) :=
  ⟨List.length_set, fun _ other => List.getElem?_set_ne (Ne.symm other),
    .setDescription found onward.object holders⟩

theorem read_moves {count : Nat} {r : Except Errno Bytes}
    (h : host.read n count = some (r, after)) : host.Moves n after := by
  cases read_reads h with
  | unknown | failed | ended | wrongEnd | pipe => exact .of_descriptions rfl
  | node found => exact .setDescription found ⟨rfl, rfl⟩ rfl

theorem write_moves {data : Bytes} {r : Except Errno Nat}
    (h : host.write n data = some (r, after)) : host.Moves n after := by
  cases write_writes h with
  | unknown | failed | nothing | broken | wrongEnd | pipe => exact .of_descriptions rfl
  | @node _ _ files found =>
    have changed : host.Moves n { host with files } := .of_descriptions rfl
    exact changed.trans (.setDescription found ⟨rfl, rfl⟩ rfl)

/-! ## Pipes and descriptions that are left alone -/

/-- The bytes `took` were taken from the beginning of a pipe, and `put` were put at its end. -/
def Flows (k : Nat) (took put : Bytes) (before after : Host) : Prop :=
  ∃ held rest, before.pipes[k]? = some held ∧ after.pipes[k]? = some rest ∧
    held ++ put = took ++ rest

/-- Kept descriptions stay as they are, and others are used to read and write pipes.  New descriptions
are those of files and of new pipes. -/
structure Shuns (kept : Nat → Prop) (before after : Host) : Prop where
  onward : before.Onward after
  still : ∀ n d, kept n → before.descriptions[n]? = some d → after.descriptions[n]? = some d
  fresh : ∀ (n : Nat) (d : Description) (k : Nat), before.descriptions.length ≤ n →
    after.descriptions[n]? = some d → d.object = .readEnd k ∨ d.object = .writeEnd k →
      before.pipes.length ≤ k
  flows : ∀ k < before.pipes.length, ∃ took put, Flows k took put before after ∧
    ((∀ n, before.Denotes n (.readEnd k) → kept n) → took = []) ∧
    ((∀ n, before.Denotes n (.writeEnd k) → kept n) → put = [])

theorem Flows.of_same (bound : k < before.pipes.length)
    (same : after.pipes[k]? = before.pipes[k]?) : Flows k [] [] before after := by
  have was : before.pipes[k]? = some before.pipes[k] := List.getElem?_eq_getElem bound
  exact ⟨_, _, was, same.trans was, List.append_nil _⟩

namespace Shuns

theorem pipes_le (shuns : before.Shuns kept after) : before.pipes.length ≤ after.pipes.length := by
  refine Nat.le_of_not_lt fun bound => ?_
  obtain ⟨_, _, ⟨_, _, _, found, _⟩, _⟩ := shuns.flows _ bound
  exact Nat.lt_irrefl _ (List.getElem?_eq_some_iff.1 found).1

/-- Whoever has a description of an old pipe had it before. -/
theorem denotes_kept {object : Object} (shuns : before.Shuns kept after)
    (pipe : object = .readEnd k ∨ object = .writeEnd k) (bound : k < before.pipes.length)
    (all : ∀ n, before.Denotes n object → kept n) (n : Nat) (denotes : after.Denotes n object) :
    kept n := by
  by_cases old : n < before.descriptions.length
  · exact all n (denotes.of_onward shuns.onward old)
  · obtain ⟨d, found, rfl⟩ := denotes
    exact absurd bound (Nat.not_lt.2 (shuns.fresh n d k (Nat.not_lt.1 old) found pipe))

theorem trans {a b c : Host} (hab : a.Shuns kept b) (hbc : b.Shuns kept c) : a.Shuns kept c where
  onward := hab.onward.trans hbc.onward
  still n d isKept found := hbc.still n d isKept (hab.still n d isKept found)
  fresh n d k new found pipe := by
    by_cases between : n < b.descriptions.length
    · have was : b.descriptions[n]? = some b.descriptions[n] := List.getElem?_eq_getElem between
      obtain ⟨e, found', same⟩ := hbc.onward.descriptions n _ was
      obtain rfl := Option.some.inj (found.symm.trans found')
      rw [same.object] at pipe
      exact hab.fresh n _ k new was pipe
    · exact Nat.le_trans hab.pipes_le (hbc.fresh n d k (Nat.not_lt.1 between) found pipe)
  flows k bound := by
    obtain ⟨took, put, ⟨held, mid, was, between, split⟩, noTook, noPut⟩ := hab.flows k bound
    obtain ⟨took', put', ⟨mid', rest, between', now, split'⟩, noTook', noPut'⟩ :=
      hbc.flows k (Nat.lt_of_lt_of_le bound hab.pipes_le)
    obtain rfl := Option.some.inj (between.symm.trans between')
    refine ⟨took ++ took', put ++ put', ⟨held, rest, was, now, ?_⟩, fun all => ?_, fun all => ?_⟩
    · rw [← List.append_assoc, split, List.append_assoc, split', List.append_assoc]
    · rw [noTook all, noTook' (hab.denotes_kept (.inl rfl) bound all), List.append_nil]
    · rw [noPut all, noPut' (hab.denotes_kept (.inr rfl) bound all), List.append_nil]

/-- Descriptions and pipes are the same. -/
theorem of_same (onward : before.Onward after)
    (descriptions : after.descriptions = before.descriptions) (pipes : after.pipes = before.pipes) :
    before.Shuns kept after where
  onward := onward
  still n d _ found := by rwa [descriptions]
  fresh n d k new found := by
    rw [descriptions] at found
    exact absurd (List.getElem?_eq_some_iff.1 found).1 (Nat.not_lt.2 new)
  flows k bound := ⟨[], [], .of_same bound (by rw [pipes]), fun _ => rfl, fun _ => rfl⟩

theorem refl (host : Host) : host.Shuns kept host := .of_same (.refl host) rfl rfl

/-- A description changes that is not kept. -/
theorem setDescription {d e : Description} (found : host.descriptions[n]? = some d)
    (foreign : ¬ kept n) (onward : d.Onward e) : host.Shuns kept (host.setDescription n e) where
  onward := .setDescription found onward
  still m f isKept was := by
    have other : n ≠ m := fun same => foreign (same ▸ isKept)
    exact (List.getElem?_set_ne other).trans was
  fresh m f k new found' := by
    have bound := (List.getElem?_eq_some_iff.1 found').1
    rw [show (host.setDescription n e).descriptions.length = host.descriptions.length from
      List.length_set] at bound
    exact absurd bound (Nat.not_lt.2 new)
  flows k bound := ⟨[], [], .of_same bound rfl, fun _ => rfl, fun _ => rfl⟩

/-- A new description, of a file or of a new pipe. -/
theorem describe {d : Description}
    (fresh : ∀ k, d.object = .readEnd k ∨ d.object = .writeEnd k → host.pipes.length ≤ k) :
    host.Shuns kept (host.describe d).2 where
  onward := describe_onward host d
  still n e _ found :=
    (List.getElem?_append_left (List.getElem?_eq_some_iff.1 found).1).trans found
  fresh n e k new found pipe := by
    rw [show (host.describe d).2.descriptions[n]? = [d][n - host.descriptions.length]? from
      List.getElem?_append_right new] at found
    obtain rfl := List.mem_singleton.1 (List.mem_of_getElem? found)
    exact fresh k pipe
  flows k bound := ⟨[], [], .of_same bound rfl, fun _ => rfl, fun _ => rfl⟩

/-- Something is read from a description that is not kept. -/
theorem read {count : Nat} {r : Except Errno Bytes} (foreign : ¬ kept n)
    (done : host.read n count = some (r, after)) : host.Shuns kept after where
  onward := read_onward done
  still m d isKept found := by
    rw [(read_moves done).others m fun same => foreign (same ▸ isKept)]
    exact found
  fresh m d k new found := by
    rw [List.getElem?_eq_none ((read_moves done).length ▸ new)] at found
    cases found
  flows k bound := by
    have was : host.pipes[k]? = some host.pipes[k] := List.getElem?_eq_getElem bound
    by_cases reads : host.Denotes n (.readEnd k)
    · obtain ⟨bytes, rest, _, split, now, _⟩ := read_pipe done reads was
      exact ⟨bytes, [], ⟨_, rest, was, now, (List.append_nil _).trans split⟩,
        fun all => absurd (all n reads) foreign, fun _ => rfl⟩
    · exact ⟨[], [], .of_same bound (read_pipes_ne done reads), fun _ => rfl, fun _ => rfl⟩

/-- Something is written to a description that is not kept. -/
theorem write {data : Bytes} {r : Except Errno Nat} (foreign : ¬ kept n)
    (done : host.write n data = some (r, after)) : host.Shuns kept after where
  onward := write_onward done
  still m d isKept found := by
    rw [(write_moves done).others m fun same => foreign (same ▸ isKept)]
    exact found
  fresh m d k new found := by
    rw [List.getElem?_eq_none ((write_moves done).length ▸ new)] at found
    cases found
  flows k bound := by
    have was : host.pipes[k]? = some host.pipes[k] := List.getElem?_eq_getElem bound
    by_cases writes : host.Denotes n (.writeEnd k)
    · obtain ⟨_, ⟨_, _, now⟩ | ⟨m, _, now⟩⟩ := write_pipe done writes was
      · exact ⟨[], [], .of_same bound (now.trans was.symm), fun _ => rfl, fun _ => rfl⟩
      · exact ⟨[], data.take m, ⟨_, _, was, now, rfl⟩, fun _ => rfl,
          fun all => absurd (all n writes) foreign⟩
    · exact ⟨[], [], .of_same bound (write_pipes_ne done writes), fun _ => rfl, fun _ => rfl⟩

end Shuns

end AlgorithmDriver.Host

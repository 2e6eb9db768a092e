import AlgorithmDriver.Proofs.Driver.Stage

/-!
# Who takes what out

An entry leaves its table because a caller closes it by its id, or because everything is closed.
Whoever takes it out then closes it, while others go on.

* `Change.TakenBy` reads off the history of a table who took out which resource.  What was taken
  out is not live any more (`Numbered.not_live_of_takenBy`).
* `Change.Books` are a list of what was taken out that is complete and in which nothing stands
  twice.  One more change of the table adds to it what was live (`Books.change`).
* On a stage, what has been released so far and what is still under way are such a list for each
  table (`Stage.Run.books`).
-/

namespace AlgorithmDriver

open Table (Change)

namespace Table.Change

variable {resource : Resource} {α : Type} {past : List (Change resource α)} {closer : Closer}
  {id : Id resource}

/-- The change at which this one takes the resource out of its table. -/
def ofCloser (closer : Closer) (id : Id resource) : Change resource α :=
  match closer with
  | .caller => .closed id
  | .everything => .drained

/-- The resource was live, and this one took it out. -/
def TakenBy (past : List (Change resource α)) (closer : Closer) (id : Id resource) : Prop :=
  ∃ before after first, past = before ++ ofCloser closer id :: after ∧ Live before id first

theorem not_takenBy_nil : ¬ TakenBy ([] : List (Change resource α)) closer id := by
  rintro ⟨before, after, _, h, _⟩
  exact List.append_ne_nil_of_right_ne_nil before (List.cons_ne_nil _ _) h.symm

theorem takenBy_append_iff (change : Change resource α) :
    TakenBy (past ++ [change]) closer id ↔
      TakenBy past closer id ∨ (change = ofCloser closer id ∧ ∃ first, Live past id first) := by
  constructor
  · rintro ⟨before, after, first, h, live⟩
    rcases List.eq_nil_or_concat after with rfl | ⟨after, last, rfl⟩
    · obtain ⟨rfl, same⟩ := List.append_inj' h rfl
      exact .inr ⟨List.singleton_inj.1 same, first, live⟩
    · rw [List.concat_eq_append, ← List.cons_append, ← List.append_assoc] at h
      obtain ⟨rfl, _⟩ := List.append_inj' h rfl
      exact .inl ⟨before, after, first, rfl, live⟩
  · rintro (⟨before, after, first, rfl, live⟩ | ⟨rfl, first, live⟩)
    · exact ⟨before, after ++ [change], first, by simp, live⟩
    · exact ⟨past, [], first, rfl, live⟩

/-- What was taken out is not live any more. -/
theorem Numbered.not_live_of_takenBy (numbered : Numbered past) (taken : TakenBy past closer id)
    (first : α) : ¬ Live past id first := by
  obtain ⟨before, after, value, rfl, live⟩ := taken
  rw [List.append_cons] at numbered ⊢
  refine numbered.not_live_append ?_ (fun other again => ?_) first
  · rw [issuedIds_append]
    exact List.mem_append_left _ live.mem_issuedIds
  · rcases (live_append_iff _).1 again with issued | ⟨_, notClosed, notDrained⟩
    · cases closer <;> cases issued
    · cases closer with
      | caller => exact notClosed rfl
      | everything => exact notDrained rfl

/-- The list has everything that was taken out, with the one who took it, and nothing twice. -/
structure Books (past : List (Change resource α)) (taken : List (Closer × Id resource)) : Prop where
  once : (taken.map Prod.snd).Nodup
  mem_iff : ∀ closer id, (closer, id) ∈ taken ↔ TakenBy past closer id

namespace Books

variable {taken taken' : List (Closer × Id resource)} {last : Change resource α}

theorem nil : Books ([] : List (Change resource α)) [] where
  once := .nil
  mem_iff _ _ := ⟨fun h => (nomatch h), fun h => absurd h not_takenBy_nil⟩

theorem perm (books : Books past taken) (same : taken.Perm taken') : Books past taken' where
  once := (same.map Prod.snd).nodup books.once
  mem_iff closer id := same.mem_iff.symm.trans (books.mem_iff closer id)

/-- One more change: what was live and is taken out by it is added. -/
theorem change (books : Books past taken) (numbered : Numbered past)
    (more : List (Closer × Id resource)) (apart : (more.map Prod.snd).Nodup)
    (new : ∀ closer id, (closer, id) ∈ more ↔
      last = ofCloser closer id ∧ ∃ first, Live past id first) :
    Books (past ++ [last]) (more ++ taken) where
  once := by
    rw [List.map_append, List.nodup_append]
    refine ⟨apart, books.once, ?_⟩
    rintro id added _ old rfl
    obtain ⟨⟨closer, _⟩, mem, rfl⟩ := List.mem_map.1 added
    obtain ⟨⟨other, _⟩, mem', same⟩ := List.mem_map.1 old
    obtain rfl := same
    obtain ⟨_, first, live⟩ := (new closer _).1 mem
    exact numbered.not_live_of_takenBy ((books.mem_iff other _).1 mem') first live
  mem_iff closer id := by
    rw [List.mem_append, takenBy_append_iff, new, books.mem_iff, or_comm]

/-- What was issued was not taken out. -/
theorem issue (books : Books past taken) (numbered : Numbered past) (id : Id resource) (value : α) :
    Books (past ++ [.issued id value]) taken := by
  refine books.change numbered [] .nil fun closer key => ?_
  constructor
  · exact fun h => nomatch h
  · rintro ⟨same, _⟩
    cases closer <;> cases same

/-- A caller takes out what is live. -/
theorem close (books : Books past taken) (numbered : Numbered past) {first : α}
    (live : Live past id first) : Books (past ++ [.closed id]) ((.caller, id) :: taken) := by
  refine books.change numbered [(.caller, id)] (List.pairwise_singleton _ _) fun closer key => ?_
  rw [List.mem_singleton]
  cases closer with
  | caller =>
    constructor
    · intro same
      cases same
      exact ⟨rfl, first, live⟩
    · rintro ⟨same, _⟩
      cases same
      rfl
  | everything =>
    constructor
    · intro same
      cases same
    · rintro ⟨same, _⟩
      cases same

/-- Everything that is live is taken out. -/
theorem drain (books : Books past taken) {R : α → α → Prop} {t : Table resource α}
    (follows : t.Follows R past) :
    Books (past ++ [.drained]) (t.ids.map (fun id => (.everything, id)) ++ taken) := by
  refine books.change follows.numbered _ ?_ fun closer key => ?_
  · rw [List.map_map]
    refine (congrArg List.Nodup (List.map_id t.ids)).mpr ?_
    exact follows.ascending.imp fun less same => Nat.ne_of_lt less (congrArg Id.raw same)
  · rw [List.mem_map]
    cases closer with
    | caller =>
      constructor
      · rintro ⟨_, _, same⟩
        cases same
      · rintro ⟨same, _⟩
        cases same
    | everything =>
      constructor
      · rintro ⟨_, mem, same⟩
        cases same
        exact ⟨rfl, (follows.mem_ids_iff _).1 mem⟩
      · rintro ⟨_, live⟩
        exact ⟨key, (follows.mem_ids_iff _).2 live, rfl⟩

end Books

end Table.Change

theorem Table.map_toList_fst {resource : Resource} {α : Type} (t : Table resource α) :
    t.toList.map Prod.fst = t.ids := by
  show List.map Prod.fst (t.entries.map _) = _
  rw [List.map_map]
  rfl

/-! ## On a stage -/

/-- What is to be closed, with the one who took it out. -/
def Closing.key {resource : Resource} {α : Type} (c : Closing resource α) : Closer × Id resource :=
  (c.closer, c.id)

namespace Deed

/-- An instance that was ended; only whoever closes everything does that. -/
def ended? : Deed → Option (Closer × AlgorithmId)
  | ended id _ => some (.everything, id)
  | _ => none

def releasedRead? : Deed → Option (Closer × ReadFileId)
  | releasedRead closer id => some (closer, id)
  | _ => none

def releasedWrite? : Deed → Option (Closer × WriteFileId)
  | releasedWrite closer id _ => some (closer, id)
  | _ => none

end Deed

namespace Stage

variable {start s t : Stage} {deed : Deed} {deeds : List Deed}

/-- The instances that were taken out of their table: those that have been ended, and those that are
being ended. -/
def takenInstances (s : Stage) (deeds : List Deed) : List (Closer × AlgorithmId) :=
  deeds.filterMap Deed.ended? ++ s.leaving.map fun d => (.everything, d.id)

/-- The channels to read from that were taken out of their table. -/
def takenReads (s : Stage) (deeds : List Deed) : List (Closer × ReadFileId) :=
  deeds.filterMap Deed.releasedRead? ++ s.closingReads.map Closing.key

/-- The channels to write to that were taken out of their table. -/
def takenWrites (s : Stage) (deeds : List Deed) : List (Closer × WriteFileId) :=
  deeds.filterMap Deed.releasedWrite? ++ s.closingWrites.map Closing.key

/-- What was taken out of each table is on the books. -/
structure Books (deeds : List Deed) (s : Stage) : Prop where
  instances : Change.Books (Notice.algorithms (notices deeds)) (s.takenInstances deeds)
  reads : Change.Books (Notice.readFiles (notices deeds)) (s.takenReads deeds)
  writes : Change.Books (Notice.writeFiles (notices deeds)) (s.takenWrites deeds)

theorem Step.books_instances (step : Step s deed t) (follows : s.driver.Follows (notices deeds))
    (books : Change.Books (Notice.algorithms (notices deeds)) (s.takenInstances deeds)) :
    Change.Books (Notice.algorithms (notices (deeds ++ [deed])))
      (t.takenInstances (deeds ++ [deed])) := by
  have past : Notice.algorithms (notices (deeds ++ [deed])) =
      Notice.algorithms (notices deeds) ++ deed.notice.algorithm?.toList := by
    rw [notices_snoc, Notice.algorithms_snoc]
  have taken : t.takenInstances (deeds ++ [deed]) = deeds.filterMap Deed.ended? ++
      (deed.ended?.toList ++ t.leaving.map fun d => (.everything, d.id)) := by
    unfold takenInstances
    rw [List.filterMap_append, List.append_assoc]
    cases deed <;> rfl
  rw [past, taken]
  have numbered := follows.algorithms.numbered
  have still (same : deed.notice.algorithm? = none)
      (moved : (s.leaving.map fun d => (Closer.everything, d.id)).Perm
        (deed.ended?.toList ++ t.leaving.map fun d => (Closer.everything, d.id))) :
      Change.Books (Notice.algorithms (notices deeds) ++ deed.notice.algorithm?.toList)
        (deeds.filterMap Deed.ended? ++
          (deed.ended?.toList ++ t.leaving.map fun d => (.everything, d.id))) := by
    rw [same, Option.toList_none, List.append_nil]
    exact books.perm (moved.append_left _)
  cases step with
  | register _ => exact books.issue numbered _ _
  | takeInstances =>
    refine (books.drain follows.algorithms).perm ?_
    show (s.driver.algorithms.ids.map _ ++ (_ ++ _)).Perm
      (_ ++ List.map (fun d : Departure => (Closer.everything, d.id)) (_ ++ s.leaving))
    rw [List.map_append, List.map_map, ← Table.map_toList_fst, List.map_map]
    exact List.perm_append_comm_assoc _ _ _
  | @depart d d' leaving goes =>
    obtain ⟨-, rfl, -⟩ := Departure.next_of_goes goes
    have moved := (List.perm_cons_erase leaving).map fun d => (Closer.everything, d.id)
    by_cases sent : d.duty = .signal
    · rw [if_pos sent] at still ⊢
      exact still rfl moved
    · rw [if_neg sent] at still ⊢
      exact still rfl moved
  | @depose d leaving gone =>
    exact still rfl ((List.perm_cons_erase leaving).map _)
  | spawn | look | signal | inputPipe | outputPipe | acquireRead | registerRead | lendRead | takeRead
    | takeReads | releaseRead | acquireWrite | registerWrite | lendWrite | takeWrite | takeWrites
    | releaseWrite | holdSource | dropSource | closeSource | read | holdSink | dropSink | closeSink
    | write | flush | record | elsewhere => exact still rfl (.refl _)

theorem Step.books_reads (step : Step s deed t) (follows : s.driver.Follows (notices deeds))
    (books : Change.Books (Notice.readFiles (notices deeds)) (s.takenReads deeds)) :
    Change.Books (Notice.readFiles (notices (deeds ++ [deed]))) (t.takenReads (deeds ++ [deed])) := by
  have past : Notice.readFiles (notices (deeds ++ [deed])) =
      Notice.readFiles (notices deeds) ++ deed.notice.readFile?.toList := by
    rw [notices_snoc, Notice.readFiles_snoc]
  have taken : t.takenReads (deeds ++ [deed]) = deeds.filterMap Deed.releasedRead? ++
      (deed.releasedRead?.toList ++ t.closingReads.map Closing.key) := by
    unfold takenReads
    rw [List.filterMap_append, List.append_assoc]
    cases deed <;> rfl
  rw [past, taken]
  have numbered := follows.readFiles.numbered
  have still (same : deed.notice.readFile? = none)
      (moved : (s.closingReads.map Closing.key).Perm
        (deed.releasedRead?.toList ++ t.closingReads.map Closing.key)) :
      Change.Books (Notice.readFiles (notices deeds) ++ deed.notice.readFile?.toList)
        (deeds.filterMap Deed.releasedRead? ++
          (deed.releasedRead?.toList ++ t.closingReads.map Closing.key)) := by
    rw [same, Option.toList_none, List.append_nil]
    exact books.perm (moved.append_left _)
  cases step with
  | registerRead _ => exact books.issue numbered _ _
  | takeRead found =>
    obtain ⟨first, live, _⟩ := follows.readFiles.found _ _ found
    exact (books.close numbered live).perm List.perm_middle.symm
  | takeReads =>
    refine (books.drain follows.readFiles).perm ?_
    show (s.driver.readFiles.ids.map _ ++ (_ ++ _)).Perm
      (_ ++ List.map Closing.key (_ ++ s.closingReads))
    rw [List.map_append, List.map_map, ← Table.map_toList_fst, List.map_map]
    exact List.perm_append_comm_assoc _ _ _
  | @releaseRead c closing => exact still rfl ((List.perm_cons_erase closing).map _)
  | depart =>
    split <;> rename_i sent
    · rw [if_pos sent] at still
      exact still rfl (.refl _)
    · rw [if_neg sent] at still
      exact still rfl (.refl _)
  | spawn | register | look | signal | inputPipe | outputPipe | takeInstances | depose | acquireRead
    | lendRead | acquireWrite | registerWrite | lendWrite | takeWrite | takeWrites | releaseWrite
    | holdSource | dropSource | closeSource | read | holdSink | dropSink | closeSink | write | flush
    | record | elsewhere => exact still rfl (.refl _)

theorem Step.books_writes (step : Step s deed t) (follows : s.driver.Follows (notices deeds))
    (books : Change.Books (Notice.writeFiles (notices deeds)) (s.takenWrites deeds)) :
    Change.Books (Notice.writeFiles (notices (deeds ++ [deed])))
      (t.takenWrites (deeds ++ [deed])) := by
  have past : Notice.writeFiles (notices (deeds ++ [deed])) =
      Notice.writeFiles (notices deeds) ++ deed.notice.writeFile?.toList := by
    rw [notices_snoc, Notice.writeFiles_snoc]
  have taken : t.takenWrites (deeds ++ [deed]) = deeds.filterMap Deed.releasedWrite? ++
      (deed.releasedWrite?.toList ++ t.closingWrites.map Closing.key) := by
    unfold takenWrites
    rw [List.filterMap_append, List.append_assoc]
    cases deed <;> rfl
  rw [past, taken]
  have numbered := follows.writeFiles.numbered
  have still (same : deed.notice.writeFile? = none)
      (moved : (s.closingWrites.map Closing.key).Perm
        (deed.releasedWrite?.toList ++ t.closingWrites.map Closing.key)) :
      Change.Books (Notice.writeFiles (notices deeds) ++ deed.notice.writeFile?.toList)
        (deeds.filterMap Deed.releasedWrite? ++
          (deed.releasedWrite?.toList ++ t.closingWrites.map Closing.key)) := by
    rw [same, Option.toList_none, List.append_nil]
    exact books.perm (moved.append_left _)
  cases step with
  | registerWrite _ => exact books.issue numbered _ _
  | takeWrite found =>
    obtain ⟨first, live, _⟩ := follows.writeFiles.found _ _ found
    exact (books.close numbered live).perm List.perm_middle.symm
  | takeWrites =>
    refine (books.drain follows.writeFiles).perm ?_
    show (s.driver.writeFiles.ids.map _ ++ (_ ++ _)).Perm
      (_ ++ List.map Closing.key (_ ++ s.closingWrites))
    rw [List.map_append, List.map_map, ← Table.map_toList_fst, List.map_map]
    exact List.perm_append_comm_assoc _ _ _
  | @releaseWrite c closing => exact still rfl ((List.perm_cons_erase closing).map _)
  | depart =>
    split <;> rename_i sent
    · rw [if_pos sent] at still
      exact still rfl (.refl _)
    · rw [if_neg sent] at still
      exact still rfl (.refl _)
  | spawn | register | look | signal | inputPipe | outputPipe | takeInstances | depose | acquireRead
    | registerRead | lendRead | takeRead | takeReads | releaseRead | acquireWrite | lendWrite
    | holdSource | dropSource | closeSource | read | holdSink | dropSink | closeSink | write | flush
    | record | elsewhere => exact still rfl (.refl _)

theorem Run.books (new : start.New) (run : Run start deeds s) : s.Books deeds := by
  induction run with
  | nil =>
    obtain ⟨config, world, rfl⟩ := new.eq
    exact ⟨.nil, .nil, .nil⟩
  | snoc run step ih =>
    have follows := (run.sound new).follows
    exact ⟨step.books_instances follows ih.instances, step.books_reads follows ih.reads,
      step.books_writes follows ih.writes⟩

end Stage

end AlgorithmDriver

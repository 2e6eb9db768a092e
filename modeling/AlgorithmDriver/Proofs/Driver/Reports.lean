import AlgorithmDriver.Driver.Wait
import AlgorithmDriver.Proofs.Driver.Changes
import AlgorithmDriver.Proofs.Driver.Records
import Mathlib.Data.List.Forall2
import Mathlib.Data.List.Nodup
import Mathlib.Data.List.Perm.Subperm

/-!
# Reports of a driver

A single caller uses a driver, and the rest of the machine goes on meanwhile.  What is put on record
by a call is seen as a list of reports, each of them about one instance or one channel.

* The ids that a table has issued so far, in order, with the live ones among them (`Table.Issues`).
* What is said about a subject by some reports (`Audit.about`).
* The calls, what they achieve (`Audit.Call.success?`), and the runs they make (`Audit.Run`).  The
  rest of the machine can do anything in between, and while a call looks at several instances or
  closes everything, except that it leaves the log alone.  Waiting for an instance is such a run
  (`Audit.Run.wait`).
* One report for each resource of a table (`Audit.Covers`), as it is made when all of them are taken
  out (`Audit.TearsDown.reports`).
-/

namespace AlgorithmDriver

/-- What an entry of the log can be about. -/
inductive Subject where
  | algorithm (id : AlgorithmId)
  | channel (id : ChannelId)
  deriving DecidableEq, Repr

/-- What a call has achieved. -/
inductive Success where
  | started (name : String) (id : AlgorithmId)
  | killed (id : AlgorithmId)
  | opened (path : String) (channel : ChannelId)
  | closed (channel : ChannelId)
  deriving DecidableEq, Repr

namespace Success

/-- The id that was issued. -/
def algorithm? : Success → Option AlgorithmId
  | started _ id => some id
  | _ => none

def readFile? : Success → Option ReadFileId
  | opened _ (.read id) => some id
  | _ => none

def writeFile? : Success → Option WriteFileId
  | opened _ (.write id) => some id
  | _ => none

end Success

/-- The success that an entry tells of. -/
def LogEntry.success? : LogEntry → Option Success
  | started name id => some (.started name id)
  | killed id => some (.killed id)
  | opened path channel => some (.opened path channel)
  | closed channel _ => some (.closed channel)
  | _ => none

/-! ## Ids in the order of their issue -/

namespace Table

variable {resource : Resource} {α : Type} {t t' : Table resource α} {issued : List (Id resource)}
  {id : Id resource} {value : α}

/-- The keys of a table are its ids. -/
theorem keys_nodup (apart : t.ids.Nodup) : (t.entries.map Prod.fst).Nodup := by
  have keys : (t.entries.map Prod.fst).map (@Id.mk resource) = t.ids := List.map_map
  exact List.Nodup.of_map _ (keys ▸ apart)

theorem mem_toList_iff (apart : t.ids.Nodup) : (id, value) ∈ t.toList ↔ t.get? id = some value := by
  rw [← mem_entries_iff (keys_nodup apart)]
  constructor
  · intro mem
    obtain ⟨entry, known, same⟩ := List.mem_map.1 mem
    cases same
    exact known
  · exact fun mem => List.mem_map.2 ⟨_, mem, rfl⟩

theorem toList_keys (t : Table resource α) : t.toList.map Prod.fst = t.ids := by
  unfold toList ids
  rw [List.map_map]
  rfl

/-- The ids that a table has issued so far, in order, with those that are live. -/
structure Issues (t : Table resource α) (issued : List (Id resource)) : Prop where
  ascending : issued.Pairwise (·.raw < ·.raw)
  bound : ∀ id ∈ issued, id.raw < t.next
  live : t.ids.Sublist issued

/-- The table issues an id, or none. -/
inductive Issuing (t : Table resource α) : Option (Id resource) → Table resource α → Prop
  | keeps {t' : Table resource α} (next : t'.next = t.next) (ids : t'.ids.Sublist t.ids) :
      Issuing t none t'
  | issues (value : α) : Issuing t (some (t.insert value).1) (t.insert value).2

namespace Issues

theorem empty : (empty : Table resource α).Issues [] where
  ascending := .nil
  bound := List.forall_mem_nil _
  live := .slnil

theorem nodup (issues : t.Issues issued) : issued.Nodup :=
  issues.ascending.imp fun less same => Nat.ne_of_lt less (congrArg Id.raw same)

theorem apart (issues : t.Issues issued) : t.ids.Nodup := issues.live.nodup issues.nodup

/-- The next id was not issued yet. -/
theorem fresh (issues : t.Issues issued) : (⟨t.next⟩ : Id resource) ∉ issued := fun mem =>
  Nat.lt_irrefl _ (issues.bound _ mem)

theorem not_mem (issues : t.Issues issued) (issuing : t.Issuing (some id) t') : id ∉ issued := by
  cases issuing
  exact issues.fresh

theorem toIssued (issues : t.Issues issued) : t.Issued := fun id value found =>
  issues.bound id (issues.live.subset ((mem_ids_iff t id).2 ⟨value, found⟩))

theorem get?_inserted (issues : t.Issues issued) (value : α) (id : Id resource) :
    (t.insert value).2.get? id = if id = (t.insert value).1 then some value else t.get? id := by
  by_cases same : id = (t.insert value).1
  · rw [if_pos same, same]
    exact issues.toIssued.get?_inserted value
  · have apart : id.raw ≠ t.next := fun h => same (congrArg Id.mk h)
    rw [get?_insert, if_neg same, if_neg apart, Option.or_none]

/-- The live ids are those among the issued ones that have a property of the live ones. -/
theorem ids_eq_filter (issues : t.Issues issued) {p : Id resource → Bool}
    (live : ∀ id ∈ issued, id ∈ t.ids ↔ p id = true) : t.ids = issued.filter p := by
  have sublist : t.ids.Sublist (issued.filter p) := by
    have kept : t.ids.filter p = t.ids :=
      List.filter_eq_self.2 fun id mem => (live id (issues.live.subset mem)).1 mem
    exact kept ▸ issues.live.filter p
  have subset : issued.filter p ⊆ t.ids := fun id mem => by
    obtain ⟨known, holds⟩ := List.mem_filter.1 mem
    exact (live id known).2 holds
  exact sublist.eq_of_length_le (List.Nodup.subperm (issues.nodup.filter p) subset).length_le

theorem step (issues : t.Issues issued) {new : Option (Id resource)} (issuing : t.Issuing new t') :
    t'.Issues (issued ++ new.toList) := by
  cases issuing with
  | keeps next ids =>
    rw [Option.toList_none, List.append_nil]
    refine ⟨issues.ascending, fun id mem => ?_, ids.trans issues.live⟩
    rw [next]
    exact issues.bound id mem
  | issues value =>
    rw [Option.toList_some]
    refine ⟨?_, fun id mem => ?_, ?_⟩
    · rw [List.pairwise_append]
      refine ⟨issues.ascending, List.pairwise_singleton _ _, fun id mem other last => ?_⟩
      rw [List.mem_singleton.1 last]
      exact issues.bound id mem
    · rw [next_insert]
      rcases List.mem_append.1 mem with old | last
      · exact Nat.lt_succ_of_lt (issues.bound id old)
      · rw [List.mem_singleton.1 last]
        exact Nat.lt_succ_self _
    · rw [ids_insert]
      exact issues.live.append (.refl _)

end Issues

end Table

namespace Audit

/-! ## Reports -/

/-- Some lines that were put on record, with what they are about. -/
structure Report where
  subject : Subject
  lines : List LogEntry

/-- All lines of some reports. -/
def entries (told : List Report) : List LogEntry := told.flatMap Report.lines

/-- The lines about a subject. -/
def about (told : List Report) (subject : Subject) : List LogEntry :=
  (told.filter fun report => report.subject = subject).flatMap Report.lines

section Reports

variable {told more : List Report} {report : Report} {subject : Subject}

@[simp] theorem entries_append (told more : List Report) :
    entries (told ++ more) = entries told ++ entries more := List.flatMap_append

@[simp] theorem about_append (told more : List Report) (subject : Subject) :
    about (told ++ more) subject = about told subject ++ about more subject := by
  unfold about
  rw [List.filter_append, List.flatMap_append]

@[simp] theorem about_nil (subject : Subject) : about [] subject = [] := rfl

theorem about_cons_self (lines : List LogEntry) (told : List Report) (subject : Subject) :
    about (⟨subject, lines⟩ :: told) subject = lines ++ about told subject := by
  simp [about]

theorem about_cons_of_ne (apart : report.subject ≠ subject) (told : List Report) :
    about (report :: told) subject = about told subject := by
  unfold about
  rw [List.filter_cons_of_neg (by simp [apart])]

/-- What a single report says. -/
theorem about_single_self (subject : Subject) (lines : List LogEntry) :
    about [⟨subject, lines⟩] subject = lines := by
  rw [about_cons_self, about_nil, List.append_nil]

theorem about_single_of_ne {other : Subject} (apart : subject ≠ other) (lines : List LogEntry) :
    about [⟨subject, lines⟩] other = [] := about_cons_of_ne apart []

/-- There is nothing about what no report is about. -/
theorem about_eq_nil (apart : ∀ report ∈ told, report.subject ≠ subject) :
    about told subject = [] := by
  induction told with
  | nil => rfl
  | cons report told ih =>
    rw [about_cons_of_ne (apart report List.mem_cons_self)]
    exact ih fun other mem => apart other (List.mem_cons_of_mem _ mem)

/-- A report on a subject that no other is about says all about it. -/
theorem about_of_mem (apart : (told.map Report.subject).Nodup) (mem : report ∈ told) :
    about told report.subject = report.lines := by
  induction told with
  | nil => cases mem
  | cons first told ih =>
    obtain ⟨fresh, apart⟩ := List.nodup_cons.1 apart
    rcases List.mem_cons.1 mem with rfl | mem
    · have first := about_cons_self report.lines told report.subject
      rw [show about (report :: told) report.subject = _ from first, about_eq_nil, List.append_nil]
      intro other mem same
      exact fresh (List.mem_map.2 ⟨other, mem, same⟩)
    · rw [about_cons_of_ne, ih apart mem]
      intro same
      exact fresh (List.mem_map.2 ⟨report, mem, same.symm⟩)

end Reports

/-! ## Calls -/

/-- A driver in its world. -/
structure State where
  driver : Driver
  world : World

/-- A call of the driver with what was answered, or something else. -/
inductive Call where
  | start (name : String) (result : Except DriverError AlgorithmId)
  | status (id : AlgorithmId) (result : Status)
  | kill (id : AlgorithmId) (result : Except DriverError Unit)
  | openRead (path : String) (result : Except DriverError ReadFileId)
  | closeRead (id : ReadFileId) (result : Except DriverError Unit)
  | openWrite (path : String) (result : Except DriverError WriteFileId)
  | closeWrite (id : WriteFileId) (result : Except DriverError Unit)
  | openHandles (result : OpenHandles)
  | closeAll
  /-- A handle was given out or used, or the rest of the machine went on. -/
  | other

namespace Call

/-- What the call has achieved. -/
def success? : Call → Option Success
  | start name (.ok id) => some (.started name id)
  | kill id (.ok ()) => some (.killed id)
  | openRead path (.ok id) => some (.opened path (.read id))
  | closeRead id (.ok ()) => some (.closed (.read id))
  | openWrite path (.ok id) => some (.opened path (.write id))
  | closeWrite id (.ok ()) => some (.closed (.write id))
  | _ => none

/-- The channel that was closed although it could not be flushed. -/
def unflushed? : Call → Option ChannelId
  | closeWrite id (.error (.io ..)) => some (.write id)
  | _ => none

end Call

/-- What was taken out of a table is torn down, one after the other.  The rest of the machine goes
on in between. -/
inductive TearsDown {resource : Resource} {α : Type}
    (tearDown : Id resource → α → World → World → Prop) :
    List (Id resource × α) → World → World → Prop
  | nil (world : World) : TearsDown tearDown [] world world
  | cons {id : Id resource} {value : α} {rest : List (Id resource × α)}
      {world between after final : World} (silent : between.log = world.log)
      (torn : tearDown id value between after) (more : TearsDown tearDown rest after final) :
      TearsDown tearDown ((id, value) :: rest) world final

/-- An instance is ended, while the rest of the machine goes on. -/
def Dismisses (id : AlgorithmId) (i : Instance) (before after : World) : Prop :=
  ∃ meanwhile, World.Silent meanwhile ∧ after = Driver.tearDownInstance id i before meanwhile

/-- A channel to read from is closed. -/
def ShutsRead (id : ReadFileId) (channel : Channel ReadHandle) (before after : World) : Prop :=
  after = Driver.tearDownRead id channel before

/-- A channel to write to is closed. -/
def ShutsWrite (id : WriteFileId) (channel : Channel WriteHandle) (before after : World) : Prop :=
  after = Driver.tearDownWrite id channel before

/-- Everything is closed, table by table. -/
structure ClosesAll (s t : State) : Prop where
  worlds : ∃ afterInstances afterReads,
    TearsDown Dismisses s.driver.algorithms.toList s.world afterInstances ∧
    TearsDown ShutsRead s.driver.readFiles.toList afterInstances afterReads ∧
    TearsDown ShutsWrite s.driver.writeFiles.toList afterReads t.world
  driver : t.driver = { s.driver with
    algorithms := s.driver.algorithms.drain.2
    readFiles := s.driver.readFiles.drain.2
    writeFiles := s.driver.writeFiles.drain.2 }

/-- The state after an operation of the driver. -/
def after {α : Type} (outcome : α × Driver × World) : State := ⟨outcome.2.1, outcome.2.2⟩

/-- One call, or something that happens in between.  Waiting for an instance is looking at its
status until it has ended. -/
inductive Step (s : State) : Call → State → Prop
  | start (name : String) :
      Step s (.start name (s.driver.start name s.world).1) (after (s.driver.start name s.world))
  | status (id : AlgorithmId) :
      Step s (.status id (s.driver.status id s.world).1) (after (s.driver.status id s.world))
  | kill (id : AlgorithmId) {meanwhile : World → World} (silent : World.Silent meanwhile) :
      Step s (.kill id (s.driver.kill id s.world meanwhile).1)
        (after (s.driver.kill id s.world meanwhile))
  | inputPipe (id : AlgorithmId) : Step s .other (after (s.driver.inputPipe id s.world))
  | outputPipe (id : AlgorithmId) : Step s .other (after (s.driver.outputPipe id s.world))
  | openRead (path : String) :
      Step s (.openRead path (s.driver.openRead path s.world).1)
        (after (s.driver.openRead path s.world))
  | readPipe (id : ReadFileId) :
      Step s .other { s with world := (s.driver.readPipe id s.world).2 }
  | closeRead (id : ReadFileId) :
      Step s (.closeRead id (s.driver.closeRead id s.world).1)
        (after (s.driver.closeRead id s.world))
  | openWrite (path : String) :
      Step s (.openWrite path (s.driver.openWrite path s.world).1)
        (after (s.driver.openWrite path s.world))
  | writePipe (id : WriteFileId) :
      Step s .other { s with world := (s.driver.writePipe id s.world).2 }
  | closeWrite (id : WriteFileId) :
      Step s (.closeWrite id (s.driver.closeWrite id s.world).1)
        (after (s.driver.closeWrite id s.world))
  | openHandles {meanwhile : World → World} (silent : World.Silent meanwhile) :
      Step s (.openHandles (s.driver.openHandles s.world meanwhile).1)
        (after (s.driver.openHandles s.world meanwhile))
  | closeAll {t : State} (closes : ClosesAll s t) : Step s .closeAll t
  /-- Handles are used, processes run, or something else happens that leaves the log alone. -/
  | elsewhere {world : World} (silent : world.log = s.world.log) : Step s .other { s with world }

/-- A run, with the calls that were made. -/
inductive Run (start : State) : List Call → State → Prop
  | nil : Run start [] start
  | snoc {calls : List Call} {s t : State} {call : Call} (run : Run start calls s)
      (step : Step s call t) : Run start (calls ++ [call]) t

/-- One look of somebody who waits. -/
theorem Step.waitOnce {driver driver' : Driver} {world world' : World} {id : AlgorithmId}
    {status? : Option Status} (looked : driver.waitOnce id world = (status?, driver', world')) :
    Step ⟨driver, world⟩ (.status id (driver.status id world).1) ⟨driver', world'⟩ := by
  have step := @Step.status ⟨driver, world⟩ id
  unfold Driver.waitOnce at looked
  split at looked
  · rename_i same
    cases looked
    rw [same] at step ⊢
    exact step
  · rename_i same
    cases looked
    rw [same] at step ⊢
    exact step

theorem Run.wait_go {start : State} (id : AlgorithmId) (fuel : Nat) {driver : Driver}
    {world : World} {calls : List Call} (run : Run start calls ⟨driver, world⟩) : ∃ looks,
    Run start (calls ++ looks) (after (Driver.wait.go id fuel driver world)) ∧
      ∀ call ∈ looks, call.success? = none ∧ call.unflushed? = none := by
  induction fuel generalizing driver world calls with
  | zero => exact ⟨[], by rwa [List.append_nil], List.forall_mem_nil _⟩
  | succ fuel ih =>
    rw [Driver.wait.go]
    rcases outcome : driver.waitOnce id world with ⟨_ | status, driver', world'⟩
    · have looked := run.snoc (Step.waitOnce outcome)
      dsimp only
      split
      · exact ⟨_, looked, List.forall_mem_singleton.2 ⟨rfl, rfl⟩⟩
      · have advanced := looked.snoc (@Step.elsewhere ⟨driver', world'⟩ world'.advance rfl)
        obtain ⟨looks, run, nothing⟩ := ih advanced
        rw [List.append_assoc, List.append_assoc] at run
        refine ⟨_, run, List.forall_mem_cons.2 ⟨⟨rfl, rfl⟩, ?_⟩⟩
        exact List.forall_mem_cons.2 ⟨⟨rfl, rfl⟩, nothing⟩
    · exact ⟨_, run.snoc (Step.waitOnce outcome), List.forall_mem_singleton.2 ⟨rfl, rfl⟩⟩

/-- Waiting for an instance is a run of looks at it, by which nothing is achieved. -/
theorem Run.wait {start s : State} {calls : List Call} (run : Run start calls s)
    (id : AlgorithmId) : ∃ looks, Run start (calls ++ looks) (after (s.driver.wait id s.world)) ∧
      ∀ call ∈ looks, call.success? = none ∧ call.unflushed? = none := run.wait_go id World.patience

/-- Closing everything, when nothing else happens meanwhile, is of this kind. -/
theorem closesAll_closeAll (driver : Driver) (world : World) :
    ClosesAll ⟨driver, world⟩ ⟨(driver.closeAll world).1, (driver.closeAll world).2⟩ := by
  have tears {resource : Resource} {α : Type} (tearDown : Id resource → α → World → World → Prop)
      (act : World → Id resource × α → World)
      (torn : ∀ id value before, tearDown id value before (act before (id, value)))
      (entries : List (Id resource × α)) (world : World) :
      TearsDown tearDown entries world (entries.foldl act world) := by
    induction entries generalizing world with
    | nil => exact .nil world
    | cons entry rest ih => exact .cons rfl (torn entry.1 entry.2 world) (ih _)
  exact ⟨⟨_, _, tears Dismisses (fun world entry => Driver.tearDownInstance entry.1 entry.2 world)
      (fun _ _ _ => ⟨fun world => world, fun _ => rfl, rfl⟩) _ _,
    tears ShutsRead (fun world entry => Driver.tearDownRead entry.1 entry.2 world)
      (fun _ _ _ => rfl) _ _,
    tears ShutsWrite (fun world entry => Driver.tearDownWrite entry.1 entry.2 world)
      (fun _ _ _ => rfl) _ _⟩, rfl⟩

/-! ## One report each -/

/-- There is one report for each of some resources, which says of it what is expected. -/
def Covers {resource : Resource} {α : Type} (subject : Id resource → Subject)
    (expected : Id resource → α → List LogEntry → Prop) (items : List (Id resource × α))
    (told : List Report) : Prop :=
  List.Forall₂ (fun item report =>
    report.subject = subject item.1 ∧ expected item.1 item.2 report.lines) items told

section Covers

variable {resource : Resource} {α : Type} {subject : Id resource → Subject}
  {expected : Id resource → α → List LogEntry → Prop} {items : List (Id resource × α)}
  {told : List Report}

theorem Covers.subjects (covers : Covers subject expected items told) :
    told.map Report.subject = items.map fun item => subject item.1 := by
  induction covers with
  | nil => rfl
  | cons first _ ih => exact congrArg₂ List.cons first.1 ih

theorem Covers.about_eq_nil (covers : Covers subject expected items told) {other : Subject}
    (missing : ∀ item ∈ items, subject item.1 ≠ other) : Audit.about told other = [] := by
  refine Audit.about_eq_nil fun report mem same => ?_
  have known : report.subject ∈ items.map fun item => subject item.1 :=
    covers.subjects ▸ List.mem_map_of_mem mem
  obtain ⟨item, mem, here⟩ := List.mem_map.1 known
  exact missing item mem (here.trans same)

theorem Covers.about (covers : Covers subject expected items told)
    (apart : (items.map fun item => subject item.1).Nodup) {item : Id resource × α}
    (mem : item ∈ items) : expected item.1 item.2 (Audit.about told (subject item.1)) := by
  have distinct := covers.subjects ▸ apart
  obtain ⟨report, mem, same, holds⟩ : ∃ report ∈ told,
      report.subject = subject item.1 ∧ expected item.1 item.2 report.lines := by
    clear apart distinct
    induction covers with
    | nil => cases mem
    | cons first _ ih =>
      rcases List.mem_cons.1 mem with rfl | mem
      · exact ⟨_, List.mem_cons_self, first⟩
      · obtain ⟨report, mem, rest⟩ := ih mem
        exact ⟨report, List.mem_cons_of_mem _ mem, rest⟩
  rw [← same, about_of_mem distinct mem]
  exact holds

/-- What is said of the resources of a table. -/
theorem Covers.of_table {t : Table resource α} (covers : Covers subject expected t.toList told)
    (apart : t.ids.Nodup) (injective : Function.Injective subject) (id : Id resource) :
    (t.get? id = none ∧ Audit.about told (subject id) = []) ∨
      ∃ value, t.get? id = some value ∧ expected id value (Audit.about told (subject id)) := by
  cases found : t.get? id with
  | none =>
    refine .inl ⟨rfl, covers.about_eq_nil fun item mem same => ?_⟩
    have live : t.get? item.1 = some item.2 := (Table.mem_toList_iff apart).1 mem
    rw [injective same, found] at live
    cases live
  | some value =>
    refine .inr ⟨value, rfl, covers.about ?_ ((Table.mem_toList_iff apart).2 found)⟩
    have subjects : (t.toList.map fun item => subject item.1) = t.ids.map subject := by
      rw [← t.toList_keys, List.map_map]
      rfl
    rw [subjects]
    exact apart.map injective

/-- Nothing that is said tells of success. -/
theorem Covers.unsuccessful (covers : Covers subject expected items told)
    (each : ∀ id value lines, expected id value lines → lines.filterMap LogEntry.success? = []) :
    (entries told).filterMap LogEntry.success? = [] := by
  induction covers with
  | nil => rfl
  | cons first _ ih =>
    refine (List.filterMap_append).trans ?_
    rw [each _ _ _ first.2]
    exact ih

/-- Whatever is torn down is reported on. -/
theorem TearsDown.reports {tearDown : Id resource → α → World → World → Prop} {world final : World}
    (torn : TearsDown tearDown items world final) (subject : Id resource → Subject)
    (each : ∀ id value before after, tearDown id value before after →
      ∃ lines, after.log = before.log ++ lines ∧ expected id value lines) :
    ∃ told, final.log = world.log ++ entries told ∧ Covers subject expected items told := by
  induction torn with
  | nil world => exact ⟨[], (List.append_nil _).symm, .nil⟩
  | @cons id value _ _ _ _ _ silent first _ ih =>
    obtain ⟨lines, log, holds⟩ := each _ _ _ _ first
    obtain ⟨told, log', covers⟩ := ih
    refine ⟨⟨subject id, lines⟩ :: told, ?_, .cons ⟨rfl, holds⟩ covers⟩
    rw [log', log, silent, List.append_assoc]
    rfl

end Covers

end Audit

end AlgorithmDriver

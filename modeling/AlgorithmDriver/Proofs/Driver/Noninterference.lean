import AlgorithmDriver.Proofs.Driver.Company
import AlgorithmDriver.Proofs.Driver.Inquiry
import AlgorithmDriver.Proofs.Driver.Lifecycle

/-!
# Drivers do not interfere

Main statement: whatever is asked about one id of one driver, or done with one handle, leaves every
other id of every driver alone, and what is asked about different ids comes to the same in either
order (`Company.Run.noninterference`).

* A `Setting` is what the drivers of a company have in their tables, and the world.  An `Errand` is
  addressed to an `Address` there: the cell of an id, or the stream of a handle.
* Different cells of a company have no stream and no process in common
  (`Company.Sound.cell_sources` and the like), so that two errands meet (`Setting.Meets`) only if
  they are addressed to the same id, or if one of them uses a handle of a stream of the other.
* Operations that stay within scopes apart can change places (`World.Within.swap`).
-/

namespace AlgorithmDriver

/-! ## Operations that change places -/

namespace World

variable {α β : Type}

/-- Two scopes have no stream in common. -/
structure Scope.Apart (scope other : Scope) : Prop where
  sources : ∀ m ∈ scope.sources, m ∉ other.sources
  sinks : ∀ m ∈ scope.sinks, m ∉ other.sinks

/-- The world with another host. -/
def withHost (world : World) (host : Host) : World := { world with host }

/-- Worlds that are the same up to what is on the host. -/
structure Alike (world other : World) : Prop where
  sources : other.sources = world.sources
  sinks : other.sinks = world.sinks
  log : other.log = world.log
  errors : other.errors = world.errors

/-- Worlds that are the same up to what is on the host and in which order entries were put on
record. -/
structure Matches (world other : World) : Prop where
  sources : other.sources = world.sources
  sinks : other.sinks = world.sinks
  log : other.log.Perm world.log
  errors : other.errors = world.errors

/-- Something that two operations come upon, of which at most one is concerned with it, is the same
after both of them in either order. -/
theorem same_of_apart {γ : Type} {mine own : Prop} {start first second both both' : γ}
    (apart : mine → ¬ own) (kept : ¬ mine → first = start) (kept' : ¬ own → second = start)
    (changed : mine → both' = first) (unchanged : ¬ mine → both' = second)
    (changed' : own → both = second) (unchanged' : ¬ own → both = first) : both' = both := by
  by_cases concerned : mine
  · exact (changed concerned).trans (unchanged' (apart concerned)).symm
  · rw [unchanged concerned]
    by_cases concerned' : own
    · exact (changed' concerned').symm
    · rw [unchanged' concerned', kept concerned, kept' concerned']

/-- Two operations that have no stream in common, done in either order.  In either order each of
them meets hosts on which it comes to the same by itself. -/
theorem Within.swap {scope other : Scope} {f : World → α × World} {g : World → β × World}
    (first : Within scope f) (second : Within other g) (apart : scope.Apart other) (world : World)
    {early early' late late' : Host}
    (answer : (f (world.withHost early')).1 = (f (world.withHost early)).1)
    (alike : (f (world.withHost early)).2.Alike (f (world.withHost early')).2)
    (answer' : (g (world.withHost late')).1 = (g (world.withHost late)).1)
    (alike' : (g (world.withHost late)).2.Alike (g (world.withHost late')).2) :
    let one := f (world.withHost early)
    let two := g (world.withHost late')
    (f (two.2.withHost early')).1 = one.1 ∧ (g (one.2.withHost late)).1 = two.1 ∧
      (g (one.2.withHost late)).2.Matches (f (two.2.withHost early')).2 := by
  intro one two
  have touched := first.touches (world.withHost early)
  have touched' := second.touches (world.withHost late')
  -- From within its scope, neither of them sees what the other one did.
  have seen : (world.withHost late).Agree other (one.2.withHost late) :=
    ⟨rfl, fun m mem => touched.sources m fun own => apart.sources m own mem,
      fun m mem => touched.sinks m fun own => apart.sinks m own mem⟩
  have seen' : (world.withHost early').Agree scope (two.2.withHost early') :=
    ⟨rfl, fun m mem => touched'.sources m (apart.sources m mem),
      fun m mem => touched'.sinks m (apart.sinks m mem)⟩
  have afterwards := second.touches (one.2.withHost late)
  have afterwards' := first.touches (two.2.withHost early')
  refine ⟨(first.answer seen').trans answer, (second.answer seen).trans answer'.symm,
    List.ext_getElem? fun m => ?_, List.ext_getElem? fun m => ?_, ?_, ?_⟩
  · refine same_of_apart (apart.sources m) (touched.sources m) (touched'.sources m) (fun mem => ?_)
      (afterwards'.sources m) (fun mem => ?_) (afterwards.sources m)
    · rw [(first.agree seen').sources m mem, alike.sources]
    · rw [(second.agree seen).sources m mem, ← alike'.sources]
  · refine same_of_apart (apart.sinks m) (touched.sinks m) (touched'.sinks m) (fun mem => ?_)
      (afterwards'.sinks m) (fun mem => ?_) (afterwards.sinks m)
    · rw [(first.agree seen').sinks m mem, alike.sinks]
    · rw [(second.agree seen).sinks m mem, ← alike'.sinks]
  · obtain ⟨mine, log, log'⟩ := first.log seen'
    obtain ⟨own, log₂, log₂'⟩ := second.log seen
    have early_log : one.2.log = world.log ++ mine := alike.log ▸ log
    have late_log : two.2.log = world.log ++ own := alike'.log.trans log₂
    rw [log₂', log']
    show (two.2.log ++ mine).Perm (one.2.log ++ own)
    rw [early_log, late_log, List.append_assoc, List.append_assoc]
    exact List.perm_append_comm.append_left world.log
  · exact ((afterwards'.errors.trans touched'.errors).trans touched.errors.symm).trans
      afterwards.errors.symm

end World

/-! ## Settings -/

/-- A cell of one of several drivers, or the stream of a handle. -/
inductive Address (n : Nat) where
  | cell (k : Fin n) (cell : Cell)
  | port (port : Port)
  deriving DecidableEq

/-- What there is to be found at a place. -/
abbrev Address.Content {n : Nat} : Address n → Type
  | cell _ which => Option which.Content
  | port _ => Unit

/-- The streams and the process at a place. -/
def Address.scope {n : Nat} : (p : Address n) → p.Content → World.Scope
  | cell _ which, content => which.scope content
  | port which, _ => which.scope

/-- Several drivers with their tables, in one world. -/
structure Setting (n : Nat) where
  drivers : Fin n → Driver
  world : World

/-- What can be told of a place: what is in the tables, and the streams that belong to it. -/
structure Address.View {n : Nat} (p : Address n) where
  content : p.Content
  sources : List (Option (Shared Source))
  sinks : List (Option (Shared Sink))

namespace Setting

variable {n : Nat}

/-- What is found at a place. -/
def content (s : Setting n) : (p : Address n) → p.Content
  | .cell k cell => (s.drivers k).content cell
  | .port _ => ()

/-- The streams and the process at a place. -/
def scope (s : Setting n) (p : Address n) : World.Scope := p.scope (s.content p)

/-- What can be told of a place. -/
def look (s : Setting n) (p : Address n) : p.View where
  content := s.content p
  sources := (s.scope p).sources.map fun m => s.world.sources[m]?
  sinks := (s.scope p).sinks.map fun m => s.world.sinks[m]?

/-- Two places have something in common.  Cells of different ids have not; a handle has, if its
stream is that of the other. -/
def Meets (s : Setting n) : Address n → Address n → Prop
  | .cell k cell, .cell l other => k = l ∧ cell = other
  | p, other => ¬ (s.scope p).Apart (s.scope other)

/-- Changes what is at a place. -/
def put (drivers : Fin n → Driver) : (p : Address n) → p.Content → Fin n → Driver
  | .cell k cell, content => Function.update drivers k ((drivers k).put cell content)
  | .port _, _ => drivers

/-- The setting with another host. -/
def withHost (s : Setting n) (host : Host) : Setting n := { s with world := s.world.withHost host }

/-- Settings that are the same up to what is on the host. -/
structure Alike (s t : Setting n) : Prop where
  drivers : t.drivers = s.drivers
  world : s.world.Alike t.world

/-- Settings that are the same up to what is on the host and in which order entries were put on
record. -/
structure Matches (s t : Setting n) : Prop where
  drivers : t.drivers = s.drivers
  world : s.world.Matches t.world

end Setting

/-! ## Errands -/

/-- What is asked about an id of one of several drivers, or done with a handle. -/
inductive Errand (n : Nat) where
  | inquire (k : Fin n) (q : Inquiry)
  | use (u : Usage)

namespace Errand

variable {n : Nat}

/-- Where an errand is addressed to. -/
abbrev place : Errand n → Address n
  | inquire k q => .cell k q.cell
  | use u => .port u.port

/-- What is answered. -/
abbrev Answer : Errand n → Type
  | inquire _ q => q.Answer
  | use u => u.Answer

/-- Carries out an errand. -/
def perform : (r : Errand n) → Setting n → r.Answer × Setting n
  | inquire k q, s =>
    let (answer, driver, world) := q.perform (s.drivers k) s.world
    (answer, { drivers := Function.update s.drivers k driver, world })
  | use u, s =>
    let (answer, world) := u.perform s.world
    (answer, { s with world })

/-- The processes that may go on meanwhile, whatever the errand is about. -/
def stirs : Errand n → Nat → Prop
  | inquire _ q => q.stirs
  | use u => u.stirs

/-- What an errand does with what is at its place. -/
def act : (r : Errand n) → r.place.Content → World → (r.Answer × r.place.Content) × World
  | inquire _ q, content, world => q.act content world
  | use u, _, world => (((u.perform world).1, ()), (u.perform world).2)

/-- What an errand is concerned with. -/
def scope : (r : Errand n) → r.place.Content → World.Scope
  | inquire _ q, content => q.scope content
  | use u, _ => u.scope

theorem act_within (r : Errand n) (content : r.place.Content) :
    World.Within (r.scope content) (r.act content) := by
  cases r with
  | inquire k q => exact q.act_within content
  | use u => exact u.perform_within.map fun answer => (answer, ())

/-- The streams that an errand is concerned with are those of its place. -/
theorem scope_streams (r : Errand n) (content : r.place.Content) :
    (r.scope content).sources = (r.place.scope content).sources ∧
      (r.scope content).sinks = (r.place.scope content).sinks := by
  cases r <;> exact ⟨rfl, rfl⟩

end Errand

namespace Setting

variable {n : Nat} {s : Setting n}

/-- The ids of every table are told apart. -/
def Apart (s : Setting n) : Prop := ∀ k, (s.drivers k).Apart

/-- An errand is carried out on what is at its place, and changes nothing else in the tables. -/
theorem perform_eq (apart : s.Apart) (r : Errand n) :
    r.perform s =
      ((r.act (s.content r.place) s.world).1.1,
        { drivers := put s.drivers r.place (r.act (s.content r.place) s.world).1.2
          world := (r.act (s.content r.place) s.world).2 }) := by
  cases r with
  | inquire k q =>
    simp only [Errand.perform]
    rw [q.perform_eq (apart k)]
    rfl
  | use u => rfl

theorem content_put_ne {drivers : Fin n → Driver} {world world' : World} {p other : Address n}
    (apart : other ≠ p) (content : p.Content) :
    ({ drivers := put drivers p content, world } : Setting n).content other =
      ({ drivers, world := world' } : Setting n).content other := by
  cases other with
  | port port => rfl
  | cell l other =>
    cases p with
    | port port => rfl
    | cell k cell =>
      show (Function.update drivers k ((drivers k).put cell content) l).content other = _
      by_cases same : l = k
      · subst same
        rw [Function.update_self]
        exact Driver.content_put_ne (fun h => apart (congrArg (Address.cell l) h)) content
      · rw [Function.update_of_ne same]
        rfl

theorem Apart.put (apart : s.Apart) (p : Address n) (content : p.Content) (world : World) :
    ({ drivers := put s.drivers p content, world } : Setting n).Apart := by
  cases p with
  | port port => exact apart
  | cell k cell =>
    intro l
    show (Function.update s.drivers k ((s.drivers k).put cell content) l).Apart
    by_cases same : l = k
    · subst same
      rw [Function.update_self]
      exact (apart l).put cell content
    · rw [Function.update_of_ne same]
      exact apart l

/-- Different places can be changed in either order. -/
theorem put_comm (drivers : Fin n → Driver) {p other : Address n} (apart : p ≠ other)
    (first : p.Content) (second : other.Content) :
    put (put drivers p first) other second = put (put drivers other second) p first := by
  cases p with
  | port port => rfl
  | cell k cell =>
    cases other with
    | port port => rfl
    | cell l other =>
      show Function.update (Function.update drivers k ((drivers k).put cell first)) l
          ((Function.update drivers k ((drivers k).put cell first) l).put other second) =
        Function.update (Function.update drivers l ((drivers l).put other second)) k
          ((Function.update drivers l ((drivers l).put other second) k).put cell first)
      by_cases same : k = l
      · subst same
        have distinct : cell ≠ other := fun h => apart (congrArg (Address.cell k) h)
        have swapped := (drivers k).put_comm distinct first second
        simp only [Function.update_self, Function.update_idem, swapped]
      · rw [Function.update_of_ne same, Function.update_of_ne (Ne.symm same),
          Function.update_comm same]

end Setting

/-! ## What cells have in common -/

namespace Cell

variable {driver : Driver} {m : Nat}

@[simp] theorem mem_sources_algorithm {id : AlgorithmId} :
    m ∈ ((algorithm id).scope (driver.content (algorithm id))).sources ↔
      ∃ i, driver.algorithms.get? id = some i ∧ m ∈ i.outputStream := by
  have same : driver.content (algorithm id) = driver.algorithms.get? id := rfl
  rw [same]
  cases driver.algorithms.get? id <;> simp [scope]

@[simp] theorem mem_sources_readFile {id : ReadFileId} :
    m ∈ ((readFile id).scope (driver.content (readFile id))).sources ↔
      ∃ channel, driver.readFiles.get? id = some channel ∧ m = channel.pipe.number := by
  have same : driver.content (readFile id) = driver.readFiles.get? id := rfl
  rw [same]
  cases driver.readFiles.get? id <;> simp [scope]

@[simp] theorem not_mem_sources_writeFile {id : WriteFileId} :
    m ∉ ((writeFile id).scope (driver.content (writeFile id))).sources := by
  have same : driver.content (writeFile id) = driver.writeFiles.get? id := rfl
  rw [same]
  cases driver.writeFiles.get? id <;> simp [scope]

@[simp] theorem mem_sinks_algorithm {id : AlgorithmId} :
    m ∈ ((algorithm id).scope (driver.content (algorithm id))).sinks ↔
      ∃ i, driver.algorithms.get? id = some i ∧ m ∈ i.inputStream := by
  have same : driver.content (algorithm id) = driver.algorithms.get? id := rfl
  rw [same]
  cases driver.algorithms.get? id <;> simp [scope]

@[simp] theorem not_mem_sinks_readFile {id : ReadFileId} :
    m ∉ ((readFile id).scope (driver.content (readFile id))).sinks := by
  have same : driver.content (readFile id) = driver.readFiles.get? id := rfl
  rw [same]
  cases driver.readFiles.get? id <;> simp [scope]

@[simp] theorem mem_sinks_writeFile {id : WriteFileId} :
    m ∈ ((writeFile id).scope (driver.content (writeFile id))).sinks ↔
      ∃ channel, driver.writeFiles.get? id = some channel ∧ m = channel.pipe.number := by
  have same : driver.content (writeFile id) = driver.writeFiles.get? id := rfl
  rw [same]
  cases driver.writeFiles.get? id <;> simp [scope]

/-- Only instances have processes. -/
theorem exists_of_processes {cell : Cell} {process : Nat}
    (mem : (cell.scope (driver.content cell)).processes process) :
    ∃ id i, cell = algorithm id ∧ driver.algorithms.get? id = some i ∧ process = i.process := by
  cases found : driver.content cell with
  | none =>
    rw [found] at mem
    cases cell <;> exact mem.elim
  | some value =>
    rw [found] at mem
    cases cell with
    | algorithm id => exact ⟨id, value, rfl, found, mem⟩
    | readFile id => exact mem.elim
    | writeFile id => exact mem.elim

end Cell

namespace Company

variable {n : Nat} {c : Company n} {start : World} {k l : Fin n}

/-- The drivers of a company, and its world. -/
def setting (c : Company n) : Setting n where
  drivers k := (c.members k).driver
  world := c.world

/-- Something in a table, and all else that the members have of the sort. -/
theorem gather_found {resource : Resource} {α : Type} {has : Fin n → List α}
    (table : Fin n → Table resource α) {rest : Fin n → List α}
    (split : ∀ k, has k = (table k).values ++ rest k)
    (apart : ((table k).entries.map Prod.fst).Nodup) {id : Id resource} {value : α}
    (found : (table k).get? id = some value) :
    ∃ others, (gather (List.finRange n) has).Perm (value :: others) ∧
      ∀ l key value', ¬ (k = l ∧ id = key) → (table l).get? key = some value' →
        value' ∈ others := by
  obtain ⟨own, values, _, removed⟩ := Table.values_of_get? apart found
  refine ⟨(own ++ rest k) ++ gather ((List.finRange n).erase k) has, ?_, ?_⟩
  · have here : (has k).Perm (value :: (own ++ rest k)) := by
      rw [split k]
      exact values.append_right _
    exact (gather_perm has k).trans (here.append_right _)
  · intro l key value' other found'
    by_cases same : l = k
    · subst same
      have left : ((table l).remove id).get? key = some value' :=
        (Table.get?_remove _ id key).trans
          ((if_neg fun h => other ⟨rfl, h.symm⟩).trans found')
      exact List.mem_append_left _
        (List.mem_append_left _ (removed.mem_iff.1 (Table.mem_values left)))
    · refine List.mem_append_right _ (List.mem_flatMap.2 ⟨l, ?_, ?_⟩)
      · exact (List.mem_erase_of_ne same).2 (List.mem_finRange l)
      · rw [split l]
        exact List.mem_append_left _ (Table.mem_values found')

/-- What one has of something of which nobody has the same the others have not. -/
theorem apart_of_perm {α : Type} {has : α → List Nat} {all others : List α} {a b : α}
    (apart : (all.flatMap has).Nodup) (split : all.Perm (a :: others)) (mem : b ∈ others) :
    ∀ m ∈ has a, m ∉ has b := by
  have each := (split.flatMap_right has).nodup_iff.1 apart
  rw [List.flatMap_cons] at each
  intro m own shared
  exact List.disjoint_of_nodup_append each own (List.mem_flatMap.2 ⟨b, mem, shared⟩)

namespace Sound

theorem apart (sound : c.Sound start) : c.setting.Apart := by
  intro k
  obtain ⟨deeds, follows⟩ := sound.follows k
  exact ⟨follows.algorithms.apart, follows.readFiles.apart, follows.writeFiles.apart⟩

theorem instance_found (sound : c.Sound start) {id : AlgorithmId} {i : Instance}
    (found : (c.members k).driver.algorithms.get? id = some i) :
    ∃ others, c.holdings.instances.Perm (i :: others) ∧ ∀ l key j, ¬ (k = l ∧ id = key) →
      (c.members l).driver.algorithms.get? key = some j → j ∈ others :=
  gather_found (fun k => (c.members k).driver.algorithms) (fun _ => rfl)
    (sound.apart k).algorithms found

theorem read_found (sound : c.Sound start) {id : ReadFileId} {channel : Channel ReadHandle}
    (found : (c.members k).driver.readFiles.get? id = some channel) :
    ∃ others, c.holdings.reads.Perm (channel :: others) ∧ ∀ l key channel', ¬ (k = l ∧ id = key) →
      (c.members l).driver.readFiles.get? key = some channel' → channel' ∈ others :=
  gather_found (fun k => (c.members k).driver.readFiles) (fun _ => rfl)
    (sound.apart k).readFiles found

theorem write_found (sound : c.Sound start) {id : WriteFileId} {channel : Channel WriteHandle}
    (found : (c.members k).driver.writeFiles.get? id = some channel) :
    ∃ others, c.holdings.writes.Perm (channel :: others) ∧ ∀ l key channel', ¬ (k = l ∧ id = key) →
      (c.members l).driver.writeFiles.get? key = some channel' → channel' ∈ others :=
  gather_found (fun k => (c.members k).driver.writeFiles) (fun _ => rfl)
    (sound.apart k).writeFiles found

/-- A channel and an instance have no stream to read from in common. -/
theorem read_instance (sound : c.Sound start) {id : ReadFileId} {key : AlgorithmId}
    {channel : Channel ReadHandle} {i : Instance}
    (found : (c.members k).driver.readFiles.get? id = some channel)
    (found' : (c.members l).driver.algorithms.get? key = some i) :
    channel.pipe.number ∉ i.outputStream := by
  obtain ⟨_, reads, _⟩ := sound.read_found found
  obtain ⟨_, instances, _⟩ := sound.instance_found found'
  intro shared
  refine List.disjoint_of_nodup_append sound.holdings.readApart
    (List.mem_map_of_mem (reads.mem_iff.2 List.mem_cons_self))
    (List.mem_flatMap.2 ⟨i, instances.mem_iff.2 List.mem_cons_self, shared⟩)

/-- A channel and an instance have no stream to write to in common. -/
theorem write_instance (sound : c.Sound start) {id : WriteFileId} {key : AlgorithmId}
    {channel : Channel WriteHandle} {i : Instance}
    (found : (c.members k).driver.writeFiles.get? id = some channel)
    (found' : (c.members l).driver.algorithms.get? key = some i) :
    channel.pipe.number ∉ i.inputStream := by
  obtain ⟨_, writes, _⟩ := sound.write_found found
  obtain ⟨_, instances, _⟩ := sound.instance_found found'
  intro shared
  refine List.disjoint_of_nodup_append sound.holdings.writeApart
    (List.mem_map_of_mem (writes.mem_iff.2 List.mem_cons_self))
    (List.mem_flatMap.2 ⟨i, instances.mem_iff.2 List.mem_cons_self, shared⟩)

theorem cell_sources (sound : c.Sound start) {cell other : Cell}
    (apart : ¬ (k = l ∧ cell = other)) : ∀ m ∈ (c.setting.scope (.cell k cell)).sources,
      m ∉ (c.setting.scope (.cell l other)).sources := by
  intro m own shared
  cases cell with
  | writeFile id => exact Cell.not_mem_sources_writeFile own
  | algorithm id =>
    obtain ⟨i, found, mem⟩ := Cell.mem_sources_algorithm.1 own
    cases other with
    | writeFile key => exact Cell.not_mem_sources_writeFile shared
    | readFile key =>
      obtain ⟨channel, found', rfl⟩ := Cell.mem_sources_readFile.1 shared
      exact sound.read_instance found' found mem
    | algorithm key =>
      obtain ⟨j, found', mem'⟩ := Cell.mem_sources_algorithm.1 shared
      obtain ⟨others, split, rest⟩ := sound.instance_found found
      have second := rest l key j (fun h => apart ⟨h.1, congrArg Cell.algorithm h.2⟩) found'
      exact apart_of_perm sound.holdings.readApart.of_append_right split second m mem mem'
  | readFile id =>
    obtain ⟨channel, found, rfl⟩ := Cell.mem_sources_readFile.1 own
    cases other with
    | writeFile key => exact Cell.not_mem_sources_writeFile shared
    | algorithm key =>
      obtain ⟨i, found', mem⟩ := Cell.mem_sources_algorithm.1 shared
      exact sound.read_instance found found' mem
    | readFile key =>
      obtain ⟨channel', found', same⟩ := Cell.mem_sources_readFile.1 shared
      obtain ⟨others, split, rest⟩ := sound.read_found found
      have second := rest l key channel' (fun h => apart ⟨h.1, congrArg Cell.readFile h.2⟩) found'
      have each := sound.holdings.readApart.of_append_left
      rw [List.map_eq_flatMap] at each
      exact apart_of_perm each split second _ List.mem_cons_self (same ▸ List.mem_cons_self)

theorem cell_sinks (sound : c.Sound start) {cell other : Cell}
    (apart : ¬ (k = l ∧ cell = other)) : ∀ m ∈ (c.setting.scope (.cell k cell)).sinks,
      m ∉ (c.setting.scope (.cell l other)).sinks := by
  intro m own shared
  cases cell with
  | readFile id => exact Cell.not_mem_sinks_readFile own
  | algorithm id =>
    obtain ⟨i, found, mem⟩ := Cell.mem_sinks_algorithm.1 own
    cases other with
    | readFile key => exact Cell.not_mem_sinks_readFile shared
    | writeFile key =>
      obtain ⟨channel, found', rfl⟩ := Cell.mem_sinks_writeFile.1 shared
      exact sound.write_instance found' found mem
    | algorithm key =>
      obtain ⟨j, found', mem'⟩ := Cell.mem_sinks_algorithm.1 shared
      obtain ⟨others, split, rest⟩ := sound.instance_found found
      have second := rest l key j (fun h => apart ⟨h.1, congrArg Cell.algorithm h.2⟩) found'
      exact apart_of_perm sound.holdings.writeApart.of_append_right split second m mem mem'
  | writeFile id =>
    obtain ⟨channel, found, rfl⟩ := Cell.mem_sinks_writeFile.1 own
    cases other with
    | readFile key => exact Cell.not_mem_sinks_readFile shared
    | algorithm key =>
      obtain ⟨i, found', mem⟩ := Cell.mem_sinks_algorithm.1 shared
      exact sound.write_instance found found' mem
    | writeFile key =>
      obtain ⟨channel', found', same⟩ := Cell.mem_sinks_writeFile.1 shared
      obtain ⟨others, split, rest⟩ := sound.write_found found
      have second := rest l key channel' (fun h => apart ⟨h.1, congrArg Cell.writeFile h.2⟩) found'
      have each := sound.holdings.writeApart.of_append_left
      rw [List.map_eq_flatMap] at each
      exact apart_of_perm each split second _ List.mem_cons_self (same ▸ List.mem_cons_self)

/-- Places that do not meet have no stream in common. -/
theorem places_apart (sound : c.Sound start) {p q : Address n} (apart : ¬ c.setting.Meets p q) :
    (c.setting.scope p).Apart (c.setting.scope q) := by
  cases p with
  | port port => exact not_not.1 apart
  | cell k cell =>
    cases q with
    | port port => exact not_not.1 apart
    | cell l other => exact ⟨sound.cell_sources apart, sound.cell_sinks apart⟩

/-- Instances of different ids have different processes. -/
theorem processes_apart (sound : c.Sound start) {id key : AlgorithmId} {i j : Instance}
    (apart : ¬ (k = l ∧ id = key)) (found : (c.members k).driver.algorithms.get? id = some i)
    (found' : (c.members l).driver.algorithms.get? key = some j) : j.process ≠ i.process := by
  obtain ⟨others, split, rest⟩ := sound.instance_found found
  have each := (split.map Instance.process).nodup_iff.1 sound.separate.apart
  intro same
  exact (List.nodup_cons.1 each).1 (same ▸ List.mem_map_of_mem (rest l key j apart found'))

end Sound

end Company

/-! ## What an errand leaves alone -/

namespace Errand

variable {n : Nat}

/-- Everything but the place of an errand is as it was. -/
structure LeavesAlone (r : Errand n) (before after : Setting n) : Prop where
  /-- What is found at other places, and the streams that belong to them. -/
  places : ∀ p, ¬ before.Meets r.place p → after.look p = before.look p
  config : ∀ k, (after.drivers k).config = (before.drivers k).config
  /-- The tables that the errand is not addressed to. -/
  algorithms : ∀ k, (∀ id, r.place ≠ .cell k (.algorithm id)) →
    (after.drivers k).algorithms = (before.drivers k).algorithms
  readFiles : ∀ k, (∀ id, r.place ≠ .cell k (.readFile id)) →
    (after.drivers k).readFiles = (before.drivers k).readFiles
  writeFiles : ∀ k, (∀ id, r.place ≠ .cell k (.writeFile id)) →
    (after.drivers k).writeFiles = (before.drivers k).writeFiles
  /-- No id is issued. -/
  next : ∀ k, (after.drivers k).algorithms.next = (before.drivers k).algorithms.next ∧
    (after.drivers k).readFiles.next = (before.drivers k).readFiles.next ∧
    (after.drivers k).writeFiles.next = (before.drivers k).writeFiles.next
  /-- The streams that do not belong to the place, whoever holds them. -/
  sources : ∀ m ∉ (before.scope r.place).sources, after.world.sources[m]? = before.world.sources[m]?
  sinks : ∀ m ∉ (before.scope r.place).sinks, after.world.sinks[m]? = before.world.sinks[m]?
  /-- The processes of other instances, unless they went on by themselves. -/
  processes : ∀ k id i, r.place ≠ .cell k (.algorithm id) →
    (before.drivers k).algorithms.get? id = some i → ¬ r.stirs i.process →
      after.world.host.process? i.process = before.world.host.process? i.process

/-- One errand after the other, each on the host that it meets. -/
def inTurn (a b : Errand n) (early late : Host) (s : Setting n) :
    (a.Answer × b.Answer) × Setting n :=
  let (first, s) := a.perform (s.withHost early)
  let (second, s) := b.perform (s.withHost late)
  ((first, second), s)

/-- On either host the child processes and the files behave the same, as far as an errand has to do
with them. -/
structure SameAt (r : Errand n) (s : Setting n) (host other : Host) : Prop where
  answer : (r.perform (s.withHost other)).1 = (r.perform (s.withHost host)).1
  setting : (r.perform (s.withHost host)).2.Alike (r.perform (s.withHost other)).2

end Errand

namespace Setting

variable {n : Nat} {drivers : Fin n → Driver} {k : Fin n} {p : Address n}

/-- Only the table of a cell is changed. -/
theorem put_algorithms (apart : ∀ id, p ≠ .cell k (.algorithm id)) (content : p.Content) :
    (put drivers p content k).algorithms = (drivers k).algorithms := by
  cases p with
  | port port => rfl
  | cell l cell =>
    show (Function.update drivers l ((drivers l).put cell content) k).algorithms = _
    by_cases same : k = l
    · subst same
      rw [Function.update_self]
      cases cell with
      | algorithm id => exact absurd rfl (apart id)
      | readFile id => rfl
      | writeFile id => rfl
    · rw [Function.update_of_ne same]

theorem put_readFiles (apart : ∀ id, p ≠ .cell k (.readFile id)) (content : p.Content) :
    (put drivers p content k).readFiles = (drivers k).readFiles := by
  cases p with
  | port port => rfl
  | cell l cell =>
    show (Function.update drivers l ((drivers l).put cell content) k).readFiles = _
    by_cases same : k = l
    · subst same
      rw [Function.update_self]
      cases cell with
      | readFile id => exact absurd rfl (apart id)
      | algorithm id => rfl
      | writeFile id => rfl
    · rw [Function.update_of_ne same]

theorem put_writeFiles (apart : ∀ id, p ≠ .cell k (.writeFile id)) (content : p.Content) :
    (put drivers p content k).writeFiles = (drivers k).writeFiles := by
  cases p with
  | port port => rfl
  | cell l cell =>
    show (Function.update drivers l ((drivers l).put cell content) k).writeFiles = _
    by_cases same : k = l
    · subst same
      rw [Function.update_self]
      cases cell with
      | writeFile id => exact absurd rfl (apart id)
      | algorithm id => rfl
      | readFile id => rfl
    · rw [Function.update_of_ne same]

/-- No id is issued, and nothing is configured. -/
theorem put_steady (drivers : Fin n → Driver) (p : Address n) (content : p.Content) (k : Fin n) :
    (put drivers p content k).config = (drivers k).config ∧
      (put drivers p content k).algorithms.next = (drivers k).algorithms.next ∧
      (put drivers p content k).readFiles.next = (drivers k).readFiles.next ∧
      (put drivers p content k).writeFiles.next = (drivers k).writeFiles.next := by
  cases p with
  | port port => exact ⟨rfl, rfl, rfl, rfl⟩
  | cell l cell =>
    show (Function.update drivers l ((drivers l).put cell content) k).config = _ ∧
      (Function.update drivers l ((drivers l).put cell content) k).algorithms.next = _ ∧
      (Function.update drivers l ((drivers l).put cell content) k).readFiles.next = _ ∧
      (Function.update drivers l ((drivers l).put cell content) k).writeFiles.next = _
    by_cases same : k = l
    · subst same
      rw [Function.update_self]
      cases cell <;> simp [Driver.put]
    · rw [Function.update_of_ne same]
      exact ⟨rfl, rfl, rfl, rfl⟩

/-- What an errand puts at its place is found there. -/
theorem content_put_act (s : Setting n) (r : Errand n) (world after : World) :
    ({ drivers := put s.drivers r.place (r.act (s.content r.place) world).1.2
       world := after } : Setting n).content r.place =
      (r.act (s.content r.place) world).1.2 := by
  cases r with
  | use u => rfl
  | inquire k q =>
    show (Function.update s.drivers k ((s.drivers k).put q.cell
      (q.act ((s.drivers k).content q.cell) world).1.2) k).content q.cell = _
    rw [Function.update_self]
    exact Driver.content_put_self Inquiry.isSome_act

/-- A place looks the same when what is found there and its streams are the same. -/
theorem look_congr {s t : Setting n} (content : t.content p = s.content p)
    (sources : ∀ m ∈ (s.scope p).sources, t.world.sources[m]? = s.world.sources[m]?)
    (sinks : ∀ m ∈ (s.scope p).sinks, t.world.sinks[m]? = s.world.sinks[m]?) :
    t.look p = s.look p := by
  unfold look
  rw [show t.scope p = s.scope p from congrArg p.scope content, content,
    List.map_congr_left sources, List.map_congr_left sinks]

/-- Every place meets itself. -/
theorem meets_self (s : Setting n) (p : Address n) : s.Meets p p := by
  cases p with
  | cell k cell => exact ⟨rfl, rfl⟩
  | port port =>
    cases port with
    | source r => exact fun apart => apart.sources r.number List.mem_cons_self List.mem_cons_self
    | sink w => exact fun apart => apart.sinks w.number List.mem_cons_self List.mem_cons_self

end Setting

namespace Errand

variable {n : Nat} {s : Setting n}

/-- What behaves the same does the same to what an errand is about. -/
theorem SameAt.act {r : Errand n} {host other : Host} (same : r.SameAt s host other)
    (apart : s.Apart) :
    (r.act (s.content r.place) (s.world.withHost other)).1 =
        (r.act (s.content r.place) (s.world.withHost host)).1 ∧
      (r.act (s.content r.place) (s.world.withHost host)).2.Alike
        (r.act (s.content r.place) (s.world.withHost other)).2 := by
  obtain ⟨answer, drivers, world⟩ := same
  rw [Setting.perform_eq (s := s.withHost host) apart,
    Setting.perform_eq (s := s.withHost other) apart] at answer drivers world
  refine ⟨Prod.ext answer ?_, world⟩
  -- What was put at the place is told from the tables.
  rw [← Setting.content_put_act s r (s.world.withHost other) s.world,
    ← Setting.content_put_act s r (s.world.withHost host) s.world]
  exact congrArg
    (fun tables => ({ drivers := tables, world := s.world } : Setting n).content r.place) drivers

/-- The second errand finds at its place what was there before the first. -/
theorem inTurn_eq (apart : s.Apart) {a b : Errand n} (other : b.place ≠ a.place)
    (early late : Host) :
    let first := a.act (s.content a.place) (s.world.withHost early)
    let second := b.act (s.content b.place) (first.2.withHost late)
    a.inTurn b early late s = ((first.1.1, second.1.1),
      { drivers := Setting.put (Setting.put s.drivers a.place first.1.2) b.place second.1.2
        world := second.2 }) := by
  intro first second
  have found : ({ drivers := Setting.put s.drivers a.place first.1.2
                  world := first.2.withHost late } : Setting n).content b.place =
      s.content b.place := Setting.content_put_ne other _
  have one : a.perform (s.withHost early) =
      (first.1.1, { drivers := Setting.put s.drivers a.place first.1.2, world := first.2 }) :=
    Setting.perform_eq (s := s.withHost early) apart a
  have two := Setting.perform_eq (apart.put a.place first.1.2 (first.2.withHost late)) b
  rw [found] at two
  unfold inTurn
  rw [one]
  exact congrArg (fun outcome => ((first.1.1, outcome.1), outcome.2)) two

end Errand

namespace Company.Sound

variable {n : Nat} {c : Company n} {start : World}

/-- An errand leaves everything but its place alone. -/
theorem leavesAlone (sound : c.Sound start) (r : Errand n) :
    r.LeavesAlone c.setting (r.perform c.setting).2 := by
  rw [Setting.perform_eq sound.apart r]
  have touches := (r.act_within (c.setting.content r.place)).touches c.world
  obtain ⟨sources, sinks⟩ := r.scope_streams (c.setting.content r.place)
  have kept (m : Nat) (out : m ∉ (c.setting.scope r.place).sources) :=
    touches.sources m (sources ▸ out)
  have kept' (m : Nat) (out : m ∉ (c.setting.scope r.place).sinks) :=
    touches.sinks m (sinks ▸ out)
  have steady := Setting.put_steady c.setting.drivers r.place
    (r.act (c.setting.content r.place) c.world).1.2
  refine ⟨fun p apart => ?_, fun k => (steady k).1, fun k out => Setting.put_algorithms out _,
    fun k out => Setting.put_readFiles out _, fun k out => Setting.put_writeFiles out _,
    fun k => (steady k).2, kept, kept', fun k id i out found calm => touches.processes _ ?_⟩
  · have other : p ≠ r.place := by
      rintro rfl
      exact apart (Setting.meets_self _ _)
    have own := sound.places_apart apart
    exact Setting.look_congr (Setting.content_put_ne other _)
      (fun m mem => kept m fun shared => own.sources m shared mem)
      fun m mem => kept' m fun shared => own.sinks m shared mem
  · intro concerned
    cases r with
    | use u => exact calm concerned
    | inquire l q =>
      rcases concerned with mem | stirred
      · obtain ⟨key, j, cell, found', same⟩ := Cell.exists_of_processes mem
        refine sound.processes_apart (fun h => out ?_) found' found same
        show Address.cell l q.cell = Address.cell k (Cell.algorithm id)
        rw [cell, h.1, h.2]
      · exact calm stirred

/-- Errands at places that do not meet come to the same in either order. -/
theorem swap (sound : c.Sound start) (a b : Errand n)
    (apart : ¬ c.setting.Meets a.place b.place) {early early' late late' : Host}
    (same : a.SameAt c.setting early early') (same' : b.SameAt c.setting late late') :
    (a.inTurn b early late c.setting).1 = (b.inTurn a late' early' c.setting).1.swap ∧
      (a.inTurn b early late c.setting).2.Matches (b.inTurn a late' early' c.setting).2 := by
  have tables : c.setting.Apart := sound.apart
  have other : b.place ≠ a.place := by
    intro h
    rw [h] at apart
    exact apart (Setting.meets_self _ _)
  obtain ⟨answer, alike⟩ := same.act tables
  obtain ⟨answer', alike'⟩ := same'.act tables
  have scopes :
      (a.scope (c.setting.content a.place)).Apart (b.scope (c.setting.content b.place)) := by
    obtain ⟨sources, sinks⟩ := a.scope_streams (c.setting.content a.place)
    obtain ⟨sources', sinks'⟩ := b.scope_streams (c.setting.content b.place)
    have places := sound.places_apart apart
    refine ⟨?_, ?_⟩
    · rw [sources, sources']
      exact places.sources
    · rw [sinks, sinks']
      exact places.sinks
  obtain ⟨first, second, world⟩ := (a.act_within (c.setting.content a.place)).swap
    (b.act_within (c.setting.content b.place)) scopes c.setting.world answer alike answer' alike'
  have one := Errand.inTurn_eq tables other early late
  have two := Errand.inTurn_eq tables other.symm late' early'
  dsimp only at one two
  rw [one, two, first, second]
  exact ⟨rfl, Setting.put_comm _ other _ _, world⟩

end Company.Sound

namespace Company

/-- **Drivers do not interfere.**  In every state that any number of drivers in one world can get
into, what is asked about one id, or done with one handle, leaves alone every other id of every
driver and every stream but those that belong to it.  What is asked about different ids, of one
table or of several, of one driver or of several, gives the same answers and ends in the same state
in either order, if the child processes and the files behave the same. -/
theorem Run.noninterference {n : Nat} {start c : Company n} (new : start.New) (run : Run start c) :
    (∀ r : Errand n, r.LeavesAlone c.setting (r.perform c.setting).2) ∧
      ∀ a b : Errand n, ¬ c.setting.Meets a.place b.place →
        ∀ early early' late late' : Host,
          a.SameAt c.setting early early' → b.SameAt c.setting late late' →
            (a.inTurn b early late c.setting).1 = (b.inTurn a late' early' c.setting).1.swap ∧
              (a.inTurn b early late c.setting).2.Matches (b.inTurn a late' early' c.setting).2 :=
  ⟨fun r => (run.sound new).leavesAlone r,
    fun a b apart _ _ _ _ same same' => (run.sound new).swap a b apart same same'⟩

/-- Two new drivers on a machine with one program. -/
def sample : Company 2 where
  world := Scene.sample.world
  members _ := { driver := Scene.sample.driver, world := Scene.sample.world }

theorem sample_new : sample.New := fun _ => ⟨rfl, rfl, rfl, rfl, rfl, rfl, rfl, rfl, rfl, rfl, rfl⟩

/-- The first driver has started the program, and the second reads the file it is in. -/
def sampleBusy : Company 2 where
  world := Scene.sampleRead.record (.opened "/three" (.read ⟨1⟩))
  members
    | 0 =>
      { driver := { Scene.sample.driver with algorithms := (Table.empty.insert .sample).2 }
        world := Scene.sampleRegistered }
    | 1 =>
      { driver :=
          { Scene.sample.driver with
            readFiles := (Table.empty.insert { path := "/three", pipe := ⟨1⟩ }).2 }
        world := Scene.sampleRead.record (.opened "/three" (.read ⟨1⟩)) }

theorem sample_run : Run sample sampleBusy := by
  have spawned := (@Run.nil 2 sample).snoc (.member 0 (.spawn Scene.sample_spawned))
  have registered := spawned.snoc (.member 0 (.register List.mem_cons_self))
  have opened := registered.snoc (.member 1 (.acquireRead Scene.sample_acquireRead))
  have run := opened.snoc (.member 1 (.registerRead List.mem_cons_self))
  refine Eq.subst (motive := fun c => Run sample c) ?_ run
  exact congrArg (Company.mk _) (funext (Fin.forall_fin_two.2 ⟨rfl, rfl⟩))

theorem Run.noninterference_sample : sample.New ∧ Run sample sampleBusy ∧
    let kill : Errand 2 := .inquire 0 (.kill ⟨1⟩ (·) none)
    let close : Errand 2 := .inquire 1 (.closeRead ⟨1⟩)
    let host := sampleBusy.world.host
    let killed := (kill.perform sampleBusy.setting).2.world.host
    let closed := (close.perform sampleBusy.setting).2.world.host
    ¬ sampleBusy.setting.Meets kill.place close.place ∧ killed ≠ host ∧ closed ≠ host ∧
      kill.SameAt sampleBusy.setting host closed ∧ close.SameAt sampleBusy.setting killed host ∧
      kill.LeavesAlone sampleBusy.setting (kill.perform sampleBusy.setting).2 ∧
      (close.inTurn kill host closed sampleBusy.setting).1 = (.ok (), .ok ()) ∧
      (kill.inTurn close host killed sampleBusy.setting).1 = (.ok (), .ok ()) ∧
      (kill.inTurn close host killed sampleBusy.setting).2.Matches
        (close.inTurn kill host closed sampleBusy.setting).2 := by
  refine ⟨sample_new, sample_run, ?_⟩
  intro kill close host killed closed
  have apart : ¬ sampleBusy.setting.Meets kill.place close.place := fun h => absurd h.1 (by decide)
  have same : kill.SameAt sampleBusy.setting host closed := ⟨rfl, rfl, rfl, rfl, rfl, rfl⟩
  have same' : close.SameAt sampleBusy.setting killed host := ⟨rfl, rfl, rfl, rfl, rfl, rfl⟩
  obtain ⟨leaves, swaps⟩ := Run.noninterference sample_new sample_run
  obtain ⟨answers, settings⟩ := swaps kill close apart host closed killed host same same'
  have first : (close.inTurn kill host closed sampleBusy.setting).1 = (.ok (), .ok ()) := rfl
  refine ⟨apart, ?_, ?_, same, same', leaves kill, first, ?_, settings⟩
  · intro h
    cases congrArg Host.processes h
  · intro h
    cases congrArg Host.descriptions h
  · rw [answers, first]
    rfl

end Company

end AlgorithmDriver

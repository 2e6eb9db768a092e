import AlgorithmDriver.Proofs.Driver.Refusals
import AlgorithmDriver.Proofs.Driver.Scope
import AlgorithmDriver.Proofs.Driver.Staging

/-!
# What a driver is asked about one id

* A `Cell` is the place of an id in one of the tables, and an `Inquiry` is an operation that is
  addressed to one.
* An inquiry is carried out on what is found in its cell and on the streams and the process of that
  alone; all that it changes in the tables is this cell (`Inquiry.perform_eq`,
  `Inquiry.act_within`).
* What is done with a handle concerns its stream alone (`Usage.perform_within`).
-/

namespace AlgorithmDriver

/-! ## Entries of tables -/

namespace Table

variable {resource : Resource} {α : Type}

/-- Changes an entry, or takes it out. -/
def put (t : Table resource α) (id : Id resource) (entry : Option α) : Table resource α :=
  entry.elim (t.remove id) (t.set id)

@[simp] theorem put_next (t : Table resource α) (id : Id resource) (entry : Option α) :
    (t.put id entry).next = t.next := by
  cases entry <;> rfl

theorem get?_put_ne {t : Table resource α} {key id : Id resource} (other : id ≠ key)
    (entry : Option α) : (t.put key entry).get? id = t.get? id := by
  cases entry with
  | none => exact (t.get?_remove key id).trans (if_neg other)
  | some value => exact (t.get?_set key id value).trans (if_neg other)

/-- What was put in the place of something is found there. -/
theorem get?_put_self {t : Table resource α} {id : Id resource} {entry : Option α}
    (known : entry.isSome = true → (t.get? id).isSome = true) :
    (t.put id entry).get? id = entry := by
  cases entry with
  | none => exact (t.get?_remove id id).trans (if_pos rfl)
  | some value =>
    obtain ⟨old, found⟩ := Option.isSome_iff_exists.1 (known rfl)
    refine ((t.get?_set id id value).trans (if_pos rfl)).trans ?_
    rw [found]
    rfl

/-- Putting back what is there. -/
theorem put_get? {t : Table resource α} (apart : (t.entries.map Prod.fst).Nodup)
    (id : Id resource) : t.put id (t.get? id) = t := by
  cases found : t.get? id with
  | some value => exact set_of_get? apart found
  | none =>
    have absent (entry : Nat × α) (mem : entry ∈ t.entries) : decide (entry.1 ≠ id.raw) = true := by
      refine decide_eq_true fun same => ?_
      have live := (mem_entries_iff apart ⟨entry.1⟩ entry.2).1 mem
      rw [show (⟨entry.1⟩ : Id resource) = id from congrArg Id.mk same, found] at live
      cases live
    exact congrArg (Table.mk t.next) (List.filter_eq_self.2 absent)

theorem put_apart {t : Table resource α} (apart : (t.entries.map Prod.fst).Nodup)
    (id : Id resource) (entry : Option α) : ((t.put id entry).entries.map Prod.fst).Nodup := by
  cases entry with
  | none => exact apart.sublist (List.filter_sublist.map Prod.fst)
  | some value =>
    show (List.map Prod.fst (t.entries.map _)).Nodup
    rw [List.map_map]
    exact apart

theorem put_entries (t : Table resource α) (id : Id resource) (value : Option α) :
    (t.put id value).entries = t.entries.filterMap fun entry =>
      if entry.1 = id.raw then value.map (Prod.mk entry.1) else some entry := by
  obtain ⟨next, entries⟩ := t
  cases value with
  | none =>
    show entries.filter (fun entry => entry.1 ≠ id.raw) = _
    induction entries with
    | nil => rfl
    | cons entry rest ih =>
      by_cases key : entry.1 = id.raw
      · rw [List.filter_cons_of_neg (by simp [key]), ih]
        simp [key]
      · rw [List.filter_cons_of_pos (by simp [key]), ih]
        simp [key]
  | some value =>
    show entries.map (fun entry => (entry.1, if entry.1 = id.raw then value else entry.2)) = _
    induction entries with
    | nil => rfl
    | cons entry rest ih => by_cases key : entry.1 = id.raw <;> simp [key, ih]

/-- Entries with different ids can be changed in either order. -/
theorem put_comm (t : Table resource α) {id key : Id resource} (other : id ≠ key)
    (first second : Option α) :
    (t.put id first).put key second = (t.put key second).put id first := by
  have apart : id.raw ≠ key.raw := fun same => other (congrArg Id.mk same)
  have same : ((t.put id first).put key second).entries =
      ((t.put key second).put id first).entries := by
    simp only [put_entries, List.filterMap_filterMap]
    refine congrArg (List.filterMap · t.entries) (funext fun entry => ?_)
    by_cases left : entry.1 = id.raw
    · have right : entry.1 ≠ key.raw := fun h => apart (left.symm.trans h)
      cases first <;> simp [left, apart]
    · by_cases right : entry.1 = key.raw
      · cases second <;> simp [right, apart.symm]
      · simp [left, right]
  have next : ((t.put id first).put key second).next = ((t.put key second).put id first).next := by
    simp
  cases left : (t.put id first).put key second
  cases right : (t.put key second).put id first
  rw [left, right] at same next
  exact congr (congrArg Table.mk next) same

end Table

/-! ## Cells -/

/-- The place of an id in its table. -/
inductive Cell where
  | algorithm (id : AlgorithmId)
  | readFile (id : ReadFileId)
  | writeFile (id : WriteFileId)
  deriving DecidableEq

namespace Cell

/-- What may be found in a cell. -/
abbrev Content : Cell → Type
  | algorithm _ => Instance
  | readFile _ => Channel ReadHandle
  | writeFile _ => Channel WriteHandle

/-- The streams and the process of what is found in a cell. -/
def scope : (cell : Cell) → Option cell.Content → World.Scope
  | algorithm _, none => {}
  | algorithm _, some i =>
    { sources := i.outputStream, sinks := i.inputStream, processes := (· = i.process) }
  | readFile _, none => {}
  | readFile _, some channel => { sources := [channel.pipe.number] }
  | writeFile _, none => {}
  | writeFile _, some channel => { sinks := [channel.pipe.number] }

end Cell

namespace Driver

variable {driver : Driver}

/-- The ids of every table are told apart. -/
structure Apart (driver : Driver) : Prop where
  algorithms : (driver.algorithms.entries.map Prod.fst).Nodup
  readFiles : (driver.readFiles.entries.map Prod.fst).Nodup
  writeFiles : (driver.writeFiles.entries.map Prod.fst).Nodup

/-- What is found in a cell. -/
def content (driver : Driver) : (cell : Cell) → Option cell.Content
  | .algorithm id => driver.algorithms.get? id
  | .readFile id => driver.readFiles.get? id
  | .writeFile id => driver.writeFiles.get? id

/-- Changes what is in a cell, or takes it out. -/
def put (driver : Driver) : (cell : Cell) → Option cell.Content → Driver
  | .algorithm id, content => { driver with algorithms := driver.algorithms.put id content }
  | .readFile id, content => { driver with readFiles := driver.readFiles.put id content }
  | .writeFile id, content => { driver with writeFiles := driver.writeFiles.put id content }

theorem content_put_ne {cell other : Cell} (apart : other ≠ cell)
    (content : Option cell.Content) :
    (driver.put cell content).content other = driver.content other := by
  cases cell <;> cases other
  case algorithm.algorithm | readFile.readFile | writeFile.writeFile =>
    refine Table.get?_put_ne (fun same => apart ?_) content
    rw [same]
  all_goals rfl

theorem content_put_self {cell : Cell} {content : Option cell.Content}
    (known : content.isSome = true → (driver.content cell).isSome = true) :
    (driver.put cell content).content cell = content := by
  cases cell <;> exact Table.get?_put_self known

theorem Apart.put_content (apart : driver.Apart) (cell : Cell) :
    driver.put cell (driver.content cell) = driver := by
  cases cell with
  | algorithm id =>
    exact congrArg (fun algorithms => { driver with algorithms })
      (Table.put_get? apart.algorithms id)
  | readFile id =>
    exact congrArg (fun readFiles => { driver with readFiles }) (Table.put_get? apart.readFiles id)
  | writeFile id =>
    exact congrArg (fun writeFiles => { driver with writeFiles })
      (Table.put_get? apart.writeFiles id)

theorem Apart.put (apart : driver.Apart) (cell : Cell) (content : Option cell.Content) :
    (driver.put cell content).Apart := by
  obtain ⟨algorithms, readFiles, writeFiles⟩ := apart
  cases cell with
  | algorithm id => exact ⟨Table.put_apart algorithms id content, readFiles, writeFiles⟩
  | readFile id => exact ⟨algorithms, Table.put_apart readFiles id content, writeFiles⟩
  | writeFile id => exact ⟨algorithms, readFiles, Table.put_apart writeFiles id content⟩

/-- Different cells can be changed in either order. -/
theorem put_comm (driver : Driver) {cell other : Cell} (apart : cell ≠ other)
    (first : Option cell.Content) (second : Option other.Content) :
    (driver.put cell first).put other second = (driver.put other second).put cell first := by
  cases cell <;> cases other
  case algorithm.algorithm id key =>
    have swapped := driver.algorithms.put_comm (fun same => apart (congrArg Cell.algorithm same))
      first second
    exact congrArg (fun algorithms => { driver with algorithms }) swapped
  case readFile.readFile id key =>
    have swapped := driver.readFiles.put_comm (fun same => apart (congrArg Cell.readFile same))
      first second
    exact congrArg (fun readFiles => { driver with readFiles }) swapped
  case writeFile.writeFile id key =>
    have swapped := driver.writeFiles.put_comm (fun same => apart (congrArg Cell.writeFile same))
      first second
    exact congrArg (fun writeFiles => { driver with writeFiles }) swapped
  all_goals rfl

end Driver

/-! ## Inquiries -/

/-- An operation that is addressed to one id. -/
inductive Inquiry where
  | status (id : AlgorithmId)
  | wait (id : AlgorithmId)
  /-- The rest of the machine goes on while the process is looked at and signalled. -/
  | kill (id : AlgorithmId) (meanwhile : Host → Host) (unsent : Option Instance.Unsent)
  | inputPipe (id : AlgorithmId)
  | outputPipe (id : AlgorithmId)
  | readPipe (id : ReadFileId)
  | closeRead (id : ReadFileId)
  | writePipe (id : WriteFileId)
  | closeWrite (id : WriteFileId)

namespace Inquiry

/-- Where an inquiry is addressed to. -/
abbrev cell : Inquiry → Cell
  | status id | wait id | kill id _ _ | inputPipe id | outputPipe id => .algorithm id
  | readPipe id | closeRead id => .readFile id
  | writePipe id | closeWrite id => .writeFile id

/-- What is answered to an inquiry. -/
abbrev Answer : Inquiry → Type
  | status _ => Status
  | wait _ => Option Status
  | kill .. => Except DriverError Unit
  | inputPipe _ => Option WriteHandle
  | outputPipe _ => Option ReadHandle
  | readPipe _ => Except DriverError ReadHandle
  | closeRead _ => Except DriverError Unit
  | writePipe _ => Except DriverError WriteHandle
  | closeWrite _ => Except DriverError Unit

/-- Carries out an inquiry. -/
def perform (driver : Driver) (world : World) : (q : Inquiry) → q.Answer × Driver × World
  | status id => driver.status id world
  | wait id => driver.wait id world
  | kill id meanwhile unsent => driver.kill id world (Instance.passing meanwhile) unsent
  | inputPipe id => driver.inputPipe id world
  | outputPipe id => driver.outputPipe id world
  | readPipe id =>
    let (answer, world) := driver.readPipe id world
    (answer, driver, world)
  | closeRead id => driver.closeRead id world
  | writePipe id =>
    let (answer, world) := driver.writePipe id world
    (answer, driver, world)
  | closeWrite id => driver.closeWrite id world

/-- The processes that may go on while an inquiry is carried out, whatever it is about. -/
def stirs : Inquiry → Nat → Prop
  | wait _, _ => True
  | kill _ meanwhile _, p => ∃ host, (meanwhile host).process? p ≠ host.process? p
  | _, _ => False

/-- What an inquiry is concerned with, given what is found. -/
def scope (q : Inquiry) (content : Option q.cell.Content) : World.Scope :=
  { q.cell.scope content with processes := fun p => (q.cell.scope content).processes p ∨ q.stirs p }

/-- A kill that succeeded is put on record. -/
def recordKill (id : AlgorithmId) (answer : Except DriverError Unit) (world : World) : World :=
  match answer with
  | .error _ => world
  | .ok () => world.record (.killed id)

/-- What is done with an instance that is killed. -/
def killOn (id : AlgorithmId) (meanwhile : Host → Host) (unsent : Option Instance.Unsent)
    (i : Instance) (world : World) : (Except DriverError Unit × Instance) × World :=
  let (killed, world) := Instance.together
    (fun world => i.kill id world (Instance.passing meanwhile) unsent) world
  (killed, recordKill id killed.1 world)

/-- What is answered when a channel to write to is closed, and put on record if that succeeded. -/
def answerClose (id : WriteFileId) (path : String) (flushed : Except StreamError Unit)
    (world : World) : Except DriverError Unit × World :=
  match flushed with
  | .error e => (.error (.io (id.text ++ " (" ++ Text.quoted path ++ ")") e), world)
  | .ok () => (.ok (), world.record (.closed (.write id) path))

/-- What is done with a channel to write to that is closed. -/
def closeOn (id : WriteFileId) (channel : Channel WriteHandle) (world : World) :
    Except DriverError Unit × World :=
  let (flushed, world) := world.closeSink channel.pipe
  answerClose id channel.path flushed (world.dropSink channel.pipe)

/-- What an inquiry does with what is found, and what is then in the cell. -/
def act : (q : Inquiry) → Option q.cell.Content → World → (q.Answer × Option q.cell.Content) × World
  | status _, none, world => ((.notFound, none), world)
  | status _, some i, world =>
    let (i, world) := i.poll world
    ((i.status, some i), world)
  | wait _, none, world => ((some .notFound, none), world)
  | wait _, some i, world =>
    let ((answer, i), world) := i.await World.patience world
    ((answer, some i), world)
  | kill id _ _, none, world => ((.error (.notFound id.text), none), world)
  | kill id meanwhile unsent, some i, world =>
    let ((answer, i), world) := killOn id meanwhile unsent i world
    ((answer, some i), world)
  | inputPipe _, none, world => ((none, none), world)
  | inputPipe _, some i, world =>
    let (pipe, i, world) := i.inputPipe world
    ((pipe, some i), world)
  | outputPipe _, none, world => ((none, none), world)
  | outputPipe _, some i, world =>
    let (pipe, world) := i.outputPipe world
    ((pipe, some i), world)
  | readPipe id, none, world => ((.error (.notFound id.text), none), world)
  | readPipe _, some channel, world =>
    ((.ok channel.pipe, some channel), world.holdSource channel.pipe)
  | closeRead id, none, world => ((.error (.notFound id.text), none), world)
  | closeRead id, some channel, world =>
    ((.ok (), none), ((world.closeSource channel.pipe).dropSource channel.pipe).record
      (.closed (.read id) channel.path))
  | writePipe id, none, world => ((.error (.notFound id.text), none), world)
  | writePipe _, some channel, world =>
    ((.ok channel.pipe, some channel), world.holdSink channel.pipe)
  | closeWrite id, none, world => ((.error (.notFound id.text), none), world)
  | closeWrite id, some channel, world =>
    let (answer, world) := closeOn id channel world
    ((answer, none), world)

/-- Nothing is put where nothing is found. -/
theorem isSome_act {q : Inquiry} {content : Option q.cell.Content} {world : World}
    (some : (q.act content world).1.2.isSome = true) : content.isSome = true := by
  cases content with
  | some _ => rfl
  | none => cases q <;> exact some

section Act

open World (Within within_pure)

variable {scope : World.Scope}

theorem killOn_within {i : Instance} (inside : i.Inside scope) (id : AlgorithmId)
    {meanwhile : Host → Host} (unsent : Option Instance.Unsent)
    (calm : ∀ host p, ¬ scope.processes p → (meanwhile host).process? p = host.process? p) :
    Within scope (killOn id meanwhile unsent i) := by
  refine (Instance.kill_within id unsent calm inside).bind
    (g := fun killed world => (killed, recordKill id killed.1 world)) fun world => ?_
  generalize (Instance.together _ world).1 = killed
  obtain ⟨_ | _, j⟩ := killed
  · exact within_pure _
  · exact (within_pure _).after (World.within_record _)

theorem closeOn_within {id : WriteFileId} {channel : Channel WriteHandle}
    (own : channel.pipe.number ∈ scope.sinks) : Within scope (closeOn id channel) := by
  refine (World.closeSink_within own).bind (g := fun flushed world =>
    answerClose id channel.path flushed (world.dropSink channel.pipe)) fun world => ?_
  have answered (flushed : Except StreamError Unit) :
      Within scope (answerClose id channel.path flushed) := by
    cases flushed with
    | error e => exact within_pure _
    | ok _ => exact (within_pure _).after (World.within_record _)
  exact (answered _).after (World.dropSink_within own)

theorem inside_own (i : Instance) (stirs : Nat → Prop) :
    i.Inside { sources := i.outputStream, sinks := i.inputStream
               processes := fun p => p = i.process ∨ stirs p } :=
  ⟨fun _ mem => mem, fun _ mem => mem, .inl rfl⟩

/-- An inquiry is concerned with what it finds alone. -/
theorem act_within (q : Inquiry) (content : Option q.cell.Content) :
    Within (q.scope content) (q.act content) := by
  cases content with
  | none => cases q <;> exact within_pure _
  | some value =>
    cases q with
    | status id =>
      have inside := inside_own value (status id).stirs
      exact (Instance.poll_within inside).map fun i => (i.status, some i)
    | wait id =>
      have inside := inside_own value (wait id).stirs
      have all : ∀ p, p = value.process ∨ (wait id).stirs p := fun _ => .inr trivial
      exact (Instance.await_within all inside World.patience).map
        fun waited => (waited.1, some waited.2)
    | kill id meanwhile unsent =>
      have inside := inside_own value (kill id meanwhile unsent).stirs
      refine (killOn_within inside id unsent fun host p out => ?_).map
        fun killed => (killed.1, some killed.2)
      by_contra changed
      exact out (.inr ⟨host, changed⟩)
    | inputPipe id =>
      have inside := inside_own value (inputPipe id).stirs
      exact (Instance.inputPipe_within inside).map fun lent => (lent.1, some lent.2)
    | outputPipe id =>
      have inside := inside_own value (outputPipe id).stirs
      exact (Instance.outputPipe_within inside).map fun pipe => (pipe, some value)
    | readPipe id =>
      have own : value.pipe.number ∈ ((readPipe id).scope (some value)).sources :=
        List.mem_cons_self
      exact (within_pure _).after (World.holdSource_within own)
    | closeRead id =>
      have own : value.pipe.number ∈ ((closeRead id).scope (some value)).sources :=
        List.mem_cons_self
      have closed := World.closeSource_within own
      have dropped := World.dropSource_within own
      exact (((within_pure _).after (World.within_record _)).after dropped).after closed
    | writePipe id =>
      have own : value.pipe.number ∈ ((writePipe id).scope (some value)).sinks :=
        List.mem_cons_self
      exact (within_pure _).after (World.holdSink_within own)
    | closeWrite id =>
      have own : value.pipe.number ∈ ((closeWrite id).scope (some value)).sinks :=
        List.mem_cons_self
      exact (closeOn_within own).map fun answer => (answer, none)

end Act

/-! ### What an inquiry changes in the tables -/

/-- Waiting for an instance. -/
theorem wait_go_eq {driver : Driver} (apart : driver.Apart) {id : AlgorithmId} {i : Instance}
    (found : driver.algorithms.get? id = some i) (tries : Nat) (world : World) :
    Driver.wait.go id tries driver world =
      ((i.await tries world).1.1, driver.note id (i.await tries world).1.2,
        (i.await tries world).2) := by
  induction tries generalizing driver i world with
  | zero =>
    have same : driver.note id i = driver :=
      congrArg (fun algorithms => { driver with algorithms })
        (Table.set_of_get? apart.algorithms found)
    show (none, driver, world) = (none, driver.note id i, world)
    rw [same]
  | succ tries ih =>
    rw [Driver.wait.go, Driver.waitOnce_eq, Driver.status_of_some found]
    unfold Instance.await
    dsimp only
    by_cases running : (i.poll world).1.status = .running
    · rw [if_pos running, if_pos running]
      dsimp only
      split
      · rfl
      · have apart' : (driver.note id (i.poll world).1).Apart :=
          apart.put (.algorithm id) (some (i.poll world).1)
        rw [ih apart' (Driver.get?_note found _), Driver.note_note]
    · rw [if_neg running, if_neg running]

/-- What is answered when there is nothing to carry out an inquiry on. -/
theorem perform_of_none {driver : Driver} {q : Inquiry} (missing : driver.content q.cell = none)
    (world : World) :
    q.perform driver world = ((q.act none world).1.1, driver, (q.act none world).2) := by
  cases q with
  | status id =>
    have missing : driver.algorithms.get? id = none := missing
    simp only [perform, Driver.status, missing, act]
  | wait id =>
    have missing : driver.algorithms.get? id = none := missing
    simp only [perform, act]
    unfold Driver.wait World.patience
    rw [Driver.wait.go, Driver.waitOnce_eq]
    simp only [Driver.status, missing]
    rfl
  | kill id meanwhile unsent =>
    have missing : driver.algorithms.get? id = none := missing
    simp only [perform, Driver.kill, missing, act]
  | inputPipe id =>
    have missing : driver.algorithms.get? id = none := missing
    simp only [perform, Driver.inputPipe, missing, act]
  | outputPipe id =>
    have missing : driver.algorithms.get? id = none := missing
    simp only [perform, Driver.outputPipe, missing, act]
  | readPipe id =>
    have missing : driver.readFiles.get? id = none := missing
    simp only [perform, Driver.readPipe, missing, act]
  | closeRead id =>
    have missing : driver.readFiles.get? id = none := missing
    simp only [perform, Driver.closeRead, missing, act]
  | writePipe id =>
    have missing : driver.writeFiles.get? id = none := missing
    simp only [perform, Driver.writePipe, missing, act]
  | closeWrite id =>
    have missing : driver.writeFiles.get? id = none := missing
    simp only [perform, Driver.closeWrite, missing, act]

/-- An inquiry is carried out on what is in its cell, and changes nothing else in the tables. -/
theorem perform_eq {driver : Driver} (apart : driver.Apart) (q : Inquiry) (world : World) :
    q.perform driver world =
      ((q.act (driver.content q.cell) world).1.1,
        driver.put q.cell (q.act (driver.content q.cell) world).1.2,
        (q.act (driver.content q.cell) world).2) := by
  have kept := apart.put_content q.cell
  cases found : driver.content q.cell with
  | none =>
    rw [found] at kept
    have unchanged : (q.act none world).1.2 = none := by cases q <;> rfl
    rw [perform_of_none found, unchanged, kept]
  | some value =>
    rw [found] at kept
    cases q with
    | status id =>
      have found : driver.algorithms.get? id = some value := found
      simp only [perform, Driver.status, found]
      rfl
    | wait id => exact wait_go_eq apart found World.patience world
    | kill id meanwhile unsent =>
      have found : driver.algorithms.get? id = some value := found
      simp only [perform, Driver.kill, found, act, killOn, Instance.together]
      rcases value.kill id world (Instance.passing meanwhile) unsent with ⟨_ | _, i, after⟩ <;> rfl
    | inputPipe id =>
      have found : driver.algorithms.get? id = some value := found
      simp only [perform, Driver.inputPipe, found]
      rfl
    | outputPipe id =>
      have found : driver.algorithms.get? id = some value := found
      simp only [perform, Driver.outputPipe, found, act, kept]
    | readPipe id =>
      have found : driver.readFiles.get? id = some value := found
      simp only [perform, Driver.readPipe, found, act, kept]
    | closeRead id =>
      have found : driver.readFiles.get? id = some value := found
      simp only [perform, Driver.closeRead, found]
      rfl
    | writePipe id =>
      have found : driver.writeFiles.get? id = some value := found
      simp only [perform, Driver.writePipe, found, act, kept]
    | closeWrite id =>
      have found : driver.writeFiles.get? id = some value := found
      simp only [perform, Driver.closeWrite, found, act, closeOn]
      rcases world.closeSink value.pipe with ⟨_ | _, after⟩ <;> rfl

end Inquiry

/-! ## Handles -/

/-- A stream, as a handle tells it. -/
inductive Port where
  | source (r : ReadHandle)
  | sink (w : WriteHandle)
  deriving DecidableEq

/-- A stream alone. -/
def Port.scope : Port → World.Scope
  | source r => { sources := [r.number] }
  | sink w => { sinks := [w.number] }

/-- What is done with a handle. -/
inductive Usage where
  | read (r : ReadHandle) (count : Nat)
  | closeSource (r : ReadHandle)
  | dropSource (r : ReadHandle)
  | write (w : WriteHandle) (data : Bytes)
  | flush (w : WriteHandle)
  | closeSink (w : WriteHandle)
  | dropSink (w : WriteHandle)

namespace Usage

/-- What comes of it. -/
abbrev Answer : Usage → Type
  | read .. => Except StreamError Bytes
  | closeSource _ => Unit
  | dropSource _ => Unit
  | write .. => Except StreamError Nat
  | flush _ => Except StreamError Unit
  | closeSink _ => Except StreamError Unit
  | dropSink _ => Unit

/-- Uses a handle.  Whoever has to wait lets the rest of the machine go on. -/
def perform : (u : Usage) → World → u.Answer × World
  | read r count, world => world.readOnce r count
  | closeSource r, world => ((), world.closeSource r)
  | dropSource r, world => ((), world.dropSource r)
  | write w data, world => world.writeOnce w data
  | flush w, world => world.flush w
  | closeSink w, world => world.closeSink w
  | dropSink w, world => ((), world.dropSink w)

/-- The stream of the handle that is used. -/
abbrev port : Usage → Port
  | read r _ | closeSource r | dropSource r => .source r
  | write w _ | flush w | closeSink w | dropSink w => .sink w

/-- The processes that may go on meanwhile. -/
def stirs : Usage → Nat → Prop
  | read .., _ => True
  | write .., _ => True
  | _, _ => False

/-- What is used. -/
def scope (u : Usage) : World.Scope :=
  { u.port.scope with processes := u.stirs }

/-- A handle that is used concerns its stream alone. -/
theorem perform_within (u : Usage) : World.Within u.scope u.perform := by
  cases u with
  | read r count => exact World.readOnce_within (fun _ => trivial) List.mem_cons_self count
  | closeSource r => exact World.closeSource_within List.mem_cons_self
  | dropSource r => exact World.dropSource_within List.mem_cons_self
  | write w data => exact World.writeOnce_within (fun _ => trivial) List.mem_cons_self data
  | flush w => exact World.flush_within List.mem_cons_self
  | closeSink w => exact World.closeSink_within List.mem_cons_self
  | dropSink w => exact World.dropSink_within List.mem_cons_self

end Usage

end AlgorithmDriver

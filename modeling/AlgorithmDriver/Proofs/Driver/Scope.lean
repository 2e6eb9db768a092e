import AlgorithmDriver.Driver.Wait
import AlgorithmDriver.Proofs.Driver.Ending

/-!
# What an operation is concerned with

An operation on an instance, a channel or a handle is concerned with a few streams and at most one
process.  Whatever else there is it leaves alone, and it does not matter to it.

* A `World.Scope` names streams and processes, and `World.Within` says of an operation that it stays
  within a scope.  It changes nothing outside (`World.Touches`), and in worlds that look the same
  from within (`World.Agree`) it gives the same answers, has the same effect and puts the same on
  record.
* Operations that are put together of such ones are such ones (`World.Within.bind`).
* So is everything that is done with a handle (`World.read_within`, `World.dropSink_within` and the
  like), also when it has to wait (`World.readOnce_within`, `World.writeOnce_within`), and all that
  is done with an instance (`Instance.poll_within`, `Instance.kill_within`, `Instance.await_within`
  and the like).
-/

namespace AlgorithmDriver

namespace World

variable {α β : Type}

/-! ## Scopes -/

/-- Some of the streams and processes. -/
structure Scope where
  /-- The streams to read from. -/
  sources : List Nat := []
  /-- The streams to write to. -/
  sinks : List Nat := []
  processes : Nat → Prop := fun _ => False

variable {scope : Scope} {world world' : World}

/-- From within a scope the worlds look the same. -/
structure Agree (scope : Scope) (world world' : World) : Prop where
  host : world'.host = world.host
  sources : ∀ n ∈ scope.sources, world'.sources[n]? = world.sources[n]?
  sinks : ∀ n ∈ scope.sinks, world'.sinks[n]? = world.sinks[n]?

/-- Nothing outside a scope is changed. -/
structure Touches (scope : Scope) (world after : World) : Prop where
  sources : ∀ n ∉ scope.sources, after.sources[n]? = world.sources[n]?
  sinks : ∀ n ∉ scope.sinks, after.sinks[n]? = world.sinks[n]?
  processes : ∀ p, ¬ scope.processes p → after.host.process? p = world.host.process? p
  errors : after.errors = world.errors

theorem Touches.refl (scope : Scope) (world : World) : world.Touches scope world :=
  ⟨fun _ _ => rfl, fun _ _ => rfl, fun _ _ => rfl, rfl⟩

theorem Touches.trans {a b c : World} (hab : a.Touches scope b) (hbc : b.Touches scope c) :
    a.Touches scope c where
  sources n out := (hbc.sources n out).trans (hab.sources n out)
  sinks n out := (hbc.sinks n out).trans (hab.sinks n out)
  processes p out := (hbc.processes p out).trans (hab.processes p out)
  errors := hbc.errors.trans hab.errors

/-- An operation stays within a scope. -/
structure Within (scope : Scope) (f : World → α × World) : Prop where
  touches : ∀ world : World, world.Touches scope (f world).2
  answer : ∀ {world world' : World}, world.Agree scope world' → (f world').1 = (f world).1
  agree : ∀ {world world' : World}, world.Agree scope world' → (f world).2.Agree scope (f world').2
  log : ∀ {world world' : World}, world.Agree scope world' →
    ∃ entries, (f world).2.log = world.log ++ entries ∧ (f world').2.log = world'.log ++ entries

/-! ## Operations put together -/

theorem Within.of_eq {f g : World → α × World} (within : Within scope g) (same : ∀ w, f w = g w) :
    Within scope f := by
  rwa [show f = g from funext same]

theorem within_pure (a : α) : Within scope fun world => (a, world) where
  touches := .refl scope
  answer _ := rfl
  agree agree := agree
  log _ := ⟨[], (List.append_nil _).symm, (List.append_nil _).symm⟩

/-- One operation after the other. -/
theorem Within.bind {f : World → α × World} {g : α → World → β × World} (first : Within scope f)
    (second : ∀ world, Within scope (g (f world).1)) :
    Within scope fun world => g (f world).1 (f world).2 where
  touches world := (first.touches world).trans ((second world).touches _)
  answer {world world'} agree := by
    rw [first.answer agree]
    exact (second world).answer (first.agree agree)
  agree {world world'} agree := by
    rw [first.answer agree]
    exact (second world).agree (first.agree agree)
  log {world world'} agree := by
    obtain ⟨early, log, log'⟩ := first.log agree
    obtain ⟨late, log₂, log₂'⟩ := (second world).log (first.agree agree)
    rw [first.answer agree]
    refine ⟨early ++ late, ?_, ?_⟩
    · rw [log₂, log, List.append_assoc]
    · rw [log₂', log', List.append_assoc]

theorem Within.map {f : World → α × World} (within : Within scope f) (g : α → β) :
    Within scope fun world => (g (f world).1, (f world).2) :=
  within.bind (g := fun a world => (g a, world)) fun _ => within_pure _

/-- Something is done, and then the operation. -/
theorem Within.after {act : World → World} {f : World → α × World} (within : Within scope f)
    (first : Within scope fun world => ((), act world)) : Within scope fun world => f (act world) :=
  first.bind (g := fun _ world => f world) fun _ => within

/-- The host is asked for something. -/
theorem within_host (ask : Host → α × Host)
    (calm : ∀ host p, ¬ scope.processes p → (ask host).2.process? p = host.process? p) :
    Within scope fun world => ((ask world.host).1, { world with host := (ask world.host).2 }) where
  touches world := ⟨fun _ _ => rfl, fun _ _ => rfl, calm world.host, rfl⟩
  answer agree := by rw [agree.host]
  agree agree := ⟨by rw [agree.host], agree.sources, agree.sinks⟩
  log _ := ⟨[], (List.append_nil _).symm, (List.append_nil _).symm⟩

theorem within_record (entry : LogEntry) : Within scope fun world => ((), world.record entry) where
  touches _ := ⟨fun _ _ => rfl, fun _ _ => rfl, fun _ _ => rfl, rfl⟩
  answer _ := rfl
  agree agree := ⟨agree.host, agree.sources, agree.sinks⟩
  log _ := ⟨[entry], rfl, rfl⟩

/-- The host is asked for something, and what is done next depends on its answer. -/
theorem within_ask (ask : Host → α × Host)
    (calm : ∀ host p, ¬ scope.processes p → (ask host).2.process? p = host.process? p)
    {g : α → World → β × World} (goes : ∀ a, Within scope (g a)) :
    Within scope fun world => g (ask world.host).1 { world with host := (ask world.host).2 } :=
  (within_host ask calm).bind fun _ => goes _

/-! ## Streams to read from -/

section Sources

variable {r : ReadHandle}

/-- An operation with the stream of a handle. -/
def onSource (r : ReadHandle) (missing : α)
    (act : Shared Source → Host → (α × Shared Source) × Host) (world : World) : α × World :=
  (world.source? r).elim (missing, world) fun shared =>
    ((act shared world.host).1.1,
      { world with host := (act shared world.host).2 }.setSource r (act shared world.host).1.2)

theorem source?_within (own : r.number ∈ scope.sources) :
    Within scope fun world => (world.source? r, world) where
  touches := .refl scope
  answer agree := agree.sources _ own
  agree agree := agree
  log _ := ⟨[], (List.append_nil _).symm, (List.append_nil _).symm⟩

theorem setSource_within (own : r.number ∈ scope.sources) (shared : Shared Source) :
    Within scope fun world => ((), world.setSource r shared) where
  touches world := by
    refine ⟨fun n out => ?_, fun _ _ => rfl, fun _ _ => rfl, rfl⟩
    have apart : r.number ≠ n := by
      rintro rfl
      exact out own
    exact List.getElem?_set_ne apart
  answer _ := rfl
  agree {world world'} agree := by
    refine ⟨agree.host, fun n mem => ?_, agree.sinks⟩
    show (world'.sources.set _ _)[n]? = (world.sources.set _ _)[n]?
    by_cases this : r.number = n
    · rw [← this, List.getElem?_set_self', List.getElem?_set_self', agree.sources _ own]
    · rw [List.getElem?_set_ne this, List.getElem?_set_ne this, agree.sources n mem]
  log _ := ⟨[], (List.append_nil _).symm, (List.append_nil _).symm⟩

theorem onSource_within (own : r.number ∈ scope.sources) {a : α}
    {f : Shared Source → Host → (α × Shared Source) × Host}
    (calm : ∀ shared host p, ¬ scope.processes p →
      (f shared host).2.process? p = host.process? p) :
    Within scope (onSource r a f) := by
  refine (source?_within own).bind (g := fun found world => found.elim (a, world) fun shared =>
    ((f shared world.host).1.1,
      { world with host := (f shared world.host).2 }.setSource r (f shared world.host).1.2))
    fun world => ?_
  cases world.source? r with
  | none => exact within_pure a
  | some shared =>
    refine within_ask (f shared) (calm shared) (g := fun answer world =>
      (answer.1, world.setSource r answer.2)) fun answer => ?_
    exact (setSource_within own answer.2).map fun _ => answer.1

/-- Putting a stream back as it is. -/
theorem setSource_self {shared : Shared Source} (found : world.source? r = some shared) :
    world.setSource r shared = world :=
  congrArg (fun sources => { world with sources }) (set_eq_of_getElem? found)

theorem holdSource_within (own : r.number ∈ scope.sources) :
    Within scope fun world => ((), world.holdSource r) := by
  refine (onSource_within (r := r) (a := ()) own (f := fun shared host =>
    (((), { shared with holders := shared.holders + 1 }), host)) fun _ _ _ _ => rfl).of_eq
    fun world => ?_
  unfold holdSource onSource
  cases world.source? r <;> rfl

/-- The host when a stream is closed. -/
def shutSource (stream : Option Source) (host : Host) : Host :=
  stream.elim host fun source => host.release source.description

theorem shutSource_processes (stream : Option Source) (host : Host) :
    (shutSource stream host).processes = host.processes := by
  cases stream with
  | none => rfl
  | some source => exact Host.release_processes _ _

theorem closeSource_eq {shared : Shared Source} (found : world.source? r = some shared) :
    world.closeSource r = { world with
      host := shutSource shared.stream world.host }.setSource r { shared with stream := none } := by
  obtain ⟨stream, holders⟩ := shared
  unfold closeSource
  rw [found]
  cases stream with
  | none => exact (setSource_self found).symm
  | some source => rfl

theorem closeSource_within (own : r.number ∈ scope.sources) :
    Within scope fun world => ((), world.closeSource r) := by
  refine (onSource_within (r := r) (a := ()) own (f := fun shared host =>
    (((), { shared with stream := none }), shutSource shared.stream host))
    fun shared host p _ => ?_).of_eq fun world => ?_
  · exact congrArg (·[p]?) (shutSource_processes _ _)
  · unfold onSource
    cases found : world.source? r with
    | none =>
      rw [closeSource_of_none found]
      rfl
    | some shared =>
      rw [closeSource_eq found]
      rfl

theorem dropSource_within (own : r.number ∈ scope.sources) :
    Within scope fun world => ((), world.dropSource r) := by
  refine (onSource_within (r := r) (a := ()) own (f := fun shared host =>
    (((), { stream := if shared.holders ≤ 1 then none else shared.stream
            holders := shared.holders - 1 }),
      if shared.holders ≤ 1 then shutSource shared.stream host else host))
    fun shared host p _ => ?_).of_eq fun world => ?_
  · split
    · exact congrArg (·[p]?) (shutSource_processes _ _)
    · rfl
  · unfold onSource dropSource
    cases found : world.source? r with
    | none => rfl
    | some shared =>
      dsimp only [Option.elim]
      by_cases last : shared.holders ≤ 1
      · have closed : (world.closeSource r).source? r = some { shared with stream := none } := by
          rw [closeSource_eq found]
          exact source?_setSource_self _ found
        rw [if_pos last, if_pos last, if_pos last, closed, closeSource_eq found]
        exact congrArg (fun sources => ((), { world with
          host := shutSource shared.stream world.host, sources })) (List.set_set _)
      · rw [if_neg last, if_neg last, if_neg last, found]

/-- The outcome of something that may have to wait, and the world then. -/
def tried (attempt : World → Option (α × World)) (world : World) : Option α × World :=
  (attempt world).elim (none, world) fun outcome => (some outcome.1, outcome.2)

/-- What reading from a stream comes to. -/
def readShared (count : Nat) (shared : Shared Source) (host : Host) :
    (Option (Except StreamError Bytes) × Shared Source) × Host :=
  shared.stream.elim ((some (.error .closed), shared), host) fun source =>
    (source.read host count).elim ((none, shared), host) fun outcome =>
      ((some outcome.1, { shared with stream := some outcome.2.1 }), outcome.2.2)

theorem read_within (own : r.number ∈ scope.sources) (count : Nat) :
    Within scope (tried fun world => world.read r count) := by
  refine (onSource_within (r := r) (a := some (.error .closed)) own
    (f := readShared count) fun shared host p _ => ?_).of_eq fun world => ?_
  · unfold readShared
    rcases shared with ⟨_ | source, holders⟩
    · rfl
    · dsimp only [Option.elim]
      cases read : source.read host count with
      | none => rfl
      | some outcome => exact congrArg (·[p]?) (Source.read_processes read)
  · unfold onSource tried World.read
    dsimp only
    rcases found : world.source? r with _ | ⟨_ | source, holders⟩
    · rfl
    · exact congrArg (Prod.mk _) (setSource_self found).symm
    · unfold readShared
      dsimp only [Option.elim]
      cases read : source.read world.host count with
      | none => exact congrArg (Prod.mk _) (setSource_self found).symm
      | some outcome => rfl

end Sources

/-! ## Streams to write to -/

section Sinks

variable {w : WriteHandle}

/-- An operation with the stream of a handle. -/
def onSink (w : WriteHandle) (missing : α)
    (act : Shared Sink → Host → (α × Shared Sink) × Host) (world : World) : α × World :=
  (world.sink? w).elim (missing, world) fun shared =>
    ((act shared world.host).1.1,
      { world with host := (act shared world.host).2 }.setSink w (act shared world.host).1.2)

theorem sink?_within (own : w.number ∈ scope.sinks) :
    Within scope fun world => (world.sink? w, world) where
  touches := .refl scope
  answer agree := agree.sinks _ own
  agree agree := agree
  log _ := ⟨[], (List.append_nil _).symm, (List.append_nil _).symm⟩

theorem setSink_within (own : w.number ∈ scope.sinks) (shared : Shared Sink) :
    Within scope fun world => ((), world.setSink w shared) where
  touches world := by
    refine ⟨fun _ _ => rfl, fun n out => ?_, fun _ _ => rfl, rfl⟩
    have apart : w.number ≠ n := by
      rintro rfl
      exact out own
    exact List.getElem?_set_ne apart
  answer _ := rfl
  agree {world world'} agree := by
    refine ⟨agree.host, agree.sources, fun n mem => ?_⟩
    show (world'.sinks.set _ _)[n]? = (world.sinks.set _ _)[n]?
    by_cases this : w.number = n
    · rw [← this, List.getElem?_set_self', List.getElem?_set_self', agree.sinks _ own]
    · rw [List.getElem?_set_ne this, List.getElem?_set_ne this, agree.sinks n mem]
  log _ := ⟨[], (List.append_nil _).symm, (List.append_nil _).symm⟩

theorem onSink_within (own : w.number ∈ scope.sinks) {a : α}
    {f : Shared Sink → Host → (α × Shared Sink) × Host}
    (calm : ∀ shared host p, ¬ scope.processes p →
      (f shared host).2.process? p = host.process? p) :
    Within scope (onSink w a f) := by
  refine (sink?_within own).bind (g := fun found world => found.elim (a, world) fun shared =>
    ((f shared world.host).1.1,
      { world with host := (f shared world.host).2 }.setSink w (f shared world.host).1.2))
    fun world => ?_
  cases world.sink? w with
  | none => exact within_pure a
  | some shared =>
    refine within_ask (f shared) (calm shared) (g := fun answer world =>
      (answer.1, world.setSink w answer.2)) fun answer => ?_
    exact (setSink_within own answer.2).map fun _ => answer.1

/-- Putting a stream back as it is. -/
theorem setSink_self {shared : Shared Sink} (found : world.sink? w = some shared) :
    world.setSink w shared = world :=
  congrArg (fun sinks => { world with sinks }) (set_eq_of_getElem? found)

theorem holdSink_within (own : w.number ∈ scope.sinks) :
    Within scope fun world => ((), world.holdSink w) := by
  refine (onSink_within (w := w) (a := ()) own (f := fun shared host =>
    (((), { shared with holders := shared.holders + 1 }), host)) fun _ _ _ _ => rfl).of_eq
    fun world => ?_
  unfold holdSink onSink
  cases world.sink? w <;> rfl

/-- What flushing a stream comes to when it is closed, and the host then. -/
def shutSink (stream : Option Sink) (host : Host) : Except StreamError Unit × Host :=
  stream.elim (.ok (), host) fun sink =>
    ((sink.flush host).1, (sink.flush host).2.2.release (sink.flush host).2.1.description)

theorem shutSink_processes (stream : Option Sink) (host : Host) :
    (shutSink stream host).2.processes = host.processes := by
  cases stream with
  | none => rfl
  | some sink => exact (Host.release_processes _ _).trans (Sink.flush_processes _ _)

theorem closeSink_eq {shared : Shared Sink} (found : world.sink? w = some shared) :
    world.closeSink w =
      ((shutSink shared.stream world.host).1,
        { world with host := (shutSink shared.stream world.host).2 }.setSink w
          { shared with stream := none }) := by
  obtain ⟨stream, holders⟩ := shared
  unfold closeSink
  rw [found]
  cases stream with
  | none => exact congrArg (Prod.mk _) (setSink_self found).symm
  | some sink => rfl

theorem closeSink_within (own : w.number ∈ scope.sinks) :
    Within scope fun world => world.closeSink w := by
  refine (onSink_within (w := w) (a := .ok ()) own (f := fun shared host =>
    (((shutSink shared.stream host).1, { shared with stream := none }),
      (shutSink shared.stream host).2)) fun shared host p _ => ?_).of_eq fun world => ?_
  · exact congrArg (·[p]?) (shutSink_processes _ _)
  · unfold onSink
    cases found : world.sink? w with
    | none =>
      rw [closeSink_of_none found]
      rfl
    | some shared =>
      rw [closeSink_eq found]
      rfl

theorem dropSink_within (own : w.number ∈ scope.sinks) :
    Within scope fun world => ((), world.dropSink w) := by
  refine (onSink_within (w := w) (a := ()) own (f := fun shared host =>
    (((), { stream := if shared.holders ≤ 1 then none else shared.stream
            holders := shared.holders - 1 }),
      if shared.holders ≤ 1 then (shutSink shared.stream host).2 else host))
    fun shared host p _ => ?_).of_eq fun world => ?_
  · split
    · exact congrArg (·[p]?) (shutSink_processes _ _)
    · rfl
  · unfold onSink
    cases found : world.sink? w with
    | none =>
      rw [dropSink_of_none found]
      rfl
    | some shared =>
      dsimp only [Option.elim]
      by_cases last : shared.holders ≤ 1
      · have closed : (world.closeSink w).2.sink? w = some { shared with stream := none } := by
          rw [closeSink_eq found]
          exact sink?_setSink_self found
        rw [dropSink_of_last found last closed, if_pos last, if_pos last, closeSink_eq found]
        exact congrArg (fun sinks => ((), { world with
          host := (shutSink shared.stream world.host).2, sinks })) (List.set_set _)
      · rw [dropSink_of_more found (Nat.lt_of_not_le last), if_neg last, if_neg last]

/-- What writing to a stream comes to. -/
def writeShared (data : Bytes) (shared : Shared Sink) (host : Host) :
    (Option (Except StreamError Nat) × Shared Sink) × Host :=
  shared.stream.elim ((some (.error .closed), shared), host) fun sink =>
    (sink.write host data).elim ((none, shared), host) fun outcome =>
      ((some outcome.1, { shared with stream := some outcome.2.1 }), outcome.2.2)

theorem write_within (own : w.number ∈ scope.sinks) (data : Bytes) :
    Within scope (tried fun world => world.write w data) := by
  refine (onSink_within (w := w) (a := some (.error .closed)) own
    (f := writeShared data) fun shared host p _ => ?_).of_eq fun world => ?_
  · unfold writeShared
    rcases shared with ⟨_ | sink, holders⟩
    · rfl
    · dsimp only [Option.elim]
      cases written : sink.write host data with
      | none => rfl
      | some outcome => exact congrArg (·[p]?) (Sink.write_processes written)
  · unfold onSink tried World.write
    dsimp only
    rcases found : world.sink? w with _ | ⟨_ | sink, holders⟩
    · rfl
    · exact congrArg (Prod.mk _) (setSink_self found).symm
    · unfold writeShared
      dsimp only [Option.elim]
      cases written : sink.write world.host data with
      | none => exact congrArg (Prod.mk _) (setSink_self found).symm
      | some outcome => rfl

theorem flush_within (own : w.number ∈ scope.sinks) :
    Within scope fun world => world.flush w := by
  refine (onSink_within (w := w) (a := .error .closed) own (f := fun shared host =>
    shared.stream.elim ((.error .closed, shared), host) fun sink =>
      (((sink.flush host).1, { shared with stream := some (sink.flush host).2.1 }),
        (sink.flush host).2.2)) fun shared host p _ => ?_).of_eq fun world => ?_
  · rcases shared with ⟨_ | sink, holders⟩
    · rfl
    · exact congrArg (·[p]?) (Sink.flush_processes _ _)
  · unfold onSink World.flush
    rcases found : world.sink? w with _ | ⟨_ | sink, holders⟩
    · rfl
    · exact congrArg (Prod.mk _) (setSink_self found).symm
    · rfl

end Sinks

/-! ## Waiting -/

section Waiting

variable (all : ∀ p, scope.processes p)
include all

theorem advance_within : Within scope fun world => ((), world.advance) :=
  within_host (fun host => ((), host.advance)) fun _ p out => absurd (all p) out

theorem waitFor_within {attempt : World → Option (α × World)} (otherwise : α)
    (within : Within scope (tried attempt)) (tries : Nat) :
    Within scope (waitFor attempt otherwise tries) := by
  induction tries with
  | zero => exact (within_pure otherwise).of_eq fun _ => rfl
  | succ tries ih =>
    refine (within.bind (g := fun outcome world => outcome.elim
      (if !world.host.isBusy && world.host.nextWake?.isNone then (otherwise, world)
        else waitFor attempt otherwise tries world.advance) fun a => (a, world))
      fun world => ?_).of_eq fun world => ?_
    · cases (tried attempt world).1 with
      | some a => exact within_pure a
      | none =>
        refine within_ask (fun host => (!host.isBusy && host.nextWake?.isNone, host))
          (fun _ _ _ => rfl) (g := fun idle world => if idle then (otherwise, world)
            else waitFor attempt otherwise tries world.advance) fun idle => ?_
        cases idle with
        | true => exact within_pure otherwise
        | false => exact ih.after (advance_within all)
    · rw [waitFor]
      unfold tried
      cases attempt world <;> rfl

variable {r : ReadHandle} {w : WriteHandle}

theorem readOnce_within (own : r.number ∈ scope.sources) (count : Nat) :
    Within scope fun world => world.readOnce r count :=
  waitFor_within all _ (read_within own count) _

/-- Whether a stream is buffered. -/
def Buffered (shared : Option (Shared Sink)) : Bool :=
  (shared.bind Shared.stream).elim false fun sink => sink.capacity > 0

omit all in
theorem isBuffered_eq (world : World) (w : WriteHandle) :
    world.isBuffered w = Buffered (world.sink? w) := by
  unfold isBuffered Buffered
  rcases world.sink? w with _ | ⟨_ | sink, holders⟩ <;> rfl

/-- How a long write goes on after a part of it. -/
def writeRest (attempt : Bytes → World → Except StreamError Nat × World) (fuel written : Nat)
    (data : Bytes)
    (result : Except StreamError Nat) (world : World) : Except StreamError Nat × World :=
  match result with
  | .error e => (if written = 0 then .error e else .ok written, world)
  | .ok n => writeOnce.go attempt fuel (written + n) (data.drop n) world

omit all in
theorem writeOnce_go_within {attempt : Bytes → World → Except StreamError Nat × World}
    (within : ∀ data, Within scope (attempt data)) (fuel written : Nat) (data : Bytes) :
    Within scope (writeOnce.go attempt fuel written data) := by
  induction fuel generalizing written data with
  | zero => exact (within_pure (.ok written)).of_eq fun _ => rfl
  | succ fuel ih =>
    cases none : data.isEmpty with
    | true =>
      refine (within_pure (.ok written)).of_eq fun world => ?_
      unfold writeOnce.go
      rw [none]
      rfl
    | false =>
      refine ((within data).bind (g := writeRest attempt fuel written data) fun world => ?_).of_eq
        fun world => ?_
      · cases (attempt data world).1 with
        | error e => exact within_pure _
        | ok n => exact ih (written + n) (data.drop n)
      · rw [writeOnce.go, none]
        rcases attempt data world with ⟨_ | n, after⟩ <;> rfl

theorem writeOnce_within (own : w.number ∈ scope.sinks) (data : Bytes) :
    Within scope fun world => world.writeOnce w data := by
  have part (data : Bytes) : Within scope
      (waitFor (fun world => world.write w data) (.ok data.length) patience) :=
    waitFor_within all _ (write_within own data) _
  refine ((sink?_within own).bind (g := fun found world =>
    if Buffered found || data.isEmpty then
      waitFor (fun world => world.write w data) (.ok data.length) patience world
    else writeOnce.go (fun data => waitFor (fun world => world.write w data) (.ok data.length)
      patience) (data.length + 1) 0 data world) fun world => ?_).of_eq fun world => ?_
  · cases Buffered (world.sink? w) || data.isEmpty with
    | true => exact part data
    | false => exact writeOnce_go_within part _ _ _
  · unfold writeOnce
    rw [isBuffered_eq]

end Waiting

end World

/-! ## Instances -/

namespace Instance

open World (Scope Within within_pure within_ask within_record)

variable {scope : Scope} {i : Instance} {world : World}

/-- The pipes and the process of an instance are in a scope. -/
structure Inside (i : Instance) (scope : Scope) : Prop where
  output : ∀ n ∈ i.outputStream, n ∈ scope.sources
  input : ∀ n ∈ i.inputStream, n ∈ scope.sinks
  process : scope.processes i.process

theorem Inside.terminate (inside : i.Inside scope) (status : Status) (world : World) :
    (i.terminate status world).1.Inside scope :=
  ⟨fun _ mem => absurd mem List.not_mem_nil, fun _ mem => absurd mem List.not_mem_nil,
    inside.process⟩

theorem Inside.poll (inside : i.Inside scope) (world : World) :
    (i.poll world).1.Inside scope := by
  have process : scope.processes (i.poll world).1.process := by
    rw [poll_process]
    exact inside.process
  rcases i.poll_spec world with same | ⟨_, _, _, ⟨_, looked⟩ | ⟨_, looked⟩⟩
  · rw [same]
    exact inside
  · rw [looked] at process ⊢
    exact ⟨inside.output, inside.input, process⟩
  · rw [looked]
    exact Inside.terminate (i := { i with reaped := true })
      ⟨inside.output, inside.input, inside.process⟩ _ _

theorem releasePipes_within (inside : i.Inside scope) :
    Within scope fun world => ((), i.releasePipes world) := by
  obtain ⟨name, process, status, reaped, input, output⟩ := i
  have dropOutput : Within scope fun world =>
      ((), Instance.releasePipes ⟨name, process, status, reaped, .released, output⟩ world) := by
    cases output with
    | some r => exact World.dropSource_within (inside.output _ List.mem_cons_self)
    | none => exact within_pure ()
  cases input with
  | owned w =>
    exact dropOutput.after (World.dropSink_within (inside.input _ List.mem_cons_self))
  | lent w => exact dropOutput
  | released => exact dropOutput

theorem terminate_within (inside : i.Inside scope) (status : Status) :
    Within scope (i.terminate status) :=
  (releasePipes_within inside).map fun _ => { i with status, input := .released, output := none }

theorem poll_within (inside : i.Inside scope) : Within scope i.poll := by
  cases reaped : i.reaped with
  | true =>
    refine (within_pure i).of_eq fun world => ?_
    unfold poll
    rw [reaped]
    rfl
  | false =>
    refine (within_ask (fun host => host.tryWait i.process) (fun host p out => ?_)
      (g := fun answer world => answer.elim (i, world) fun status =>
        if i.status = .running then
          ({ i with reaped := true } : Instance).terminate (.exited status.code)
            (world.record (.exited i.name status.code))
        else ({ i with reaped := true }, world)) fun answer => ?_).of_eq fun world => ?_
    · have apart : i.process ≠ p := by
        rintro rfl
        exact out inside.process
      exact (Host.tryWait_adjusts host i.process).process?_ne apart
    · cases answer with
      | none => exact within_pure i
      | some status =>
        dsimp only [Option.elim]
        split
        · have waited : ({ i with reaped := true } : Instance).Inside scope :=
            ⟨inside.output, inside.input, inside.process⟩
          exact (terminate_within waited _).after (within_record _)
        · exact within_pure _
    · unfold poll
      rw [reaped]
      rcases world.host.tryWait i.process with ⟨_ | status, host⟩
      · rfl
      · cases status : i.status <;> rfl

theorem signal_within (inside : i.Inside scope) : Within scope i.signal := by
  refine within_ask (fun host => ((), host.send i.process Signal.kill)) (fun host p out => ?_)
    (g := fun _ world => i.terminate .killed (world.record (.signalled i.name))) fun _ =>
      (terminate_within inside .killed).after (within_record _)
  have apart : i.process ≠ p := by
    rintro rfl
    exact out inside.process
  exact (Host.send_adjusts host i.process Signal.kill).process?_ne apart

/-- What an instance is asked for, with the instance then. -/
def together {α β : Type} (f : World → α × β × World) (world : World) : (α × β) × World :=
  (((f world).1, (f world).2.1), (f world).2.2)

/-- What the rest of the machine does on the host. -/
def passing (meanwhile : Host → Host) (world : World) : World :=
  { world with host := meanwhile world.host }

/-- The killing of an instance that was found running. -/
def strike (id : AlgorithmId) (meanwhile : Host → Host) :
    Option Unsent → Instance → World → (Except DriverError Unit × Instance) × World
  | none, i, world =>
    let (i, world) := i.signal (passing meanwhile world)
    let (i, world) := i.poll (passing meanwhile world)
    ((.ok (), i), world)
  | some .gone, i, world =>
    let (i, world) := i.poll (passing meanwhile world)
    ((.error (.alreadyExited id), i), world)
  | some (.refused reason), i, world =>
    ((.error (.io id.text (.refused reason)), i), passing meanwhile world)

section Killing

variable (id : AlgorithmId) {meanwhile : Host → Host} (unsent : Option Unsent)
  (calm : ∀ host p, ¬ scope.processes p → (meanwhile host).process? p = host.process? p)
include calm

theorem passing_within : Within scope fun world => ((), passing meanwhile world) :=
  World.within_host (fun host => ((), meanwhile host)) calm

theorem strike_within (inside : i.Inside scope) : Within scope (strike id meanwhile unsent i) := by
  have looked {j : Instance} (inside : j.Inside scope) (answer : Except DriverError Unit) :
      Within scope fun world => ((answer, (j.poll (passing meanwhile world)).1),
        (j.poll (passing meanwhile world)).2) :=
    ((poll_within inside).after (passing_within calm)).map (Prod.mk answer)
  rcases unsent with _ | _ | reason
  · have signalled := (signal_within inside).after (passing_within calm)
    exact signalled.bind (g := fun j world =>
      ((Except.ok (), (j.poll (passing meanwhile world)).1), (j.poll (passing meanwhile world)).2))
      fun world => looked (inside.terminate _ _) _
  · exact looked inside _
  · exact (within_pure _).after (passing_within calm)

theorem kill_within (inside : i.Inside scope) :
    Within scope (together fun world => i.kill id world (passing meanwhile) unsent) := by
  refine ((poll_within inside).bind (g := fun i world =>
    if i.status = .running then strike id meanwhile unsent i world
    else ((.error (.alreadyExited id), i), world)) fun world => ?_).of_eq fun world => ?_
  · split
    · exact strike_within id unsent calm (inside.poll world)
    · exact within_pure _
  · unfold together kill
    dsimp only
    cases status : (i.poll world).1.status
    · rcases unsent with _ | _ | reason <;> rfl
    · rfl
    · rfl
    · rfl

end Killing

theorem inputPipe_within (inside : i.Inside scope) : Within scope (together i.inputPipe) := by
  cases input : i.input with
  | owned w =>
    refine (within_pure (some w, { i with input := .lent w })).of_eq fun world => ?_
    unfold together inputPipe
    rw [input]
  | lent w =>
    have own : w.number ∈ scope.sinks := by
      refine inside.input _ ?_
      unfold inputStream
      rw [input]
      exact List.mem_cons_self
    refine ((World.sink?_within own).bind (g := fun found world =>
      if found.elim false fun shared => decide (shared.holders > 0) then
        ((some w, i), world.holdSink w)
      else ((none, i), world)) fun world => ?_).of_eq fun world => ?_
    · split
      · exact (World.holdSink_within own).map fun _ => (some w, i)
      · exact within_pure (none, i)
    · unfold together
      rw [Custody.inputPipe_of_lent input]
      unfold World.isAlive
      cases world.sink? w with
      | none => rfl
      | some shared =>
        dsimp only [Option.elim]
        by_cases held : shared.holders > 0 <;> simp only [held, decide_true, decide_false] <;> rfl
  | released =>
    refine (within_pure (none, i)).of_eq fun world => ?_
    unfold together inputPipe
    rw [input]

theorem outputPipe_within (inside : i.Inside scope) : Within scope i.outputPipe := by
  obtain ⟨name, process, status, reaped, input, output⟩ := i
  cases output with
  | some r =>
    exact (World.holdSource_within (inside.output _ List.mem_cons_self)).map fun _ => some r
  | none => exact within_pure none

/-- Waits until an instance has reached a terminal status; tells no status when that is given up. -/
def await : Nat → Instance → World → (Option Status × Instance) × World
  | 0, i, world => ((none, i), world)
  | tries + 1, i, world =>
    let (i, world) := i.poll world
    if i.status = .running then
      if !world.host.isBusy && world.host.nextWake?.isNone then ((none, i), world)
      else await tries i world.advance
    else ((some i.status, i), world)

theorem await_within (all : ∀ p, scope.processes p) (inside : i.Inside scope) (tries : Nat) :
    Within scope (await tries i) := by
  induction tries generalizing i with
  | zero => exact (within_pure (none, i)).of_eq fun _ => rfl
  | succ tries ih =>
    refine ((poll_within inside).bind (g := fun i world =>
      if i.status = .running then
        if !world.host.isBusy && world.host.nextWake?.isNone then ((none, i), world)
        else await tries i world.advance
      else ((some i.status, i), world)) fun world => ?_).of_eq fun world => rfl
    split
    · refine within_ask (fun host => (!host.isBusy && host.nextWake?.isNone, host))
        (fun _ _ _ => rfl) (g := fun idle after => if idle then ((none, (i.poll world).1), after)
          else await tries (i.poll world).1 after.advance) fun idle => ?_
      cases idle with
      | true => exact within_pure _
      | false => exact (ih (inside.poll world)).after (World.advance_within all)
    · exact within_pure _

end Instance

end AlgorithmDriver

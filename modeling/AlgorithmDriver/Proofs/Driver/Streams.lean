import AlgorithmDriver.Proofs.Driver.Feed

/-!
# Handles and their streams

An operation with a handle concerns the stream of that handle alone: in the list of all streams it
replaces one entry.

* What each operation replaces the entry by (`holdSink_sinks`, `dropSink_sinks`, `closeSink_sinks`
  and the like), and that sources and sinks do not concern each other.
* `Counted` relates the streams to a list of all handles that there are: each stream is held as
  often as the list says.  Copying a handle adds to the list (`Counted.hold`), dropping one removes
  from it (`Counted.drop`), and a new stream has one handle (`Counted.add`).
-/

namespace AlgorithmDriver

/-- Replacing an entry by itself. -/
theorem set_eq_of_getElem? {α : Type} {entries : List α} {n : Nat} {entry : α}
    (found : entries[n]? = some entry) : entries.set n entry = entries := by
  obtain ⟨bound, rfl⟩ := List.getElem?_eq_some_iff.1 found
  exact List.set_getElem_self bound

namespace World

variable {world after : World}

/-! ## Reading -/

section Sources

variable {r : ReadHandle} {shared : Shared Source}

theorem source?_of_sources (same : after.sources = world.sources) (r : ReadHandle) :
    after.source? r = world.source? r := congrArg (·[r.number]?) same

theorem source?_setSource_self (new : Shared Source) (found : world.source? r = some shared) :
    (world.setSource r new).source? r = some new :=
  List.getElem?_set_self (List.getElem?_eq_some_iff.1 found).1

theorem holdSource_sources (found : world.source? r = some shared) :
    (world.holdSource r).sources =
      world.sources.set r.number { shared with holders := shared.holders + 1 } := by
  unfold holdSource
  rw [found]
  rfl

theorem closeSource_sources (found : world.source? r = some shared) :
    (world.closeSource r).sources =
      world.sources.set r.number { shared with stream := none } := by
  obtain ⟨stream, holders⟩ := shared
  unfold closeSource
  rw [found]
  cases stream with
  | some source => rfl
  | none => exact (set_eq_of_getElem? found).symm

theorem dropSource_sources (found : world.source? r = some shared) :
    (world.dropSource r).sources = world.sources.set r.number
      { stream := if shared.holders ≤ 1 then none else shared.stream
        holders := shared.holders - 1 } := by
  unfold dropSource
  rw [found]
  dsimp only
  by_cases last : shared.holders ≤ 1
  · have closed : (world.closeSource r).source? r = some { shared with stream := none } := by
      show (world.closeSource r).sources[r.number]? = _
      rw [closeSource_sources found]
      exact List.getElem?_set_self (List.getElem?_eq_some_iff.1 found).1
    rw [if_pos last, if_pos last, closed]
    show (world.closeSource r).sources.set _ _ = _
    rw [closeSource_sources found, List.set_set]
  · rw [if_neg last, if_neg last, found]
    rfl

theorem dropSource_congr (same : after.sources = world.sources) (r : ReadHandle) :
    (after.dropSource r).sources = (world.dropSource r).sources := by
  have found' := source?_of_sources same r
  cases found : world.source? r with
  | none =>
    rw [dropSource_of_none found, dropSource_of_none (found'.trans found), same]
  | some shared => rw [dropSource_sources found, dropSource_sources (found'.trans found), same]

/-- A stream is closed and a handle of it dropped. -/
theorem releaseSource_sources (found : world.source? r = some shared) :
    ((world.closeSource r).dropSource r).sources =
      world.sources.set r.number { stream := none, holders := shared.holders - 1 } := by
  have closed : (world.closeSource r).source? r = some { shared with stream := none } := by
    show (world.closeSource r).sources[r.number]? = _
    rw [closeSource_sources found]
    exact List.getElem?_set_self (List.getElem?_eq_some_iff.1 found).1
  rw [dropSource_sources closed, closeSource_sources found, List.set_set, ite_self]

theorem read_sources {count : Nat} {result : Except StreamError Bytes}
    (h : world.read r count = some (result, after)) :
    after.sources = world.sources ∨
      ∃ source source' holders,
        world.source? r = some { stream := some source, holders } ∧
          after.sources = world.sources.set r.number { stream := some source', holders } := by
  rcases read_outcome h with ⟨-, -, rfl⟩ | ⟨source, source', holders, _, found, -, rfl⟩
  · exact .inl rfl
  · exact .inr ⟨source, source', holders, found, rfl⟩

/-- The stream of a handle, if it is open. -/
def openSource? (world : World) (r : ReadHandle) : Option Source :=
  (world.source? r).bind Shared.stream

/-- Open streams are among those that were made. -/
theorem lt_of_openSource? {source : Source} (isOpen : world.openSource? r = some source) :
    r.number < world.sources.length := by
  obtain ⟨_, found, _⟩ := Option.bind_eq_some_iff.1 isOpen
  exact (List.getElem?_eq_some_iff.1 found).1

theorem openSource?_of_sources (same : after.sources = world.sources) (r : ReadHandle) :
    after.openSource? r = world.openSource? r :=
  congrArg (Option.bind · Shared.stream) (source?_of_sources same r)

theorem source?_of_set_self {new : Shared Source} (found : world.source? r = some shared)
    (sources : after.sources = world.sources.set r.number new) : after.source? r = some new := by
  unfold source?
  rw [sources, List.getElem?_set_self (List.getElem?_eq_some_iff.1 found).1]

theorem openSource?_of_set_self {new : Shared Source} (found : world.source? r = some shared)
    (sources : after.sources = world.sources.set r.number new) :
    after.openSource? r = new.stream :=
  congrArg (Option.bind · Shared.stream) (source?_of_set_self found sources)

/-- Another stream is changed, or only how many handles this one has. -/
theorem openSource?_of_set {new : Shared Source} (found : world.source? r = some shared)
    (sources : after.sources = world.sources.set r.number new) {r' : ReadHandle}
    (same : r' = r → new.stream = shared.stream) :
    after.openSource? r' = world.openSource? r' := by
  have look : after.source? r' = (world.sources.set r.number new)[r'.number]? :=
    congrArg (·[r'.number]?) sources
  unfold openSource?
  rw [look]
  by_cases other : r' = r
  · subst other
    rw [List.getElem?_set_self (List.getElem?_eq_some_iff.1 found).1, found]
    exact same rfl
  · have apart : r.number ≠ r'.number := by
      intro h
      exact other (congrArg ReadHandle.mk h.symm)
    rw [List.getElem?_set_ne apart]
    rfl

theorem isReadable_iff : world.isReadable r = true ↔ (world.openSource? r).isSome = true := by
  unfold isReadable openSource?
  rcases world.source? r with _ | ⟨_ | _, _⟩ <;> simp

theorem holdSource_sinks (world : World) (r : ReadHandle) :
    (world.holdSource r).sinks = world.sinks := by
  unfold holdSource
  split <;> rfl

theorem read_sinks {count : Nat} {result : Except StreamError Bytes}
    (h : world.read r count = some (result, after)) : after.sinks = world.sinks := by
  rcases read_outcome h with ⟨-, -, rfl⟩ | ⟨_, _, _, _, -, -, rfl⟩ <;> rfl

end Sources

/-! ## Writing -/

section Sinks

variable {w : WriteHandle} {shared : Shared Sink}

theorem sink?_of_sinks (same : after.sinks = world.sinks) (w : WriteHandle) :
    after.sink? w = world.sink? w := congrArg (·[w.number]?) same

theorem holdSink_sinks (found : world.sink? w = some shared) :
    (world.holdSink w).sinks =
      world.sinks.set w.number { shared with holders := shared.holders + 1 } := by
  unfold holdSink
  rw [found]
  rfl

theorem closeSink_sinks (found : world.sink? w = some shared) :
    (world.closeSink w).2.sinks = world.sinks.set w.number { shared with stream := none } := by
  obtain ⟨stream, holders⟩ := shared
  unfold closeSink
  rw [found]
  cases stream with
  | some sink => rfl
  | none => exact (set_eq_of_getElem? found).symm

theorem dropSink_sinks (found : world.sink? w = some shared) :
    (world.dropSink w).sinks = world.sinks.set w.number
      { stream := if shared.holders ≤ 1 then none else shared.stream
        holders := shared.holders - 1 } := by
  by_cases last : shared.holders ≤ 1
  · have closed : (world.closeSink w).2.sink? w = some { shared with stream := none } := by
      show (world.closeSink w).2.sinks[w.number]? = _
      rw [closeSink_sinks found]
      exact List.getElem?_set_self (List.getElem?_eq_some_iff.1 found).1
    rw [dropSink_of_last found last closed, if_pos last]
    show (world.closeSink w).2.sinks.set _ _ = _
    rw [closeSink_sinks found, List.set_set]
  · rw [dropSink_of_more found (Nat.lt_of_not_le last), if_neg last]
    rfl

theorem dropSink_congr (same : after.sinks = world.sinks) (w : WriteHandle) :
    (after.dropSink w).sinks = (world.dropSink w).sinks := by
  have found' := sink?_of_sinks same w
  cases found : world.sink? w with
  | none =>
    rw [dropSink_of_none found, dropSink_of_none (found'.trans found), same]
  | some shared => rw [dropSink_sinks found, dropSink_sinks (found'.trans found), same]

/-- A stream is closed and a handle of it dropped. -/
theorem releaseSink_sinks (found : world.sink? w = some shared) :
    ((world.closeSink w).2.dropSink w).sinks =
      world.sinks.set w.number { stream := none, holders := shared.holders - 1 } := by
  have closed : (world.closeSink w).2.sink? w = some { shared with stream := none } := by
    show (world.closeSink w).2.sinks[w.number]? = _
    rw [closeSink_sinks found]
    exact List.getElem?_set_self (List.getElem?_eq_some_iff.1 found).1
  rw [dropSink_sinks closed, closeSink_sinks found, List.set_set, ite_self]

theorem write_sinks {data : Bytes} {result : Except StreamError Nat}
    (h : world.write w data = some (result, after)) :
    after.sinks = world.sinks ∨
      ∃ sink sink' holders,
        world.sink? w = some { stream := some sink, holders } ∧
          after.sinks = world.sinks.set w.number { stream := some sink', holders } := by
  rcases write_outcome h with ⟨-, -, rfl⟩ | ⟨sink, sink', holders, _, found, -, rfl⟩
  · exact .inl rfl
  · exact .inr ⟨sink, sink', holders, found, rfl⟩

theorem flush_sinks (world : World) (w : WriteHandle) :
    (world.flush w).2.sinks = world.sinks ∨
      ∃ sink sink' holders,
        world.sink? w = some { stream := some sink, holders } ∧
          (world.flush w).2.sinks =
            world.sinks.set w.number { stream := some sink', holders } := by
  unfold flush
  split
  · rename_i sink holders found
    exact .inr ⟨sink, _, holders, found, rfl⟩
  · exact .inl rfl

/-- The stream of a handle, if it is open. -/
def openSink? (world : World) (w : WriteHandle) : Option Sink :=
  (world.sink? w).bind Shared.stream

/-- Open streams are among those that were made. -/
theorem lt_of_openSink? {sink : Sink} (isOpen : world.openSink? w = some sink) :
    w.number < world.sinks.length := by
  obtain ⟨_, found, _⟩ := Option.bind_eq_some_iff.1 isOpen
  exact (List.getElem?_eq_some_iff.1 found).1

theorem openSink?_of_sinks (same : after.sinks = world.sinks) (w : WriteHandle) :
    after.openSink? w = world.openSink? w :=
  congrArg (Option.bind · Shared.stream) (sink?_of_sinks same w)

theorem sink?_of_set_self {new : Shared Sink} (found : world.sink? w = some shared)
    (sinks : after.sinks = world.sinks.set w.number new) : after.sink? w = some new := by
  unfold sink?
  rw [sinks, List.getElem?_set_self (List.getElem?_eq_some_iff.1 found).1]

theorem openSink?_of_set_self {new : Shared Sink} (found : world.sink? w = some shared)
    (sinks : after.sinks = world.sinks.set w.number new) : after.openSink? w = new.stream :=
  congrArg (Option.bind · Shared.stream) (sink?_of_set_self found sinks)

/-- Another stream is changed, or only how many handles this one has. -/
theorem openSink?_of_set {new : Shared Sink} (found : world.sink? w = some shared)
    (sinks : after.sinks = world.sinks.set w.number new) {w' : WriteHandle}
    (same : w' = w → new.stream = shared.stream) : after.openSink? w' = world.openSink? w' := by
  have look : after.sink? w' = (world.sinks.set w.number new)[w'.number]? :=
    congrArg (·[w'.number]?) sinks
  unfold openSink?
  rw [look]
  by_cases other : w' = w
  · subst other
    rw [List.getElem?_set_self (List.getElem?_eq_some_iff.1 found).1, found]
    exact same rfl
  · have apart : w.number ≠ w'.number := by
      intro h
      exact other (congrArg WriteHandle.mk h.symm)
    rw [List.getElem?_set_ne apart]
    rfl

theorem isWritable_iff : world.isWritable w = true ↔ (world.openSink? w).isSome = true := by
  unfold isWritable openSink?
  rcases world.sink? w with _ | ⟨_ | _, _⟩ <;> simp

theorem holdSink_sources (world : World) (w : WriteHandle) :
    (world.holdSink w).sources = world.sources := by
  unfold holdSink
  split <;> rfl

theorem closeSink_sources (world : World) (w : WriteHandle) :
    (world.closeSink w).2.sources = world.sources := by
  unfold closeSink
  split <;> rfl

theorem dropSink_sources (world : World) (w : WriteHandle) :
    (world.dropSink w).sources = world.sources :=
  dropSink_keeps (P := fun after => after.sources = world.sources) rfl (closeSink_sources world w)
    fun _ _ => id

theorem write_sources {data : Bytes} {result : Except StreamError Nat}
    (h : world.write w data = some (result, after)) : after.sources = world.sources := by
  rcases write_outcome h with ⟨-, -, rfl⟩ | ⟨_, _, _, _, -, -, rfl⟩ <;> rfl

theorem flush_sources (world : World) (w : WriteHandle) :
    (world.flush w).2.sources = world.sources := by
  unfold flush
  split <;> rfl

end Sinks

end World

/-! ## Counting handles -/

namespace Shared

variable {α : Type}

/-- How many handles the stream with the number `n` has. -/
def holdersAt (streams : List (Shared α)) (n : Nat) : Nat :=
  (streams[n]?.map Shared.holders).getD 0

theorem holdersAt_of_some {streams : List (Shared α)} {n : Nat} {shared : Shared α}
    (found : streams[n]? = some shared) : holdersAt streams n = shared.holders := by
  unfold holdersAt
  rw [found]
  rfl

/-- `refs` has the number of every handle of a stream from the number `base` on. -/
structure Counted (base : Nat) (streams : List (Shared α)) (refs : List Nat) : Prop where
  bound : base ≤ streams.length
  own : ∀ n ∈ refs, base ≤ n
  holders : ∀ n, base ≤ n → holdersAt streams n = refs.count n

namespace Counted

variable {base n : Nat} {streams : List (Shared α)} {refs refs' : List Nat} {old : Shared α}

/-- Before any stream is made nobody holds any. -/
theorem nil (streams : List (Shared α)) : Counted streams.length streams [] where
  bound := Nat.le_refl _
  own := List.forall_mem_nil _
  holders n le := by
    rw [holdersAt, List.getElem?_eq_none le]
    rfl

theorem perm (counted : Counted base streams refs) (same : refs.Perm refs') :
    Counted base streams refs' where
  bound := counted.bound
  own m mem := counted.own m (same.mem_iff.2 mem)
  holders m le := (counted.holders m le).trans (same.count_eq m)

/-- A handle is that of a stream, which knows of all its handles. -/
theorem exists_of_mem (counted : Counted base streams refs) (mem : n ∈ refs) :
    ∃ shared, streams[n]? = some shared ∧ shared.holders = refs.count n := by
  have held := counted.holders n (counted.own n mem)
  cases found : streams[n]? with
  | some shared => exact ⟨shared, rfl, (holdersAt_of_some found).symm.trans held⟩
  | none =>
    have positive := List.count_pos_iff.2 mem
    rw [holdersAt, found] at held
    change 0 = _ at held
    omega

theorem lt_length (counted : Counted base streams refs) (mem : n ∈ refs) : n < streams.length := by
  obtain ⟨shared, found, _⟩ := counted.exists_of_mem mem
  exact (List.getElem?_eq_some_iff.1 found).1

/-- A stream is changed, and its handles are as many as it then knows of. -/
theorem set (counted : Counted base streams refs) (new : Shared α) (found : streams[n]? = some old)
    (own : ∀ m ∈ refs', base ≤ m) (self : new.holders = refs'.count n)
    (others : ∀ m, m ≠ n → refs'.count m = refs.count m) :
    Counted base (streams.set n new) refs' where
  bound := by
    rw [List.length_set]
    exact counted.bound
  own := own
  holders m le := by
    have bound := (List.getElem?_eq_some_iff.1 found).1
    by_cases same : n = m
    · subst same
      exact (holdersAt_of_some (List.getElem?_set_self bound)).trans self
    · rw [holdersAt, List.getElem?_set_ne same, others m (Ne.symm same)]
      exact counted.holders m le

/-- A stream is used, opened or closed, but has the same handles. -/
theorem use (counted : Counted base streams refs) (new : Shared α) (found : streams[n]? = some old)
    (le : base ≤ n) (same : new.holders = old.holders) : Counted base (streams.set n new) refs := by
  refine counted.set new found counted.own ?_ fun _ _ => rfl
  rw [same, ← counted.holders n le, holdersAt_of_some found]

/-- A handle is copied. -/
theorem hold (counted : Counted base streams refs) (new : Shared α) (mem : n ∈ refs)
    (found : streams[n]? = some old) (more : new.holders = old.holders + 1) :
    Counted base (streams.set n new) (n :: refs) := by
  have le := counted.own n mem
  refine counted.set new found (List.forall_mem_cons.2 ⟨le, counted.own⟩) ?_ ?_
  · rw [more, List.count_cons_self, ← counted.holders n le, holdersAt_of_some found]
  · intro m other
    exact List.count_cons_of_ne (Ne.symm other)

/-- A handle is dropped. -/
theorem drop (counted : Counted base streams (n :: refs)) (new : Shared α)
    (found : streams[n]? = some old) (less : new.holders = old.holders - 1) :
    Counted base (streams.set n new) refs := by
  have le := counted.own n List.mem_cons_self
  refine counted.set new found (List.forall_mem_cons.1 counted.own).2 ?_ ?_
  · rw [less, ← holdersAt_of_some found, counted.holders n le, List.count_cons_self]
    rfl
  · intro m other
    exact (List.count_cons_of_ne (Ne.symm other)).symm

/-- A new stream has one handle. -/
theorem add (counted : Counted base streams refs) (new : Shared α) (one : new.holders = 1) :
    Counted base (streams ++ [new]) (streams.length :: refs) where
  bound := by
    rw [List.length_append]
    exact Nat.le_add_right_of_le counted.bound
  own := List.forall_mem_cons.2 ⟨counted.bound, counted.own⟩
  holders m le := by
    have fresh : streams.length ∉ refs := fun mem => Nat.lt_irrefl _ (counted.lt_length mem)
    rcases Nat.lt_trichotomy m streams.length with old | rfl | beyond
    · rw [holdersAt, List.getElem?_append_left old, List.count_cons_of_ne (Nat.ne_of_gt old)]
      exact counted.holders m le
    · rw [holdersAt_of_some List.getElem?_concat_length, one, List.count_cons_self,
        List.count_eq_zero.2 fresh]
    · have missing : (streams ++ [new])[m]? = none := by
        rw [List.getElem?_eq_none_iff, List.length_append]
        exact beyond
      have absent : m ∉ refs := fun mem => Nat.lt_asymm beyond (counted.lt_length mem)
      rw [holdersAt, missing, List.count_cons_of_ne (Nat.ne_of_lt beyond),
        List.count_eq_zero.2 absent]
      rfl

end Counted

end Shared

end AlgorithmDriver

import AlgorithmDriver.Proofs.Driver.FileChannel
import AlgorithmDriver.Proofs.Driver.TearDown

/-!
# Channels of files on a stage

* `Stage.Alone` says that a step leaves a file to one channel: nobody else writes it.  `Stage.RunOf`
  are runs whose steps are all of a kind.
* In such a run the file and the buffer of the channel always make up all that was accepted
  (`RunOf.carries`), and each channel that reads the file delivers it in order (`RunOf.delivers`).
* `RunOf.file_channel` tells what that comes to for the callers: what is in the file at every moment
  and after each way of ending the channel, and what is read from the file then.
-/

namespace AlgorithmDriver

open Table (Change)

/-! ## What others do -/

namespace World

/-- The handle is that of an open stream that writes to the file `node`. -/
def Writes (world : World) (w : WriteHandle) (node : Nat) : Prop :=
  ∃ sink, world.openSink? w = some sink ∧ world.host.Leads sink.description node

/-- An open stream has the description. -/
def Has (world : World) (n : Nat) : Prop :=
  (∃ w sink, world.openSink? w = some sink ∧ sink.description = n) ∨
    ∃ r source, world.openSource? r = some source ∧ source.description = n

/-- The file `node` stays as it is, and where its path leads; and nobody uses the descriptions of
open streams. -/
structure Respects (path : String) (node : Nat) (before after : World) : Prop where
  bytes : after.host.files.bytes? node = before.host.files.bytes? node
  found : before.host.files.find before.host.directory path = .ok node →
    after.host.files.find after.host.directory path = .ok node
  places : ∀ n, before.Has n → after.host.place? n = before.host.place? n

end World

namespace Stage

variable {start s t u : Stage} {deed : Deed} {deeds more : List Deed}

/-- Nobody but the channel with the handle `w` writes the file `node`. -/
structure Alone (w : WriteHandle) (path : String) (node : Nat) (s : Stage) (deed : Deed) (t : Stage) :
    Prop where
  /-- The file is not opened for writing again. -/
  opens : ∀ w', s.world.sinks.length ≤ w'.number → ¬ t.world.Writes w' node
  /-- Nothing is written to it through another channel. -/
  writes : ∀ w' data result, deed = .wrote w' data result → s.world.Writes w' node → w' = w
  /-- The rest of the machine leaves it alone. -/
  elsewhere : deed = .elsewhere → s.world.Respects path node t.world

/-- A run whose steps are all of a kind. -/
inductive RunOf (kind : Stage → Deed → Stage → Prop) (start : Stage) : List Deed → Stage → Prop
  | nil : RunOf kind start [] start
  | snoc {deeds : List Deed} {s t : Stage} {deed : Deed} (run : RunOf kind start deeds s)
      (step : Step s deed t) (ofKind : kind s deed t) : RunOf kind start (deeds ++ [deed]) t

theorem RunOf.run {kind : Stage → Deed → Stage → Prop} (run : RunOf kind start deeds s) :
    Run start deeds s := by
  induction run with
  | nil => exact .nil
  | snoc _ step _ ih => exact ih.snoc step

/-- What was accepted by the channel with the handle `w`. -/
def written (w : WriteHandle) (deeds : List Deed) : Bytes := deeds.flatMap (Deed.accepted w)

/-- What was given through the channel with the handle `r`. -/
def given (r : ReadHandle) (deeds : List Deed) : Bytes := deeds.flatMap (Deed.given r)

theorem written_append (w : WriteHandle) (deeds more : List Deed) :
    written w (deeds ++ more) = written w deeds ++ written w more := List.flatMap_append

theorem given_append (r : ReadHandle) (deeds more : List Deed) :
    given r (deeds ++ more) = given r deeds ++ given r more := List.flatMap_append

theorem written_single (w : WriteHandle) (deed : Deed) : written w [deed] = deed.accepted w :=
  List.flatMap_singleton _ _

theorem given_single (r : ReadHandle) (deed : Deed) : given r [deed] = deed.given r :=
  List.flatMap_singleton _ _

end Stage

/-! ## Opening and starting -/

theorem Instance.start_untouched {name : String} {command : Command} {policy : ErrorPolicy}
    {world after : World} {i : Instance} (started : start name command policy world = .ok (i, after)) :
    world.host.Untouched after.host := by
  obtain ⟨-, errors, host, program, opened, -, _, rfl⟩ := start_eq_ok_iff.1 started
  have first : world.host.Untouched host := by
    cases policy with
    | inherit =>
      cases opened
      exact Host.hold_spares _ _
    | discard =>
      obtain ⟨node, _, spares⟩ := @Host.openWrite_spares (fun _ => False) _ _ _ _ _ _ opened
      exact spares.mono (fun _ => id) fun _ here => nomatch here.1
  exact ((first.trans (Host.makePipe_spares _)).trans (Host.makePipe_spares _)).trans
    (Host.start_spares _ _ _ _ _)

namespace Driver

variable {world after : World} {path : String}

theorem acquireRead_untouched {channel : Channel ReadHandle}
    (opened : acquireRead path world = .ok (channel, after)) :
    world.host.Untouched after.host := by
  obtain ⟨-, description, host, made, _, _, rfl⟩ := acquireRead_eq_ok_iff.1 opened
  exact Host.openRead_spares made

/-- The file that is opened for writing is the one that the new stream writes to. -/
theorem acquireWrite_spares {channel : Channel WriteHandle}
    (opened : acquireWrite path world = .ok (channel, after)) :
    ∃ node, after.Writes channel.pipe node ∧
      world.host.Spares (fun _ => False) (· = node) after.host := by
  obtain ⟨-, description, host, made, rfl, rfl⟩ := acquireWrite_eq_ok_iff.1 opened
  obtain ⟨node, opening, spares⟩ := @Host.openWrite_spares (fun _ => False) _ _ _ _ _ _ made
  refine ⟨node, ⟨{ description, capacity := bufferSize }, ?_, ?_⟩,
    spares.mono (fun _ => id) fun _ here => here.2⟩
  · unfold World.openSink? World.sink?
    rw [List.getElem?_concat_length]
    rfl
  · refine (Host.standsAt_iff.2 ⟨1, ?_⟩ : host.StandsAt description node 0).leads
    rw [opening.description, opening.number, List.getElem?_concat_length]
    rfl

end Driver

namespace World

variable {world after : World} {w : WriteHandle} {r : ReadHandle} {path : String} {node : Nat}
  {drawn whole : Bytes}

/-- Streams are opened, but none to write to the file. -/
theorem Carries.added {written : Nat → Prop} (carries : world.Carries w node whole)
    (host : world.host.Spares (fun _ => False) written after.host) (unwritten : ¬ written node)
    (sinks : world.sinks <+: after.sinks) (grounded : after.Grounded)
    (own : ∀ sink, world.openSink? w = some sink →
      after.Own sink.description (· = w) fun _ => False)
    (opens : ∀ w', world.sinks.length ≤ w'.number → ¬ after.Writes w' node) :
    after.Carries w node whole := by
  refine carries.spared host.toKeeps (fun _ _ => id) unwritten
    (openSink?_of_extended sinks carries.known) grounded own
    (fun w' sink different isOpen leads => ?_) sinks.length_le
  by_cases old : w'.number < world.sinks.length
  · have was := (openSink?_of_extended sinks old).symm.trans isOpen
    exact carries.idle_of_same host.onward different was leads
  · exact absurd ⟨sink, isOpen, leads⟩ (opens w' (Nat.not_lt.1 old))

/-- What the rest of the machine may do to a file and the channels of it. -/
theorem Respects.keeps (respects : world.Respects path node after) (onward : world.Onward after) :
    world.host.Keeps (fun n => ¬ world.Has n) (· ≠ node) after.host where
  onward := onward
  places n d has place := (respects.places n (Classical.not_not.1 has)).trans place
  files n content here file := by
    obtain rfl := Classical.not_not.1 here
    exact respects.bytes.trans file

theorem Carries.elsewhere (carries : world.Carries w node whole)
    (respects : world.Respects path node after) (elsewhere : world.Elsewhere after)
    (grounded : after.Grounded)
    (own : ∀ sink, world.openSink? w = some sink →
      after.Own sink.description (· = w) fun _ => False) : after.Carries w node whole := by
  have onward := elsewhere.onward
  refine carries.spared (respects.keeps onward) (fun sink isOpen unknown => ?_) (fun apart => apart rfl)
    (openSink?_of_sinks elsewhere.sinks w) grounded own (fun w' sink different isOpen leads => ?_)
    (Nat.le_of_eq (congrArg List.length elsewhere.sinks).symm)
  · exact unknown (.inl ⟨w, sink, isOpen, rfl⟩)
  · have was := (openSink?_of_sinks elsewhere.sinks w').symm.trans isOpen
    exact carries.idle_of_same onward different was leads

/-- Streams are opened, which leaves the channel where it stands. -/
theorem Delivers.added {written : Nat → Prop} (delivers : world.Delivers r node drawn whole)
    (host : world.host.Spares (fun _ => False) written after.host)
    (sources : world.sources <+: after.sources)
    (own : ∀ source, world.openSource? r = some source →
      after.Own source.description (fun _ => False) (· = r)) : after.Delivers r node drawn whole :=
  delivers.spared host.toKeeps (fun _ _ => id)
    (fun _ isOpen => (openSource?_of_extended sources delivers.known).symm.trans isOpen) own
    sources.length_le

theorem Delivers.elsewhere (delivers : world.Delivers r node drawn whole)
    (respects : world.Respects path node after) (elsewhere : world.Elsewhere after)
    (own : ∀ source, world.openSource? r = some source →
      after.Own source.description (fun _ => False) (· = r)) : after.Delivers r node drawn whole := by
  refine delivers.spared (respects.keeps elsewhere.onward) (fun source isOpen unknown => ?_)
    (fun source isOpen => (openSource?_of_sources elsewhere.sources r).symm.trans isOpen) own
    (Nat.le_of_eq (congrArg List.length elsewhere.sources).symm)
  exact unknown (.inr ⟨r, source, isOpen, rfl⟩)

end World

/-! ## Steps -/

namespace Stage

variable {s t : Stage} {deed : Deed} {deeds more : List Deed} {w : WriteHandle} {r : ReadHandle}
  {path : String} {node : Nat} {drawn whole : Bytes}

theorem Step.carries (step : Step s deed t) (alone : Alone w path node s deed t)
    (carries : s.world.Carries w node whole) :
    t.world.Carries w node (whole ++ deed.accepted w) := by
  have grounded := step.grounded carries.grounded
  have own (sink : Sink) (isOpen : s.world.openSink? w = some sink) :
      t.world.Own sink.description (· = w) fun _ => False :=
    step.own (carries.own sink isOpen) (carries.grounded.sinks w sink isOpen)
  obtain ⟨opens, writes, elsewhere⟩ := alone
  have effect := step.effect
  generalize t.world = world at *
  cases effect with
  | manages manages unwritten _ =>
    rw [unwritten, List.append_nil]
    exact carries.manages manages
  | spawn spawned =>
    obtain ⟨command, started⟩ := Driver.spawn_start spawned
    have host := Instance.start_untouched started
    obtain ⟨-, _, _, _, _, -, _, rfl⟩ := Instance.start_eq_ok_iff.1 started
    rw [show Deed.silent.accepted w = [] from rfl, List.append_nil]
    exact carries.added host id (List.prefix_append _ _) grounded own opens
  | acquireRead opened =>
    have host := Driver.acquireRead_untouched opened
    obtain ⟨-, _, _, _, _, _, rfl⟩ := Driver.acquireRead_eq_ok_iff.1 opened
    rw [show Deed.silent.accepted w = [] from rfl, List.append_nil]
    exact carries.added host id (List.prefix_refl _) grounded own opens
  | acquireWrite opened =>
    obtain ⟨other, writes, host⟩ := Driver.acquireWrite_spares opened
    obtain ⟨-, _, _, _, rfl, rfl⟩ := Driver.acquireWrite_eq_ok_iff.1 opened
    rw [show Deed.silent.accepted w = [] from rfl, List.append_nil]
    refine carries.added host (fun here => ?_) (List.prefix_append _ _) grounded own opens
    exact opens _ (Nat.le_refl _) (here ▸ writes)
  | read done =>
    rw [show (Deed.read _ _ _).accepted w = [] from rfl, List.append_nil]
    exact carries.read done
  | @write w' data result _ done =>
    by_cases here : w' = w
    · subst here
      exact carries.write_self done
    · have other : (Deed.wrote w' data result).accepted w = [] := by
        cases result with
        | ok m => exact if_neg here
        | error e => rfl
      rw [other, List.append_nil]
      exact carries.write_other done here fun sink isOpen leads =>
        here (writes w' data result rfl ⟨sink, isOpen, leads⟩)
  | flush w' =>
    rw [show (Deed.flushed _ _).accepted w = [] from rfl, List.append_nil]
    by_cases here : w' = w
    · subst here
      exact carries.flush_self.1
    · exact carries.flush_other here
  | elsewhere goes =>
    rw [show Deed.elsewhere.accepted w = [] from rfl, List.append_nil]
    exact carries.elsewhere (elsewhere rfl) goes grounded own

theorem Step.delivers (step : Step s deed t) (alone : Alone w path node s deed t)
    (carries : s.world.Carries w node whole) (delivers : s.world.Delivers r node drawn whole) :
    t.world.Delivers r node (drawn ++ deed.given r) (whole ++ deed.accepted w) := by
  refine World.Delivers.grow ?_ _
  obtain ⟨content, file, part⟩ := carries.part
  have own (source : Source) (isOpen : s.world.openSource? r = some source) :
      t.world.Own source.description (fun _ => False) (· = r) :=
    step.own (delivers.own source isOpen) (carries.grounded.sources r source isOpen)
  obtain ⟨_, _, elsewhere⟩ := alone
  have effect := step.effect
  generalize t.world = world at *
  cases effect with
  | manages manages _ unread =>
    rw [unread, List.append_nil]
    exact delivers.manages manages
  | spawn spawned =>
    obtain ⟨command, started⟩ := Driver.spawn_start spawned
    have host := Instance.start_untouched started
    obtain ⟨-, _, _, _, _, -, _, rfl⟩ := Instance.start_eq_ok_iff.1 started
    rw [show Deed.silent.given r = [] from rfl, List.append_nil]
    exact delivers.added host (List.prefix_append _ _) own
  | acquireRead opened =>
    have host := Driver.acquireRead_untouched opened
    obtain ⟨-, _, _, _, _, _, rfl⟩ := Driver.acquireRead_eq_ok_iff.1 opened
    rw [show Deed.silent.given r = [] from rfl, List.append_nil]
    exact delivers.added host (List.prefix_append _ _) own
  | acquireWrite opened =>
    obtain ⟨_, _, host⟩ := Driver.acquireWrite_spares opened
    obtain ⟨-, _, _, _, rfl, rfl⟩ := Driver.acquireWrite_eq_ok_iff.1 opened
    rw [show Deed.silent.given r = [] from rfl, List.append_nil]
    exact delivers.added host (List.prefix_refl _) own
  | @read r' count result _ done =>
    by_cases here : r' = r
    · subst here
      exact delivers.read_self file part done
    · have other : (Deed.read r' count result).given r = [] := by
        cases result with
        | ok bytes => exact if_neg here
        | error e => rfl
      rw [other, List.append_nil]
      exact delivers.read_other done here
  | write done =>
    rw [show (Deed.wrote _ _ _).given r = [] from rfl, List.append_nil]
    exact delivers.write done
  | flush w' =>
    rw [show (Deed.flushed _ _).given r = [] from rfl, List.append_nil]
    exact delivers.flush w'
  | elsewhere goes =>
    rw [show Deed.elsewhere.given r = [] from rfl, List.append_nil]
    exact delivers.elsewhere (elsewhere rfl) goes own

/-- Whatever a step does on the host by itself, all paths lead where they led. -/
theorem Step.spares (step : Step s deed t) :
    deed = .elsewhere ∨ s.world.host.Spares (fun _ => True) (fun _ => True) t.world.host := by
  have effect := step.effect
  generalize t.world = world at *
  cases effect with
  | manages manages _ _ => exact .inr manages.spares
  | spawn spawned =>
    obtain ⟨command, started⟩ := Driver.spawn_start spawned
    exact .inr ((Instance.start_untouched started).mono (fun _ _ => trivial) fun _ _ => trivial)
  | acquireRead opened =>
    exact .inr ((Driver.acquireRead_untouched opened).mono (fun _ _ => trivial) fun _ _ => trivial)
  | acquireWrite opened =>
    obtain ⟨_, _, spares⟩ := Driver.acquireWrite_spares opened
    exact .inr (spares.mono (fun _ _ => trivial) fun _ _ => trivial)
  | read done =>
    rcases World.read_cases done with ⟨_, _, rfl⟩ | ⟨_, _, read, _⟩
    · exact .inr (.refl _)
    · exact .inr ((Source.read_spares read).mono (fun _ _ => trivial) fun _ here => here)
  | write done =>
    rcases World.write_cases done with ⟨_, _, rfl⟩ | ⟨_, _, written, _⟩
    · exact .inr (.refl _)
    · exact .inr ((Sink.write_spares written).mono (fun _ _ => trivial) fun _ _ => trivial)
  | flush w =>
    rcases s.world.flush_cases w with ⟨_, flushed⟩ | ⟨sink, _, host, _⟩
    · rw [flushed]
      exact .inr (.refl _)
    · rw [host]
      exact .inr ((sink.flush_spares _).mono (fun _ _ => trivial) fun _ _ => trivial)
  | elsewhere _ => exact .inl rfl

/-- The path of a file that is left to one channel goes on to lead to it. -/
theorem Step.found (step : Step s deed t) (alone : Alone w path node s deed t)
    (file : s.world.host.files.bytes? node ≠ none)
    (found : s.world.host.files.find s.world.host.directory path = .ok node) :
    t.world.host.files.find t.world.host.directory path = .ok node := by
  rcases step.spares with elsewhere | spares
  · exact (alone.elsewhere elsewhere).found found
  · exact spares.found file found

/-! ## Runs -/

variable {start : Stage}

theorem RunOf.carries (run : RunOf (Alone w path node) start deeds s)
    (carries : start.world.Carries w node whole) :
    s.world.Carries w node (whole ++ written w deeds) := by
  induction run with
  | nil =>
    rw [show written w [] = [] from rfl, List.append_nil]
    exact carries
  | snoc _ step alone ih =>
    rw [written_append, written_single, ← List.append_assoc]
    exact step.carries alone ih

theorem RunOf.found (run : RunOf (Alone w path node) start deeds s)
    (carries : start.world.Carries w node whole)
    (found : start.world.host.files.find start.world.host.directory path = .ok node) :
    s.world.host.files.find s.world.host.directory path = .ok node := by
  induction run with
  | nil => exact found
  | snoc run step alone ih =>
    obtain ⟨_, file, _⟩ := (run.carries carries).part
    exact step.found alone (fun missing => nomatch file.symm.trans missing) ih

theorem RunOf.delivers (run : RunOf (Alone w path node) start deeds s)
    (carries : start.world.Carries w node whole)
    (delivers : start.world.Delivers r node drawn whole) :
    s.world.Delivers r node (drawn ++ given r deeds) (whole ++ written w deeds) := by
  induction run with
  | nil =>
    rw [show written w [] = [] from rfl, show given r [] = [] from rfl, List.append_nil,
      List.append_nil]
    exact delivers
  | snoc run step alone ih =>
    rw [written_append, written_single, given_append, given_single, ← List.append_assoc,
      ← List.append_assoc]
    exact step.delivers alone (run.carries carries) ih

end Stage

/-! ## What callers see -/

namespace World

/-- The content of the regular file that a path leads to. -/
def fileAt (world : World) (path : String) : Option Bytes :=
  world.host.files.content? world.host.directory path

variable {world after : World} {w : WriteHandle} {path : String} {node : Nat} {whole : Bytes}

theorem fileAt_of_found (found : world.host.files.find world.host.directory path = .ok node) :
    world.fileAt path = world.host.files.bytes? node := FileTree.content?_of_find found

/-- A channel that is closed, in whatever way, has left everything in the file. -/
theorem Carries.fileAt_of_manages (carries : world.Carries w node whole)
    (found : world.host.files.find world.host.directory path = .ok node)
    (manages : world.Manages after) (shut : after.openSink? w = none) :
    after.fileAt path = some whole := by
  obtain ⟨content, file, _⟩ := carries.part
  have found' := manages.spares.found (fun missing => nomatch file.symm.trans missing) found
  exact (fileAt_of_found found').trans ((carries.manages manages).shut shut)

theorem Carries.closeSink_ok (carries : world.Carries w node whole) :
    (world.closeSink w).1 = .ok () := by
  cases isOpen : world.openSink? w with
  | none => rw [closeSink_of_shut isOpen]
  | some sink =>
    obtain ⟨_, flushed, _⟩ := (carries.fills sink isOpen).flush
    rw [(closeSink_of_open isOpen).1, flushed]

theorem Carries.fileAt_flush (carries : world.Carries w node whole)
    (found : world.host.files.find world.host.directory path = .ok node) :
    (world.flush w).2.fileAt path = some whole := by
  obtain ⟨content, file, _⟩ := carries.part
  have present : world.host.files.bytes? node ≠ none := fun missing => nomatch file.symm.trans missing
  have spares : world.host.Spares (fun _ => True) (fun _ => True) (world.flush w).2.host := by
    rcases world.flush_cases w with ⟨_, flushed⟩ | ⟨sink, _, host, _⟩
    · rw [flushed]
      exact .refl _
    · rw [host]
      exact (sink.flush_spares _).mono (fun _ _ => trivial) fun _ _ => trivial
  exact (fileAt_of_found (spares.found present found)).trans carries.flush_self.2.1

end World

namespace Stage

variable {start s t : Stage} {deeds before : List Deed} {path : String} {node : Nat}
  {channel : Channel WriteHandle} {opened : World}

/-- The file is as long as the channel to write to it is open, and after it was ended in each of the
ways that there are.  `whole` is what the channel accepted. -/
structure Holds (path : String) (channel : Channel WriteHandle) (whole : Bytes) (t : Stage) : Prop where
  part : ∃ content, t.world.fileAt path = some content ∧ content <+: whole
  accepts : t.world.openSink? channel.pipe ≠ none → ∀ data,
    ∃ after, t.world.write channel.pipe data = some (.ok data.length, after)
  flush : t.world.openSink? channel.pipe ≠ none → (t.world.flush channel.pipe).1 = .ok ()
  flushed : (t.world.flush channel.pipe).2.fileAt path = some whole
  closeSink : (t.world.closeSink channel.pipe).1 = .ok ()
  closedSink : (t.world.closeSink channel.pipe).2.fileAt path = some whole
  closeWrite : ∀ id, t.driver.writeFiles.get? id = some channel →
    (t.driver.closeWrite id t.world).1 = .ok ()
  closedWrite : ∀ id, t.driver.writeFiles.get? id = some channel →
    (t.driver.closeWrite id t.world).2.2.fileAt path = some whole
  closedAll : ∀ id, t.driver.writeFiles.get? id = some channel →
    (t.driver.closeAll t.world).2.fileAt path = some whole
  /-- However it was closed, the channel has left everything in the file. -/
  shut : t.world.openSink? channel.pipe = none → t.world.fileAt path = some whole

theorem Holds.of_carries {whole : Bytes}
    (carries : t.world.Carries channel.pipe node whole)
    (found : t.world.host.files.find t.world.host.directory path = .ok node) :
    Holds path channel whole t where
  part := by
    obtain ⟨content, file, part⟩ := carries.part
    exact ⟨content, (World.fileAt_of_found found).trans file, part⟩
  accepts isOpen data := by
    obtain ⟨sink, isOpen⟩ := Option.ne_none_iff_exists'.1 isOpen
    exact carries.accepts isOpen data
  flush isOpen := carries.flush_self.2.2 isOpen
  flushed := carries.fileAt_flush found
  closeSink := carries.closeSink_ok
  closedSink := carries.fileAt_of_manages found (World.closeSink_manages _ _)
    (World.openSink?_closeSink _ _)
  closeWrite id known := by
    rw [(Driver.closeWrite_of_some known t.world).1, carries.closeSink_ok]
    rfl
  closedWrite id known := carries.fileAt_of_manages found (Driver.closeWrite_manages _ id _)
    (Driver.closeWrite_shuts known _)
  closedAll id known := carries.fileAt_of_manages found (Driver.closeAll_manages _ _)
    (Driver.closeAll_shuts known _)
  shut isShut := carries.fileAt_of_manages found .refl isShut

/-- What a caller gets through a channel that reads the file: `drawn` so far, out of `whole`. -/
structure Gives (path : String) (r : ReadHandle) (drawn whole : Bytes) (u : Stage) : Prop where
  part : drawn <+: whole
  /-- The next piece goes on from there.  There is none only when all that is in the file was given. -/
  answers : u.world.openSource? r ≠ none → ∀ count, ∃ bytes after,
    u.world.read r count = some (.ok bytes, after) ∧ bytes.length ≤ count ∧
      drawn ++ bytes <+: whole ∧
        (bytes = [] → 0 < count → u.world.fileAt path = some whole → drawn = whole)
  /-- Reading through another channel does not matter. -/
  apart : ∀ r' count result after, r' ≠ r → u.world.read r' count = some (result, after) →
    ∀ count, (after.read r count).map Prod.fst = (u.world.read r count).map Prod.fst

theorem Gives.of_delivers {w : WriteHandle} {r : ReadHandle} {drawn whole : Bytes}
    (carries : t.world.Carries w node whole) (delivers : t.world.Delivers r node drawn whole)
    (found : t.world.host.files.find t.world.host.directory path = .ok node) :
    Gives path r drawn whole t := by
  obtain ⟨content, file, part⟩ := carries.part
  refine ⟨delivers.part, fun isOpen count => ?_, fun r' count' result after different read count => ?_⟩
  · obtain ⟨source, isOpen⟩ := Option.ne_none_iff_exists'.1 isOpen
    obtain ⟨bytes, after, read, short, next, exhausted⟩ := delivers.answers isOpen file part count
    refine ⟨bytes, after, read, short, next, fun none positive all => ?_⟩
    obtain rfl := Option.some.inj (file.symm.trans ((World.fileAt_of_found found).symm.trans all))
    exact delivers.part.eq_of_length_le (exhausted none positive).length_le
  · exact delivers.read_apart file read different count

/-! ## Closing while others go on -/

/-- What is closed stays closed. -/
theorem Run.stays_shut {w : WriteHandle} (run : Run s deeds t)
    (known : w.number < s.world.sinks.length) (shut : s.world.openSink? w = none) :
    t.world.openSink? w = none := by
  have found : s.world.sink? w = some s.world.sinks[w.number] := List.getElem?_eq_getElem known
  refine run.sink_shut found ?_
  unfold World.openSink? at shut
  rw [found] at shut
  exact shut

theorem Run.sinks_length_le (run : Run s deeds t) : s.world.sinks.length ≤ t.world.sinks.length := by
  induction run with
  | nil => exact Nat.le_refl _
  | snoc _ step ih => exact Nat.le_trans ih step.sinks_stay.length_le

theorem Step.closedSink {deed : Deed} {w : WriteHandle} {r : Except StreamError Unit}
    (step : Step s deed t) (shows : deed = .closedSink w r) :
    w ∈ s.writers ∧ r = (s.world.closeSink w).1 ∧ t.world = (s.world.closeSink w).2 := by
  cases step with
  | closeSink holds =>
    cases shows
    exact ⟨holds, rfl, rfl⟩
  | depart => split at shows <;> cases shows
  | _ => cases shows

theorem Run.shut_of_closedSink {w : WriteHandle} {r : Except StreamError Unit} (run : Run s deeds t)
    (known : w.number < s.world.sinks.length) (closed : .closedSink w r ∈ deeds) :
    t.world.openSink? w = none := by
  obtain ⟨before, after, rfl⟩ := List.append_of_mem closed
  obtain ⟨u, v, first, step, rest⟩ := run.split rfl
  have known := Nat.lt_of_lt_of_le known (first.snoc step).sinks_length_le
  refine rest.stays_shut known ?_
  rw [(step.closedSink rfl).2.2]
  exact World.openSink?_closeSink u.world w

/-- A channel that was taken out of its table and closed, by a caller or by whoever closed
everything, is closed. -/
theorem Run.shut_of_released {id : WriteFileId} {closer : Closer} {r : Except StreamError Unit}
    (new : start.New) (run : Run start deeds t)
    (issued : .issued id channel ∈ Notice.writeFiles (notices deeds))
    (released : .releasedWrite closer id r ∈ deeds) : t.world.openSink? channel.pipe = none := by
  have numbered := (run.sound new).follows.writeFiles.numbered
  obtain ⟨before, after, rfl⟩ := List.append_of_mem released
  obtain ⟨u, v, first, step, rest⟩ := run.split rfl
  obtain ⟨channel', done⟩ := first.releasedWrite new step rest
  have known : Change.issued id channel' ∈
      Notice.writeFiles (notices (before ++ .releasedWrite closer id r :: after)) := by
    rw [notices, List.map_append]
    unfold Notice.writeFiles
    rw [List.filterMap_append]
    exact List.mem_append_left _ done.issued
  obtain rfl := numbered.issued_unique issued known
  have shut := done.closed
  rw [← Bool.not_eq_true, World.isWritable_iff] at shut
  exact Option.not_isSome_iff_eq_none.1 shut

/-- What opens no stream to write to, and writes through no other channel, leaves the file to the
channel. -/
theorem Alone.of_sinks {deed : Deed} {w : WriteHandle}
    (sinks : t.world.sinks.length ≤ s.world.sinks.length) (inside : deed ≠ .elsewhere)
    (own : ∀ w' data result, deed = .wrote w' data result → w' = w) :
    Alone w path node s deed t where
  opens w' beyond := by
    rintro ⟨sink, isOpen, _⟩
    exact absurd (World.lt_of_openSink? isOpen) (Nat.not_lt.2 (Nat.le_trans sinks beyond))
  writes w' data result shows _ := own w' data result shows
  elsewhere shows := absurd shows inside

/-- What the file and its readers are like once the channel has accepted `whole`. -/
structure Channels (path : String) (node : Nat) (channel : Channel WriteHandle) (whole : Bytes)
    (deeds : List Deed) (t : Stage) : Prop where
  holds : Holds path channel whole t
  /-- One of its handles was closed while others went on. -/
  closedHandle : ∀ r, .closedSink channel.pipe r ∈ deeds → t.world.fileAt path = some whole
  /-- It was taken out of its table and closed while others went on. -/
  released : ∀ closer id r, .issued id channel ∈ Notice.writeFiles (notices deeds) →
    .releasedWrite closer id r ∈ deeds → t.world.fileAt path = some whole
  opens : ∃ reader world, Driver.acquireRead path t.world = .ok (reader, world)
  /-- Whoever opens the file now is given what the channel accepted, in order. -/
  gives : ∀ reader world more u, Driver.acquireRead path t.world = .ok (reader, world) →
    RunOf (Alone channel.pipe path node)
      { t with world, openedReads := reader :: t.openedReads } more u →
    Gives path reader.pipe (given reader.pipe more) (whole ++ written channel.pipe more) u

/-- **File channels lose, duplicate and reorder nothing.**  A file is opened for writing, and from
then on nobody else writes it.  Whatever callers do with the handles of the channel, the file holds a
beginning of what the channel has accepted, and all of that after a flush and after each way of
closing the channel.  Whoever then reads the file is given just that, piece by piece. -/
theorem RunOf.file_channel {start s t : Stage} (new : start.New) (grounded : start.world.Grounded)
    (earlier : Run start before s)
    (acquired : Driver.acquireWrite path s.world = .ok (channel, opened))
    (found : opened.host.files.find opened.host.directory path = .ok node)
    (regular : opened.host.files.bytes? node ≠ none)
    (idle : ∀ w sink, s.world.openSink? w = some sink →
      s.world.host.Leads sink.description node → sink.pending = [])
    (run : RunOf (Alone channel.pipe path node)
      { s with world := opened, openedWrites := channel :: s.openedWrites } deeds t) :
    Channels path node channel (written channel.pipe deeds) deeds t := by
  have empty := World.Carries.opened (earlier.grounded grounded) acquired found regular idle
  have carries : t.world.Carries channel.pipe node (written channel.pipe deeds) := run.carries empty
  have leads := run.found empty found
  have holds : Holds path channel (written channel.pipe deeds) t := .of_carries carries leads
  have whole := (earlier.snoc (.acquireWrite acquired)).append run.run
  refine ⟨holds, fun r closed => ?_, fun closer id r issued released => ?_, ?_,
    fun reader world more u acquired' run' => ?_⟩
  · exact holds.shut (run.run.shut_of_closedSink empty.known closed)
  · have later : notices (before ++ [.silent] ++ deeds) =
        notices (before ++ [.silent]) ++ notices deeds := List.map_append
    have issued' : .issued id channel ∈ Notice.writeFiles (notices (before ++ [.silent] ++ deeds)) := by
      rw [later]
      unfold Notice.writeFiles
      rw [List.filterMap_append]
      exact List.mem_append_right _ issued
    exact holds.shut (whole.shut_of_released new issued' (List.mem_append_right _ released))
  · obtain ⟨content, file, _⟩ := carries.part
    exact World.acquireRead_of_file (Driver.acquireWrite_eq_ok_iff.1 acquired).1 leads file
  · have alone : Alone channel.pipe path node t .silent
        { t with world, openedReads := reader :: t.openedReads } := by
      obtain ⟨-, _, _, _, _, _, rfl⟩ := Driver.acquireRead_eq_ok_iff.1 acquired'
      exact .of_sinks (Nat.le_refl _) nofun nofun
    have step : Step t .silent _ := .acquireRead acquired'
    have reading := step.carries alone carries
    obtain ⟨content, file, _⟩ := carries.part
    have leads' := step.found alone (fun missing => nomatch file.symm.trans missing) leads
    rw [show Deed.silent.accepted channel.pipe = [] from rfl, List.append_nil] at reading
    have delivers := World.Delivers.opened carries.grounded acquired' leads (written channel.pipe deeds)
    exact .of_delivers (run'.carries reading) (run'.delivers reading delivers)
      (run'.found reading leads')

/-- A caller writes to a file that held something else before, and the channel is closed.  Nothing of
what was there is left. -/
theorem RunOf.file_channel_notes : sampleNotes.New ∧ sampleNotes.world.Grounded ∧
    Driver.acquireWrite "/notes" sampleNotes.world =
      .ok ({ path := "/notes", pipe := ⟨0⟩ }, sampleNotesOpened) ∧
    sampleNotesOpened.host.files.find sampleNotesOpened.host.directory "/notes" = .ok 1 ∧
    sampleNotesOpened.host.files.bytes? 1 ≠ none ∧
    (∀ w sink, sampleNotes.world.openSink? w = some sink →
      sampleNotes.world.host.Leads sink.description 1 → sink.pending = []) ∧
    ∃ deeds t, RunOf (Alone ⟨0⟩ "/notes" 1)
        { sampleNotes with
          world := sampleNotesOpened, openedWrites := [{ path := "/notes", pipe := ⟨0⟩ }] } deeds t ∧
      (t.driver.closeWrite ⟨1⟩ t.world).2.2.fileAt "/notes" = some [7] := by
  have new : sampleNotes.New := ⟨rfl, rfl, rfl, rfl, rfl, rfl, rfl, rfl, rfl, rfl, rfl⟩
  have grounded : sampleNotes.world.Grounded := .of_unused rfl rfl
  have names : Path.names "/notes" = ["notes"] := by decide +kernel
  have found : sampleNotesOpened.host.files.find 0 "/notes" = .ok 1 :=
    FileTree.find_entry (by decide +kernel) (by decide) (by decide +kernel) names rfl (by decide)
      (by decide) (by decide +kernel) rfl nofun
  have regular : sampleNotesOpened.host.files.bytes? 1 ≠ none := nofun
  have idle (w : WriteHandle) (sink : Sink) (isOpen : sampleNotes.world.openSink? w = some sink) :
      sampleNotes.world.host.Leads sink.description 1 → sink.pending = [] := nomatch isOpen
  let opened : Stage :=
    { sampleNotes with
      world := sampleNotesOpened, openedWrites := [{ path := "/notes", pipe := ⟨0⟩ }] }
  have registered := (@RunOf.nil (Alone ⟨0⟩ "/notes" 1) opened).snoc
    (.registerWrite List.mem_cons_self) (.of_sinks (Nat.le_refl _) nofun nofun)
  have lent := registered.snoc (@Step.lendWrite _ ⟨1⟩ _ rfl) (.of_sinks (Nat.le_refl _) nofun nofun)
  have run := lent.snoc (@Step.write _ ⟨0⟩ [7] _ _ List.mem_cons_self rfl)
    (.of_sinks (Nat.le_refl _) nofun (fun _ _ _ same => by cases same; rfl))
  have channels := RunOf.file_channel new grounded .nil sampleNotes_acquireWrite found regular idle run
  exact ⟨new, grounded, sampleNotes_acquireWrite, found, regular, idle, _, _, run,
    channels.holds.closedWrite ⟨1⟩ rfl⟩

end Stage

end AlgorithmDriver

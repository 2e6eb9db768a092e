import AlgorithmDriver.Host.Schedule

/-!
# What can become of the host

All that can become of the host when somebody reads or writes, and when a process takes a step.  A
relation between two states of the host is kept by every step once it is kept in each of these cases.

* `Host.Reads`, `Host.Writes` — what comes of a read and of a write (`read_reads`, `write_writes`).
* `Host.Adjusts` — signals, waiting and arrangements change at most one process, which does the same
  and has the same descriptors afterwards (`send_adjusts`, `tryWait_adjusts`, `awaitChild_adjusts`).
* `Host.Replies` — what the host does when it replies to a process (`reply_replies`).
* `Host.Steps` — what a step of a process does (`step_steps`).
-/

namespace AlgorithmDriver

/-- The process does the same and has the same descriptors.  That it was waited for, or that a signal
will end it, is not forgotten. -/
structure Process.Kept (p q : Process) : Prop where
  activity : q.activity = p.activity
  descriptors : q.descriptors = p.descriptors
  reaped : p.reaped = true → q.reaped = true
  fatal : p.fatal.isSome = true → q.fatal.isSome = true

namespace Host

variable {host after : Host} {n : Nat} {p : Process} {r : Reply}

/-! ## Reading and writing -/

/-- What comes of reading at most `count` bytes: the answer, and the host. -/
inductive Reads (host : Host) (n count : Nat) : Except Errno Bytes → Host → Prop
  | unknown (missing : host.descriptions[n]? = none) : Reads host n count (.error .badDescriptor) host
  | failed {d : Description} {node : Nat} {e : Errno} (found : host.descriptions[n]? = some d)
      (object : d.object = .node node) (refused : host.readNode node d.offset count = .error e) :
      Reads host n count (.error e) host
  | node {d : Description} {node : Nat} {bytes : Bytes} (found : host.descriptions[n]? = some d)
      (object : d.object = .node node) (content : host.readNode node d.offset count = .ok bytes) :
      Reads host n count (.ok bytes)
        (host.setDescription n { d with offset := d.offset + bytes.length })
  | ended {d : Description} {pipe : Nat} (found : host.descriptions[n]? = some d)
      (object : d.object = .readEnd pipe) (empty : (host.pipes[pipe]?).getD [] = [])
      (last : count = 0 ∨ host.hasWriter pipe = false) : Reads host n count (.ok []) host
  | pipe {d : Description} {pipe : Nat} (found : host.descriptions[n]? = some d)
      (object : d.object = .readEnd pipe) (held : (host.pipes[pipe]?).getD [] ≠ []) :
      Reads host n count (.ok (((host.pipes[pipe]?).getD []).take count))
        { host with pipes := host.pipes.set pipe (((host.pipes[pipe]?).getD []).drop count) }
  | wrongEnd {d : Description} {pipe : Nat} (found : host.descriptions[n]? = some d)
      (object : d.object = .writeEnd pipe) : Reads host n count (.error .badDescriptor) host

theorem read_reads {count : Nat} {answer : Except Errno Bytes}
    (h : host.read n count = some (answer, after)) : host.Reads n count answer after := by
  unfold read at h
  split at h
  · rename_i missing
    cases h
    exact .unknown missing
  · rename_i d found
    split at h
    · rename_i node object
      split at h
      · rename_i refused
        cases h
        exact .failed found object refused
      · rename_i content
        cases h
        exact .node found object content
    · rename_i pipe object
      dsimp only at h
      split at h
      · rename_i empty
        split at h
        · rename_i last
          cases h
          refine .ended found object (List.isEmpty_iff.1 empty) (last.imp_right fun none => ?_)
          simpa using none
        · cases h
      · rename_i held
        cases h
        exact .pipe found object fun empty => held (List.isEmpty_iff.2 empty)
    · rename_i pipe object
      cases h
      exact .wrongEnd found object

/-- Where a write through a description begins in its file. -/
def writeOffset (host : Host) (d : Description) (node : Nat) : Nat :=
  if d.appends then host.sizeOf node else d.offset

/-- What comes of writing: the answer, and the host. -/
inductive Writes (host : Host) (n : Nat) (data : Bytes) : Except Errno Nat → Host → Prop
  | unknown (missing : host.descriptions[n]? = none) : Writes host n data (.error .badDescriptor) host
  | failed {d : Description} {node : Nat} {e : Errno} (found : host.descriptions[n]? = some d)
      (object : d.object = .node node)
      (refused : host.writeNode node (host.writeOffset d node) data = .error e) :
      Writes host n data (.error e) host
  | node {d : Description} {node : Nat} {files : FileTree} (found : host.descriptions[n]? = some d)
      (object : d.object = .node node)
      (written : host.writeNode node (host.writeOffset d node) data = .ok { host with files }) :
      Writes host n data (.ok data.length)
        ({ host with files }.setDescription n
          { d with offset := host.writeOffset d node + data.length })
  | nothing {d : Description} {pipe : Nat} (found : host.descriptions[n]? = some d)
      (object : d.object = .writeEnd pipe) (empty : data = []) : Writes host n data (.ok 0) host
  | broken {d : Description} {pipe : Nat} (found : host.descriptions[n]? = some d)
      (object : d.object = .writeEnd pipe) (unread : host.hasReader pipe = false) :
      Writes host n data (.error .brokenPipe) host
  | pipe {d : Description} {pipe taken : Nat} (found : host.descriptions[n]? = some d)
      (object : d.object = .writeEnd pipe) (reader : host.hasReader pipe = true)
      (fits : taken =
        portion data.length (pipeCapacity - ((host.pipes[pipe]?).getD []).length)) (any : taken ≠ 0) :
      Writes host n data (.ok taken)
        { host with
          pipes := host.pipes.set pipe ((host.pipes[pipe]?).getD [] ++ data.take taken) }
  | wrongEnd {d : Description} {pipe : Nat} (found : host.descriptions[n]? = some d)
      (object : d.object = .readEnd pipe) : Writes host n data (.error .badDescriptor) host

/-- Writing to a file changes nothing else. -/
theorem writeNode_eq_ok {node offset : Nat} {data : Bytes}
    (h : host.writeNode node offset data = .ok after) : ∃ files, after = { host with files } := by
  unfold writeNode at h
  split at h
  · cases h
    exact ⟨_, rfl⟩
  · cases h
  · cases h
  · cases h
    exact ⟨host.files, rfl⟩

theorem write_writes {data : Bytes} {answer : Except Errno Nat}
    (h : host.write n data = some (answer, after)) : host.Writes n data answer after := by
  unfold write at h
  split at h
  · rename_i missing
    cases h
    exact .unknown missing
  · rename_i d found
    split at h
    · rename_i node object
      dsimp only at h
      split at h
      · rename_i refused
        cases h
        exact .failed found object refused
      · rename_i written
        obtain ⟨files, rfl⟩ := writeNode_eq_ok written
        cases h
        exact .node found object written
    · rename_i pipe object
      split at h
      · rename_i empty
        cases h
        exact .nothing found object (List.isEmpty_iff.1 empty)
      · split at h
        · rename_i unread
          cases h
          refine .broken found object ?_
          simpa using unread
        · rename_i reader
          dsimp only at h
          split at h
          · cases h
          · rename_i any
            cases h
            refine .pipe found object ?_ rfl any
            simpa using reader
    · rename_i pipe object
      cases h
      exact .wrongEnd found object

/-! ## What is noted of a process -/

/-- Nothing changes, or process `n` does and is kept. -/
inductive Adjusts (host : Host) (n : Nat) : Host → Prop
  | nothing : Adjusts host n host
  | process {p q : Process} (found : host.process? n = some p) (kept : p.Kept q) :
      Adjusts host n (host.setProcess n q)

theorem send_adjusts (host : Host) (n : Nat) (signal : Signal) :
    host.Adjusts n (host.send n signal) := by
  unfold send
  split
  · exact .nothing
  · rename_i p found
    split
    · exact .nothing
    · split
      · exact .nothing
      · exact .process found ⟨rfl, rfl, id, id⟩
      · split
        · refine .process found ⟨rfl, rfl, id, fun fatal => ?_⟩
          exact Option.isSome_or.trans (by simp [fatal])
        · exact .nothing

theorem tryWait_adjusts (host : Host) (n : Nat) : host.Adjusts n (host.tryWait n).2 := by
  unfold tryWait
  split
  · rename_i found
    split
    · exact .process found ⟨rfl, rfl, fun _ => rfl, id⟩
    · exact .nothing
  · exact .nothing

theorem awaitChild_adjusts {child : Option Nat} (h : host.awaitChild n child = some (r, after)) :
    ∃ m, host.Adjusts m after := by
  unfold awaitChild at h
  dsimp only at h
  split at h
  · cases h
    exact ⟨n, .nothing⟩
  · obtain ⟨⟨q, m⟩, mem, h⟩ := List.exists_of_findSome?_eq_some h
    have found : host.process? m = some q :=
      List.mk_mem_zipIdx_iff_getElem?.1 (List.mem_filter.1 mem).1
    split at h
    · cases h
      exact ⟨m, .process found ⟨rfl, rfl, fun _ => rfl, id⟩⟩
    · cases h

/-! ## Replies -/

/-- What the host does when it replies to process `n`, which is `p`. -/
inductive Replies (host : Host) (n : Nat) (p : Process) : Host → Prop
  | adjusts {m : Nat} {after : Host} (adjusts : host.Adjusts m after) : Replies host n p after
  | read {descriptor m count : Nat} {answer : Except Errno Bytes} {after : Host}
      (denotes : denoted p descriptor = some m)
      (done : host.read m count = some (answer, after)) : Replies host n p after
  | write {descriptor m : Nat} {data : Bytes} {answer : Except Errno Nat} {after : Host}
      (denotes : denoted p descriptor = some m)
      (done : host.write m data = some (answer, after)) : Replies host n p after
  /-- Who writes to a pipe that nobody reads is sent a signal. -/
  | signalled {descriptor m : Nat} {data : Bytes} {after : Host}
      (denotes : denoted p descriptor = some m)
      (done : host.write m data = some (.error .brokenPipe, after)) :
      Replies host n p (after.send n Signal.pipe)
  | opened {path : String} {mode : OpenMode} {m : Nat} {after : Host}
      (done : host.openFile p.directory path mode = .ok (m, after)) :
      Replies host n p (after.bindDescriptor n (freeDescriptor p 0) m)
  | closed (descriptor : Nat) : Replies host n p (host.closeDescriptor n descriptor)
  | duplicated {source m : Nat} (target : Nat) (denotes : denoted p source = some m) :
      Replies host n p (((host.hold m).closeDescriptor n target).bindDescriptor n target m)
  | saved {source m : Nat} (least : Nat) (denotes : denoted p source = some m) :
      Replies host n p ((host.hold m).bindDescriptor n (freeDescriptor p least) m)
  | piped (first second : Nat) :
      Replies host n p ((host.makePipe.2.2.bindDescriptor n first host.makePipe.1).bindDescriptor n
        second host.makePipe.2.1)

theorem Replies.nothing : host.Replies n p host := .adjusts (.nothing (n := n))

theorem withDescription_replies {descriptor : Nat} {reply : Nat → Option (Reply × Host)}
    (h : host.withDescription p descriptor reply = some (r, after))
    (each : ∀ m, denoted p descriptor = some m → reply m = some (r, after) →
      host.Replies n p after) : host.Replies n p after := by
  unfold withDescription at h
  split at h
  · cases h
    exact .nothing
  · rename_i m denotes
    exact each m denotes h

theorem reply_replies {request : Request} (found : host.process? n = some p)
    (h : host.reply n p request = some (r, after)) : host.Replies n p after := by
  cases request with
  | read descriptor count =>
    refine withDescription_replies h fun m denotes answered => ?_
    obtain ⟨⟨answer, between⟩, done, answered⟩ := Option.map_eq_some_iff.1 answered
    cases answer <;> cases answered <;> exact .read denotes done
  | write descriptor data =>
    refine withDescription_replies h fun m denotes answered => ?_
    obtain ⟨⟨answer, between⟩, done, answered⟩ := Option.map_eq_some_iff.1 answered
    split at answered <;> rename_i same <;> cases same <;> cases answered
    · exact .write denotes done
    · exact .signalled denotes done
    · exact .write denotes done
  | openFile path mode =>
    simp only [reply] at h
    split at h
    · cases h
      exact .nothing
    · rename_i done
      cases h
      exact .opened done
  | close descriptor =>
    cases h
    exact .closed descriptor
  | duplicate source target =>
    refine withDescription_replies h fun m denotes answered => ?_
    split at answered
    · cases answered
      exact .nothing
    · cases answered
      exact .duplicated target denotes
  | save source least =>
    refine withDescription_replies h fun m denotes answered => ?_
    cases answered
    exact .saved least denotes
  | pipe =>
    cases h
    exact .piped _ _
  | await child =>
    obtain ⟨m, adjusts⟩ := awaitChild_adjusts h
    exact .adjusts adjusts
  | send target signal =>
    simp only [reply] at h
    split at h
    · cases h
      exact .nothing
    · cases h
      exact .adjusts (send_adjusts host target signal)
  | arrange signal disposition =>
    simp only [reply] at h
    split at h
    · cases h
      exact .nothing
    · cases h
      exact .adjusts (.process found ⟨rfl, rfl, id, id⟩)
  | caughtSignals =>
    cases h
    exact .adjusts (.process found ⟨rfl, rfl, id, id⟩)
  | enter path =>
    simp only [reply] at h
    split at h
    · cases h
      exact .nothing
    · split at h
      · cases h
        exact .adjusts (.process found ⟨rfl, rfl, id, id⟩)
      · cases h
        exact .nothing
  | inspect path =>
    simp only [reply] at h
    split at h <;> cases h <;> exact .nothing
  | listDirectory path =>
    simp only [reply] at h
    split at h
    · cases h
      exact .nothing
    · split at h <;> cases h <;> exact .nothing
  | sleep milliseconds =>
    simp only [reply] at h
    split at h
    · split at h
      · cases h
        exact .nothing
      · cases h
    · split at h
      · cases h
        exact .adjusts (.process found ⟨rfl, rfl, id, id⟩)
      · cases h
  | ownNumber | directory | pause | fork | execute =>
    cases h
    exact .nothing

/-! ## Steps -/

/-- What a step of process `n`, which is `p`, does. -/
inductive Steps (host : Host) (n : Nat) (p : Process) : Host → Prop
  | delivered : Steps host n p (host.deliver n)
  | finished (status : ExitStatus) : Steps host n p (host.finish n status)
  | forked (next : Reply → Program Nat) : Steps host n p (host.fork n p next)
  | replaced (program : Program Nat) : Steps host n p (host.replace n program)
  | resumed {between : Host} (replied : host.Replies n p between) (program : Program Nat) :
      Steps host n p (between.resume n program)
  /-- The process will sleep. -/
  | adjusts {after : Host} (adjusts : host.Adjusts n after) : Steps host n p after

theorem step_steps (h : host.step n = some after) : ∃ p program,
    host.process? n = some p ∧ p.activity = .running program ∧ host.Steps n p after := by
  unfold step at h
  split at h
  · cases h
  · rename_i p found
    split at h
    · cases h
    · rename_i program running
      refine ⟨p, program, found, running, ?_⟩
      split at h
      · cases h
        exact .delivered
      · split at h
        · cases h
          exact .finished _
        · cases h
          exact .forked _
        · split at h
          · cases h
            exact .replaced _
          · cases h
            exact .resumed .nothing _
        · split at h
          · rename_i replied
            cases h
            exact .resumed (reply_replies found replied) _
          · split at h
            · cases h
              exact .adjusts (.process found ⟨rfl, rfl, id, id⟩)
            · cases h

end Host

end AlgorithmDriver

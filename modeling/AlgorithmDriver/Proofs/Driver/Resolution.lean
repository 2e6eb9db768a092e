import AlgorithmDriver.Driver.Config
import AlgorithmDriver.Proofs.Host.Path

/-!
# Which program an algorithm gets

A registered algorithm gets the program of its last registration, as the search for it finds it.
Any other is looked up in the directory of the configuration, and only there.

* `Config.resolve_confined`: an algorithm that is not registered is found exactly when the directory
  has a regular file of its name.
* `Config.runs_checked_file`: the file that was looked at is the one that is run, unless the
  directory is given by an empty text.  Then the name is searched for.
-/

namespace AlgorithmDriver

variable {config : Config} {host : Host} {name : String} {command : Command}

/-- A host with two programs of one name: one where the driver works, and one in its search path. -/
def Host.sample : Host where
  files := ⟨[.directory 0 [("tool", 1), ("bin", 2)], .program fun _ => .result 3,
    .directory 0 [("tool", 3)], .program fun _ => .result 4]⟩
  environment := [(Bytes.ofText "PATH", Bytes.ofText "/bin")]

theorem Host.sample_find {path : String} (named : path ≠ "")
    (short : ¬ path.utf8ByteSize ≥ FileTree.tooLongPath) (names : Path.names path = ["tool"]) :
    Host.sample.files.find 0 path = .ok 1 := by
  rw [FileTree.find_eq_ok]
  unfold FileTree.locate
  rw [if_neg named, if_neg short, ite_self, names,
    FileTree.walk_of_entry rfl (by decide) (by decide) (by decide +kernel) rfl (by nofun),
    FileTree.walk]

theorem Host.sample_find_bin : Host.sample.files.find 0 "/bin/tool" = .ok 3 := by
  have names : Path.names "/bin/tool" = ["bin", "tool"] := by decide +kernel
  rw [FileTree.find_eq_ok]
  unfold FileTree.locate
  rw [if_neg (by decide), if_neg (by decide +kernel), ite_self, names,
    FileTree.walk_of_entry rfl (by decide) (by decide) (by decide +kernel) rfl (by nofun),
    FileTree.walk_of_entry rfl (by decide) (by decide) (by decide +kernel) rfl (by nofun),
    FileTree.walk]

namespace Config

/-! ## Registrations -/

/-- Registers algorithms one after another. -/
def registerAll (config : Config) (registrations : List (String × Command)) : Config :=
  registrations.foldl (fun config registration => config.register registration.1 registration.2)
    config

theorem lookup_singleton (name other : String) (command : Command) :
    [(other, command)].lookup name = if name = other then some command else none := by
  split_ifs with same
  · simp [same]
  · simp [List.lookup_cons, beq_false_of_ne same]

theorem lookup_register (config : Config) (name other : String) (command : Command) :
    (config.register other command).registrations.lookup name =
      if name = other then some command else config.registrations.lookup name := by
  have rest : (config.registrations.filter (·.1 ≠ other)).lookup name =
      if name = other then none else config.registrations.lookup name := by
    induction config.registrations with
    | nil => split_ifs <;> rfl
    | cons registration registrations ih =>
      obtain ⟨first, command⟩ := registration
      by_cases same : name = first <;> by_cases replaced : first = other <;> grind
  unfold register
  rw [List.lookup_append, rest, lookup_singleton]
  split_ifs <;> simp

/-- Of several registrations of a name, the last one counts. -/
theorem lookup_registerAll (config : Config) (name : String)
    (registrations : List (String × Command)) :
    (config.registerAll registrations).registrations.lookup name =
      (registrations.reverse.lookup name).or (config.registrations.lookup name) := by
  induction registrations generalizing config with
  | nil => rfl
  | cons registration registrations ih =>
    have step := ih (config.register registration.1 registration.2)
    rw [lookup_register] at step
    rw [List.reverse_cons, List.lookup_append, Option.or_assoc, lookup_singleton]
    refine step.trans (congrArg _ ?_)
    split_ifs <;> rfl

/-- The command of a registered algorithm.  Nothing is looked up in the directory. -/
theorem resolve_of_registered (registered : config.registrations.lookup name = some command) :
    config.resolve host name =
      match host.which? command.program with
      | some program => .ok { program, arguments := command.arguments }
      | none => .error (.notFound ("program " ++ Text.quoted command.program)) := by
  unfold resolve
  cases found : host.which? command.program <;> simp only [registered, found]

/-! ## The directory of the configuration -/

/-- The directory of the configuration has a regular file of the given name. -/
structure Offers (config : Config) (host : Host) (name directory : String) : Prop where
  configured : config.directory = some directory
  proper : Path.IsEntryName name
  speakable : '\x00' ∉ name.toList
  regular : ∃ number, host.files.RegularAt host.directory (Path.join directory name) number

/-- What the lookup in the directory tests. -/
theorem offers_iff {directory : String} (configured : config.directory = some directory) :
    config.Offers host name directory ↔ Path.isPlainName name = true ∧
      host.files.isFile host.directory (Path.join directory name) = true := by
  constructor
  · intro offer
    exact ⟨((Path.isEntryName_iff name).1 offer.proper).1, (FileTree.isFile_iff ..).2 offer.regular⟩
  · rintro ⟨plain, isFile⟩
    have whole : '/' ∉ name.toList := fun slash =>
      absurd isFile (by rw [FileTree.isFile_join_of_slash plain slash]; exact Bool.false_ne_true)
    obtain ⟨number, regular⟩ := (FileTree.isFile_iff ..).1 isFile
    obtain ⟨before, joined⟩ := Path.join_eq_append directory name
    refine ⟨configured, (Path.isEntryName_iff name).2 ⟨plain, whole⟩, fun nul => ?_, number, regular⟩
    exact regular.speakable (by simp [joined, nul])

/-- An algorithm that is not registered is found when the directory has a file of its name, and
otherwise it is not found. -/
theorem resolve_cases (unregistered : config.registrations.lookup name = none) :
    (∃ directory, config.Offers host name directory ∧
      config.resolve host name = .ok { program := Path.join directory name }) ∨
    (∀ directory, ¬ config.Offers host name directory) ∧
      ∃ what, config.resolve host name = .error (.notFound what) := by
  unfold resolve
  rw [unregistered]
  cases configured : config.directory with
  | none =>
    refine .inr ⟨fun directory offer => ?_, _, rfl⟩
    exact nomatch configured.symm.trans offer.configured
  | some directory =>
    have only : ∀ other, config.Offers host name other → other = directory :=
      fun other offer => Option.some.inj (offer.configured.symm.trans configured)
    dsimp only
    split_ifs with plain isFile
    · refine .inr ⟨fun other offer => ?_, _, rfl⟩
      cases only other offer
      have := ((offers_iff configured).1 offer).1
      simp_all
    · exact .inl ⟨directory, (offers_iff configured).2 ⟨by simpa using plain, isFile⟩, rfl⟩
    · refine .inr ⟨fun other offer => ?_, _, rfl⟩
      cases only other offer
      exact isFile ((offers_iff configured).1 offer).2

/-- The command of an algorithm that is not registered. -/
theorem resolve_eq_ok_iff (unregistered : config.registrations.lookup name = none) :
    config.resolve host name = .ok command ↔
      ∃ directory, config.Offers host name directory ∧
        command = { program := Path.join directory name } := by
  rcases @resolve_cases config host name unregistered with
    ⟨directory, offer, found⟩ | ⟨missing, what, failed⟩
  · rw [found]
    constructor
    · exact fun same => ⟨directory, offer, (Except.ok.inj same).symm⟩
    · rintro ⟨other, offer', rfl⟩
      rw [Option.some.inj (offer.configured.symm.trans offer'.configured)]
  · rw [failed]
    exact ⟨nofun, fun ⟨directory, offer, _⟩ => absurd offer (missing directory)⟩

/-- A program of the directory is found under its name. -/
theorem resolve_of_program {directory path : String} {number : Nat} {main : Main}
    (unregistered : config.registrations.lookup name = none)
    (configured : config.directory = some directory) (proper : Path.IsEntryName name)
    (joined : Path.join directory name = path) (speakable : '\x00' ∉ path.toList)
    (found : host.files.find host.directory path = .ok number)
    (kind : host.files.get? number = some (.program main)) :
    config.resolve host name = .ok { program := path } := by
  subst joined
  have isFile := (FileTree.isFile_iff ..).2 ⟨number, speakable, found, _, kind, .program main⟩
  have offer := (offers_iff configured).2 ⟨((Path.isEntryName_iff name).1 proper).1, isFile⟩
  exact (resolve_eq_ok_iff unregistered).2 ⟨directory, offer, rfl⟩

/-- An algorithm that is not registered is found exactly when the directory of the configuration has
a regular file of its name, which is then the program, without arguments.  Plain names are those of
entries, with slashes and single dots behind them; one that has a slash leads to no regular file.  A
registered algorithm gets the program that the search for it finds, with the arguments of its last
registration. -/
theorem resolve_confined (config : Config) (host : Host) (name : String) :
    (config.registrations.lookup name = none →
      (∀ command, config.resolve host name = .ok command ↔
        ∃ directory, config.Offers host name directory ∧
          command = { program := Path.join directory name }) ∧
      ((∀ directory, ¬ config.Offers host name directory) →
        ∃ what, config.resolve host name = .error (.notFound what))) ∧
    (Path.isPlainName name = true ↔
      ∃ entry rest, Path.IsEntryName entry ∧ (∀ piece ∈ rest, Path.IsRedundant piece) ∧
        name = Path.followed entry rest) ∧
    (Path.isPlainName name = true → '/' ∈ name.toList →
      ∀ base, host.files.isFile host.directory (Path.join base name) = false) ∧
    (∀ command, config.registrations.lookup name = some command →
      config.resolve host name =
        match host.which? command.program with
        | some program => .ok { program, arguments := command.arguments }
        | none => .error (.notFound ("program " ++ Text.quoted command.program))) ∧
    ∀ registrations, (config.registerAll registrations).registrations.lookup name =
      (registrations.reverse.lookup name).or (config.registrations.lookup name) := by
  refine ⟨fun unregistered => ⟨fun command => resolve_eq_ok_iff unregistered, fun missing => ?_⟩,
    Path.isPlainName_iff name, fun plain slash base => ?_, fun command => resolve_of_registered,
    lookup_registerAll config name⟩
  · rcases @resolve_cases config host name unregistered with ⟨directory, offer, -⟩ | ⟨-, failed⟩
    · exact absurd offer (missing directory)
    · exact failed
  · exact FileTree.isFile_join_of_slash plain slash base host.files host.directory

/-- A configuration with a registered algorithm and a directory for the others. -/
def sample : Config where
  directory := some "/"
  registrations := [("listed", { program := "tool", arguments := ["a", "b"] })]

theorem sample_offers : sample.Offers Host.sample "tool" "/" := by
  have joined : Path.join "/" "tool" = "/tool" := by decide +kernel
  have regular : Host.sample.files.RegularAt 0 "/tool" 1 :=
    ⟨by decide, Host.sample_find (by decide) (by decide +kernel) (by decide +kernel), _, rfl,
      .program _⟩
  exact ⟨rfl, ⟨by decide, by decide, by decide, by decide⟩, by decide, 1, joined ▸ regular⟩

theorem sample_which? : Host.sample.which? "tool" = some "/bin/tool" := by
  have candidates : Host.sample.candidates "tool" = ["/bin/tool"] := by decide +kernel
  have executable : Host.sample.files.isExecutable 0 "/bin/tool" = true := by
    unfold FileTree.isExecutable FileTree.node?
    rw [if_neg (by decide), Host.sample_find_bin]
    rfl
  unfold Host.which?
  rw [candidates]
  exact List.find?_cons_of_pos executable

/-- A file of the directory, a plain name with a slash behind it, and a registered algorithm. -/
theorem resolve_confined_sample :
    sample.registrations.lookup "tool" = none ∧
    sample.resolve Host.sample "tool" = .ok { program := "/tool" } ∧
    Path.isPlainName "tool/." = true ∧
    (∃ what, sample.resolve Host.sample "tool/." = .error (.notFound what)) ∧
    sample.registrations.lookup "listed" = some { program := "tool", arguments := ["a", "b"] } ∧
    sample.resolve Host.sample "listed" =
      .ok { program := "/bin/tool", arguments := ["a", "b"] } := by
  have unregistered : sample.registrations.lookup "tool" = none := by decide
  have plain : Path.isPlainName "tool/." = true := by decide +kernel
  have registered : sample.registrations.lookup "listed" =
      some { program := "tool", arguments := ["a", "b"] } := by decide
  have joined : Path.join "/" "tool" = "/tool" := by decide +kernel
  obtain ⟨found, -, -, -⟩ := resolve_confined sample Host.sample "tool"
  obtain ⟨slashed, -, stops, -⟩ := resolve_confined sample Host.sample "tool/."
  obtain ⟨-, -, -, kept, -⟩ := resolve_confined sample Host.sample "listed"
  refine ⟨unregistered, ?_, plain, ?_, registered, ?_⟩
  · exact ((found unregistered).1 _).2 ⟨"/", sample_offers, by rw [joined]⟩
  · refine (slashed (by decide)).2 fun directory offer => ?_
    obtain ⟨number, regular⟩ := offer.regular
    have stopped := stops plain (by decide) directory
    rw [(FileTree.isFile_iff ..).2 ⟨number, regular⟩] at stopped
    cases stopped
  · rw [kept _ registered, sample_which?]

end Config

/-! ## Running what was found -/

namespace Host

/-- The program that executing a node runs.  `path` is what it was reached by. -/
def loadNode (host : Host) (directory number : Nat) (path : String) (arguments : Arguments) :
    Except Errno (Program Nat) :=
  match host.files.get? number with
  | some (.program main) =>
    if fits arguments then .ok (main arguments) else .error .argumentsTooLong
  | some (.file content true) =>
    if !fits arguments then .error .argumentsTooLong
    else
      match Script.interpreter? content with
      | none => .error .badFormat
      | some (name, argument) =>
        host.load directory (interpreterDepth - 1) (Bytes.textOfChars (Bytes.toChars name))
          { arguments with
            values := name :: argument.toList ++ Bytes.ofText path :: arguments.values.drop 1 }
  | _ => .error .permissionDenied

/-- To execute a path is to execute the node that it leads to. -/
theorem loadFile_eq_loadNode {directory number : Nat} {path : String}
    (found : host.files.find directory path = .ok number) (arguments : Arguments) :
    host.loadFile directory path arguments = host.loadNode directory number path arguments := by
  unfold loadFile interpreterDepth load loadNode
  rw [found]
  rfl

/-- A program of the host runs itself. -/
theorem loadNode_of_program {number : Nat} {main : Main} {arguments : Arguments}
    (kind : host.files.get? number = some (.program main)) (suits : fits arguments = true)
    (directory : Nat) (path : String) :
    host.loadNode directory number path arguments = .ok (main arguments) := by
  unfold loadNode
  rw [kind]
  exact if_pos suits

/-- A command name with a slash is a path. -/
theorem loadCommand_of_slash {program : String} (slash : '/' ∈ program.toList) (directory : Nat)
    (search : String) (arguments : Arguments) :
    host.loadCommand directory search program arguments =
      host.loadFile directory program arguments := by
  unfold loadCommand
  rw [if_pos (by simpa using slash)]

/-- A program of the host that a path leads to runs itself. -/
theorem loadCommand_of_program {directory number : Nat} {path : String} {main : Main}
    {arguments : Arguments} (slash : '/' ∈ path.toList)
    (found : host.files.find directory path = .ok number)
    (kind : host.files.get? number = some (.program main)) (suits : fits arguments = true)
    (search : String) :
    host.loadCommand directory search path arguments = .ok (main arguments) := by
  rw [loadCommand_of_slash slash, loadFile_eq_loadNode found]
  exact loadNode_of_program kind suits directory path

/-- An entry that a relative walk finds has no name that is too long. -/
theorem not_tooLong_of_find {tree : FileTree} {directory number : Nat} (proper : Path.IsEntryName name)
    (found : tree.find directory name = .ok number) :
    ¬ name.utf8ByteSize > FileTree.longestName := by
  intro long
  obtain ⟨start, walked⟩ := FileTree.walk_of_find found
  rw [proper.names_eq] at walked
  cases here : tree.get? start with
  | none =>
    rw [FileTree.walk_of_not_directory (by simp [here])] at walked
    cases walked
  | some node =>
    cases node with
    | directory parent entries =>
      rw [FileTree.walk_of_directory here, if_neg proper.ne_dot, if_neg proper.ne_dots,
        if_pos long] at walked
      cases walked
    | file | program | link | device =>
      rw [FileTree.walk_of_not_directory (by simp [here])] at walked
      cases walked

/-- The name of an entry is no path: it is searched for. -/
theorem loadCommand_of_entry (proper : Path.IsEntryName name)
    (short : ¬ name.utf8ByteSize > FileTree.longestName) (directory : Nat) (search : String)
    (arguments : Arguments) :
    host.loadCommand directory search name arguments =
      host.loadFirst directory name arguments false (Path.searchEntries search) := by
  unfold loadCommand
  rw [if_neg (by simpa using proper.whole), if_neg proper.ne_empty, if_neg short]

end Host

/-- The program is a path that leads to a regular file, and this file is what is run, whatever the
search path is. -/
def Command.RunsFile (command : Command) (host : Host) : Prop :=
  '/' ∈ command.program.toList ∧ ∃ number,
    host.files.RegularAt host.directory command.program number ∧ ∀ search arguments,
      host.loadCommand host.directory search command.program arguments =
        host.loadNode host.directory number command.program arguments

namespace Config

/-- The file that was looked at is the one that is run, exactly when the directory is not given by an
empty text.  With an empty text the file was looked for where the driver works, while the name is
searched for when it is run. -/
theorem runs_checked_file (unregistered : config.registrations.lookup name = none)
    (resolved : config.resolve host name = .ok command) :
    (command.RunsFile host ↔ config.directory ≠ some "") ∧
    (config.directory = some "" → command.program = name ∧ ∀ search arguments,
      host.loadCommand host.directory search command.program arguments =
        host.loadFirst host.directory name arguments false (Path.searchEntries search)) := by
  obtain ⟨directory, offer, rfl⟩ := (resolve_eq_ok_iff unregistered).1 resolved
  obtain ⟨number, regular⟩ := offer.regular
  have given : config.directory = some "" ↔ directory = "" := by simp [offer.configured]
  refine ⟨?_, fun empty => ?_⟩
  · rw [ne_eq, given]
    refine ⟨fun runs => (offer.proper.slash_mem_join directory).1 runs.1, fun apart => ?_⟩
    have slash := (offer.proper.slash_mem_join directory).2 apart
    refine ⟨slash, number, regular, fun search arguments => ?_⟩
    rw [Host.loadCommand_of_slash slash, Host.loadFile_eq_loadNode regular.found]
  · obtain rfl := given.1 empty
    have bare : Path.join "" name = name := by simp [Path.join]
    dsimp only
    rw [bare] at regular ⊢
    exact ⟨rfl, fun search arguments => Host.loadCommand_of_entry offer.proper
      (Host.not_tooLong_of_find offer.proper regular.found) _ search arguments⟩

/-- A file of the directory `/`, whose command is run from where it was found. -/
theorem runs_checked_file_sample :
    sample.registrations.lookup "tool" = none ∧
    sample.resolve Host.sample "tool" = .ok { program := "/tool" } ∧
    Command.RunsFile { program := "/tool" } Host.sample := by
  have unregistered : sample.registrations.lookup "tool" = none := by decide
  have joined : Path.join "/" "tool" = "/tool" := by decide +kernel
  have resolved : sample.resolve Host.sample "tool" = .ok { program := "/tool" } :=
    (resolve_eq_ok_iff unregistered).2 ⟨"/", sample_offers, by rw [joined]⟩
  have runs := (runs_checked_file unregistered resolved).1.2 (by decide)
  exact ⟨unregistered, resolved, runs⟩

/-- With a directory that is given by an empty text, one file is looked at and another is run. -/
theorem runs_other_file :
    Config.resolve { directory := some "" } Host.sample "tool" = .ok { program := "tool" } ∧
    ¬ Command.RunsFile { program := "tool" } Host.sample ∧
    ∃ arguments, Host.sample.files.RegularAt 0 "tool" 1 ∧
      Host.sample.loadNode 0 1 "tool" arguments = .ok (.result 3) ∧
      Host.sample.loadCommand 0 Host.sample.searchPath "tool" arguments = .ok (.result 4) := by
  let config : Config := { directory := some "" }
  let arguments : Arguments := { values := [Bytes.ofText "tool"], environment := [] }
  have fits : Host.fits arguments = true := by decide +kernel
  have here : Host.sample.files.get? 1 = some (.program fun _ => .result 3) := rfl
  have there : Host.sample.files.get? 3 = some (.program fun _ => .result 4) := rfl
  have joined : Path.join "" "tool" = "tool" := by decide +kernel
  have regular : Host.sample.files.RegularAt 0 "tool" 1 :=
    ⟨by decide, Host.sample_find (by decide) (by decide +kernel) (by decide +kernel), _, rfl,
      .program _⟩
  have offer : config.Offers Host.sample "tool" "" :=
    ⟨rfl, sample_offers.proper, by decide, 1, joined ▸ regular⟩
  refine ⟨(@resolve_eq_ok_iff config Host.sample "tool" _ rfl).2 ⟨"", offer, by rw [joined]⟩,
    fun runs => absurd runs.1 (by decide), arguments, regular,
    Host.loadNode_of_program here fits 0 "tool", ?_⟩
  have entries : Path.searchEntries Host.sample.searchPath = ["/bin"] := by decide +kernel
  have entry : Path.join "/bin" "tool" = "/bin/tool" := by decide +kernel
  have loaded : Host.sample.loadFile 0 "/bin/tool" arguments = .ok (.result 4) :=
    (Host.loadFile_eq_loadNode Host.sample_find_bin arguments).trans
      (Host.loadNode_of_program there fits 0 "/bin/tool")
  rw [Host.loadCommand_of_entry offer.proper (by decide +kernel), entries]
  unfold Host.loadFirst
  rw [entry, loaded]

end Config

end AlgorithmDriver

import AlgorithmDriver.CommandLine.Basic
import AlgorithmDriver.Proofs.Cpp.Grammar
import AlgorithmDriver.Proofs.Json.RoundTrip

/-!
# What is printed for the file of an interface

Checking an interface and printing its declarations read the file in the same way and print only
when all of it was understood.  So the standard output holds either nothing or declarations that the
grammar derives, whatever the file holds.

* `Host.Appends.write` — writing to an open file that appends adds to the file, and to no other.
* `perform_lint`, `perform_generate` — both actions in terms of the interface at a path.
* `generate_prints_declarations` — only derived declarations are ever printed.
-/

namespace AlgorithmDriver

/-! ## Files that are written to their ends -/

namespace Host

/-- The description writes to the end of the file, which holds the content. -/
structure Appends (host : Host) (description file : Nat) (content : Bytes) : Prop where
  opened : ∃ d, host.descriptions[description]? = some d ∧ d.object = .node file ∧ d.appends = true
  holds : ∃ executable, host.files.get? file = some (.file content executable)

variable {host : Host} {description file : Nat} {content : Bytes}

theorem Appends.write (h : host.Appends description file content) (data : Bytes) :
    ∃ host', host.write description data = some (.ok data.length, host') ∧
      host'.Appends description file (content ++ data) ∧
      ∀ other file' content', file' ≠ file → host.Appends other file' content' →
        host'.Appends other file' content' := by
  obtain ⟨⟨d, hd, hobject, happends⟩, executable, hfile⟩ := h
  have hlt : description < host.descriptions.length := (List.getElem?_eq_some_iff.1 hd).1
  have hflt : file < host.files.nodes.length := (List.getElem?_eq_some_iff.1 hfile).1
  have hsize : host.sizeOf file = content.length := by rw [sizeOf, hfile]
  let files := host.files.set file (.file (content ++ data) executable)
  have hwrite : host.write description data = some (.ok data.length,
      { host with files }.setDescription description
        { d with offset := content.length + data.length }) := by
    rw [Host.write, hd]
    simp only [hobject, happends, if_true, hsize, writeNode, hfile, overwrite]
    rfl
  refine ⟨_, hwrite, ⟨⟨{ d with offset := content.length + data.length }, ?_, hobject, happends⟩,
    executable, ?_⟩, ?_⟩
  · exact List.getElem?_set_self hlt
  · exact List.getElem?_set_self hflt
  · rintro other file' content' hne ⟨⟨e, he, heobject, heappends⟩, executable', hfile'⟩
    have hother : description ≠ other := by
      rintro rfl
      rw [hd] at he
      cases he
      rw [hobject] at heobject
      cases heobject
      exact hne rfl
    refine ⟨⟨e, ?_, heobject, heappends⟩, executable', ?_⟩
    · exact (List.getElem?_set_ne hother).trans he
    · exact (List.getElem?_set_ne hne.symm).trans hfile'

end Host

/-- A new file is opened to be written to its end, and open files stay what they were. -/
theorem Installation.anonymousFile_appends (host : Host) (content : Bytes) :
    let (file, description, host') := anonymousFile host content
    host'.Appends description file content ∧
      ∀ other file' content', host.Appends other file' content' →
        host'.Appends other file' content' ∧ file' ≠ file := by
  refine ⟨⟨⟨_, List.getElem?_concat_length, rfl, rfl⟩, false, List.getElem?_concat_length⟩, ?_⟩
  rintro other file' content' ⟨⟨d, hd, hobject, happends⟩, executable, hfile⟩
  have hlt : other < host.descriptions.length := (List.getElem?_eq_some_iff.1 hd).1
  have hflt : file' < host.files.nodes.length := (List.getElem?_eq_some_iff.1 hfile).1
  refine ⟨⟨⟨d, ?_, hobject, happends⟩, executable, ?_⟩, Nat.ne_of_lt hflt⟩
  · exact (List.getElem?_append_left hlt).trans hd
  · exact (List.getElem?_append_left hflt).trans hfile

namespace CommandLine

/-! ## Consoles -/

namespace Console

/-- What was written to the two streams of a console. -/
structure Streams (console : Console) (printed complaints : Bytes) : Prop where
  output : console.world.host.Appends console.output console.outputFile printed
  errors : console.world.host.Appends console.world.errors console.errorFile complaints
  distinct : console.outputFile ≠ console.errorFile

theorem streams_ofHost (host : Host) : (ofHost host).Streams [] [] := by
  obtain ⟨houtput, -⟩ := Installation.anonymousFile_appends host []
  obtain ⟨herrors, hothers⟩ :=
    Installation.anonymousFile_appends (Installation.anonymousFile host []).2.2 []
  obtain ⟨hkept, hdistinct⟩ := hothers _ _ _ houtput
  exact ⟨hkept, herrors, hdistinct⟩

variable {console : Console} {printed complaints : Bytes}

theorem Streams.print (h : console.Streams printed complaints) (text : String) :
    (console.print text).Streams (printed ++ Bytes.ofText text) complaints := by
  obtain ⟨host', hwrite, houtput, hothers⟩ := h.output.write (Bytes.ofText text)
  rw [Console.print, Console.write, hwrite]
  exact ⟨houtput, hothers _ _ _ h.distinct.symm h.errors, h.distinct⟩

theorem Streams.complain (h : console.Streams printed complaints) (text : String) :
    (console.complain text).Streams printed (complaints ++ Bytes.ofText text) := by
  obtain ⟨host', hwrite, herrors, hothers⟩ := h.errors.write (Bytes.ofText text)
  rw [Console.complain, Console.write, hwrite]
  exact ⟨hothers _ _ _ h.distinct h.output, herrors, h.distinct⟩

theorem Streams.printed_eq (h : console.Streams printed complaints) :
    console.printed = printed := by
  obtain ⟨executable, hfile⟩ := h.output.holds
  rw [Console.printed, contentOf, hfile]

end Console

/-! ## Interfaces from files -/

/-- Bytes of a text spell the text. -/
theorem text?_ofText (text : String) : Bytes.text? (Bytes.ofText text) = some text := by
  have hbytes : (⟨(Bytes.ofText text).toArray⟩ : ByteArray) = text.toUTF8 := by
    rw [Bytes.ofText, Array.toArray_toList]
  rw [Bytes.text?, hbytes, String.fromUTF8?]
  exact dif_pos text.isValidUTF8

/-- The interface that the file at a path describes. -/
def interfaceAt (host : Host) (path : String) : Except LoadError Interface :=
  match readFile host path with
  | .error failure => .error (.unreadable path failure)
  | .ok content => interfaceOf path content

/-- Only an interface that is valid at every depth and has a name that can be used comes from a
file. -/
theorem valid_of_interfaceAt {host : Host} {path : String} {i : Interface}
    (h : interfaceAt host path = .ok i) : i.Valid ∧ isIdentifier i.name = true := by
  unfold interfaceAt at h
  split at h
  · exact absurd h (by simp)
  · unfold interfaceOf interfaceOfText at h
    split at h
    · exact absurd h (by simp)
    · split at h
      · rename_i hl
        cases h
        exact ⟨Interface.ensures_reader.load hl,
          checkName_eq_ok_iff.1 (Interface.ensures_name.load hl)⟩
      · exact absurd h (by simp)

/-- When a file holds a text, it is the text that decides. -/
theorem interfaceAt_eq_ok_iff {host : Host} {path text : String}
    (h : readFile host path = .ok (Bytes.ofText text)) (i : Interface) :
    interfaceAt host path = .ok i ↔ Interface.reader.load text = .ok i := by
  simp only [interfaceAt, h, interfaceOf, text?_ofText, interfaceOfText]
  cases Interface.reader.load text with
  | ok j => simp
  | error p => simp

/-! ## Actions -/

/-- What is made of an interface is printed, and a failure is said on the other stream. -/
theorem onInterface_eq (console : Console) (path : String) (make : Interface → String) :
    onInterface console path (fun path content => (interfaceOf path content).map make) =
      match interfaceAt console.world.host path with
      | .ok i => (0, console.print (make i))
      | .error e => (failureCode, console.complain (report e.message (some e.cause))) := by
  rw [onInterface, interfaceAt]
  cases readFile console.world.host path with
  | error failure => rfl
  | ok content =>
    cases hi : interfaceOf path content with
    | error e => simp [hi, Except.map]
    | ok i => simp [hi, Except.map]

theorem perform_lint (console : Console) (path : String) :
    perform console (.lint path) =
      match interfaceAt console.world.host path with
      | .ok i => (0, console.print (summary i))
      | .error e => (failureCode, console.complain (report e.message (some e.cause))) :=
  onInterface_eq console path summary

theorem perform_generate (console : Console) (path : String) :
    perform console (.generate path) =
      match interfaceAt console.world.host path with
      | .ok i => (0, console.print (Cpp.renderInterface i))
      | .error e => (failureCode, console.complain (report e.message (some e.cause))) :=
  onInterface_eq console path Cpp.renderInterface

/-- Whatever the file at the path holds, printing its declarations either fails and prints nothing,
or prints a text that is derived by the grammar of declarations.  Checking the file succeeds exactly
when printing does, which a text in the file decides. -/
theorem generate_prints_declarations (host : Host) (path : String) :
    let lint := perform (.ofHost host) (.lint path)
    let generate := perform (.ofHost host) (.generate path)
    ((generate.1 ≠ 0 ∧ generate.2.printed = []) ∨
      (generate.1 = 0 ∧ ∃ text tokens, generate.2.printed = Bytes.ofText text ∧
        Cpp.lex text.toList = some tokens ∧ Cpp.IsInterface tokens)) ∧
    (lint.1 = 0 ↔ generate.1 = 0) ∧
    ∀ text, readFile (Console.ofHost host).world.host path = .ok (Bytes.ofText text) →
      (generate.1 = 0 ↔ ∃ i, Interface.reader.load text = .ok i) := by
  have hs := Console.streams_ofHost host
  simp only [perform_lint, perform_generate]
  cases h : interfaceAt (Console.ofHost host).world.host path with
  | error e =>
    refine ⟨Or.inl ⟨Nat.one_ne_zero, (hs.complain _).printed_eq⟩, Iff.rfl, ?_⟩
    intro text ht
    simp only [failureCode, Nat.one_ne_zero, false_iff]
    rintro ⟨i, hi⟩
    rw [(interfaceAt_eq_ok_iff ht i).2 hi] at h
    cases h
  | ok i =>
    obtain ⟨hvalid, hname⟩ := valid_of_interfaceAt h
    refine ⟨Or.inr ⟨rfl, Cpp.renderInterface i, Cpp.interfaceTokens i, ?_, ?_, ?_⟩, Iff.rfl,
      fun text ht => ?_⟩
    · exact (hs.print _).printed_eq
    · exact Cpp.lex_renderInterface hname hvalid
    · exact Cpp.isInterface_tokens hname hvalid
    · simp only [true_iff]
      exact ⟨i, (interfaceAt_eq_ok_iff ht i).1 h⟩

/-- A machine with one file in its only directory. -/
def hostWith (content : Bytes) : Host :=
  { files := ⟨[.directory 0 [("a", 1)], .file content false]⟩ }

theorem readFile_hostWith (content : Bytes) :
    readFile (Console.ofHost (hostWith content)).world.host "a" = .ok content := by
  have hnames : Path.names "a" = ["a"] := by decide +kernel
  have hnul : Instance.containsNul "a" = false := by decide +kernel
  have habsolute : Path.isAbsolute "a" = false := by decide +kernel
  have hname : ¬"a".utf8ByteSize > FileTree.longestName := by decide +kernel
  have hpath : ¬"a".utf8ByteSize ≥ FileTree.tooLongPath := by decide +kernel
  simp [hostWith, readFile, hnul, Console.ofHost, Installation.anonymousFile, Host.describe,
    FileTree.add, FileTree.find, FileTree.locate, habsolute, hnames, hpath, FileTree.walk,
    FileTree.get?, hname, FileTree.mostLinks]

/-- A table, an algorithm on it that calls back, and what it calls back with. -/
def ordering : Interface where
  name := "ordering"
  algorithms := ⟨[("sort", {
    name := "sort"
    data := ⟨[("items", { name := "items", baseType := .int, dimensions := [⟨.fixed 9⟩] })]⟩
    callbacks := ⟨[("compare", {
      name := "compare"
      result := some .int
      parameters := ⟨[("a", { name := "a", baseType := .int }),
        ("b", { name := "b", baseType := .int })]⟩ })]⟩
    functions := ⟨[("run", {
      name := "run"
      parameters := ⟨[("scratch",
        { name := "scratch", baseType := .int, dimensions := [⟨.unbounded⟩] })]⟩ })]⟩ })]⟩

/-- What was added piece by piece is valid. -/
theorem valid_ordering : ordering.Valid := by
  have added : NamedList.ofList ordering.algorithms.toList = .ok ordering.algorithms := by
    decide +kernel
  refine NamedList.deeplyValid_ofList (fun a here => ?_) added
  obtain rfl := List.mem_singleton.1 here
  have members {l : NamedList Function} (made : NamedList.ofList l.toList = .ok l)
      (parameters : ∀ f ∈ l.toList, NamedList.ofList f.parameters.toList = .ok f.parameters) :
      l.DeeplyValid Function.Valid :=
    NamedList.deeplyValid_ofList (fun f here => NamedList.valid_empty.insertAll (parameters f here)) made
  have data : NamedList.ofList ordering.algorithms.toList[0].data.toList =
      .ok ordering.algorithms.toList[0].data := by decide +kernel
  exact ⟨NamedList.valid_empty.insertAll data, members (by decide +kernel) (by decide +kernel),
    members (by decide +kernel) (by decide +kernel)⟩

/-- The declarations of the interface in a file. -/
theorem generate_prints_declarations_ordering :
    let generate := perform (.ofHost (hostWith (Bytes.ofText
      (String.ofList (Interface.write ordering))))) (.generate "a")
    generate.1 = 0 ∧ ∃ text tokens, generate.2.printed = Bytes.ofText text ∧
      Cpp.lex text.toList = some tokens ∧ Cpp.IsInterface tokens := by
  have load := (Interface.reads valid_ordering (by decide +kernel)).load
  obtain ⟨prints, -, decides⟩ := generate_prints_declarations
    (hostWith (Bytes.ofText (String.ofList (Interface.write ordering)))) "a"
  have succeeds := (decides _ (readFile_hostWith _)).2 ⟨_, load⟩
  rcases prints with ⟨fails, -⟩ | ⟨-, declarations⟩
  · exact absurd succeeds fails
  · exact ⟨succeeds, declarations⟩

end CommandLine

end AlgorithmDriver

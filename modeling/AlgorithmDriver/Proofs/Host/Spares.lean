import AlgorithmDriver.Proofs.Host.FileTree
import AlgorithmDriver.Proofs.Host.Onward

/-!
# What is left alone

Most of what is done on a host leaves the content of files alone, and descriptions where they stand.

* `Host.Spares` says which files may be written and which descriptions may be moved meanwhile, and
  that all paths lead where they led.
  Signals, pipes and the counting of holders spare everything; reading moves one description
  (`read_spares`), writing also changes the file that it leads to (`write_spares`), and opening a
  file for writing may empty that file (`openWrite_spares`).
* What is read from a file stands in it at the offset of the description (`read_file`), and what is
  written at the end of a file is added to it (`write_file`).
-/

namespace AlgorithmDriver

namespace FileTree

/-- The content of the regular file of the given number. -/
def bytes? (tree : FileTree) (n : Nat) : Option Bytes :=
  match tree.get? n with
  | some (.file content _) => some content
  | _ => none

variable {tree : FileTree} {n : Nat} {content : Bytes}

theorem bytes?_eq_some_iff : tree.bytes? n = some content ↔
    ∃ executable, tree.get? n = some (.file content executable) := by
  unfold bytes?
  constructor
  · intro h
    split at h
    · rename_i executable isFile
      cases h
      exact ⟨executable, isFile⟩
    · cases h
  · rintro ⟨executable, isFile⟩
    rw [isFile]

/-- A path that leads to a file shows its content. -/
theorem content?_of_find {directory : Nat} {path : String} (found : tree.find directory path = .ok n) :
    tree.content? directory path = tree.bytes? n := by
  unfold content?
  rw [found]
  rfl

end FileTree

namespace Host

/-- What a description reads or writes, and where it stands, whoever holds it. -/
def place? (host : Host) (n : Nat) : Option Description :=
  (host.descriptions[n]?).map fun d => { d with holders := 0 }

/-- The description is that of the file `node`. -/
def Leads (host : Host) (n node : Nat) : Prop :=
  ∃ d, host.place? n = some d ∧ d.object = .node node

/-- The description stands in the file `node`, at the given offset. -/
def StandsAt (host : Host) (n node offset : Nat) : Prop :=
  host.place? n = some { object := .node node, offset, holders := 0 }

/-- Nothing is lost.  All files but the `written` ones keep their content, and all descriptions but
the `moved` ones stand where they stood. -/
structure Keeps (moved written : Nat → Prop) (before after : Host) : Prop where
  onward : before.Onward after
  places : ∀ n d, ¬ moved n → before.place? n = some d → after.place? n = some d
  files : ∀ n content, ¬ written n →
    before.files.bytes? n = some content → after.files.bytes? n = some content

/-- Besides, paths still lead where they led. -/
structure Spares (moved written : Nat → Prop) (before after : Host) : Prop
    extends before.Keeps moved written after where
  grows : before.files.Grows after.files
  directory : after.directory = before.directory

/-- All files keep their content, and all descriptions stand where they stood. -/
abbrev Untouched (before after : Host) : Prop :=
  before.Spares (fun _ => False) (fun _ => False) after

variable {moved written : Nat → Prop} {host before after : Host} {n : Nat}

theorem place?_eq_some (found : host.descriptions[n]? = some d) :
    host.place? n = some { d with holders := 0 } := congrArg _ found

theorem lt_of_place? {d : Description} (found : host.place? n = some d) :
    n < host.descriptions.length := by
  obtain ⟨e, found, _⟩ := Option.map_eq_some_iff.1 found
  exact (List.getElem?_eq_some_iff.1 found).1

/-- A description leads nowhere else later on. -/
theorem Leads.of_onward {node : Nat} (leads : after.Leads n node) (onward : before.Onward after)
    (bound : n < before.descriptions.length) : before.Leads n node := by
  obtain ⟨_, place, object⟩ := leads
  obtain ⟨d, found, rfl⟩ := Option.map_eq_some_iff.1 place
  have was := List.getElem?_eq_getElem bound
  obtain ⟨e, found', same⟩ := onward.descriptions n _ was
  obtain rfl := Option.some.inj (found.symm.trans found')
  exact ⟨_, place?_eq_some was, same.object.symm.trans object⟩

namespace Spares

theorem refl (host : Host) : host.Spares moved written host where
  onward := .refl host
  places _ _ _ same := same
  files _ _ _ same := same
  grows := .refl _
  directory := rfl

theorem trans {a b c : Host} (hab : a.Spares moved written b) (hbc : b.Spares moved written c) :
    a.Spares moved written c where
  onward := hab.onward.trans hbc.onward
  places n d still place := hbc.places n d still (hab.places n d still place)
  files n content kept file := hbc.files n content kept (hab.files n content kept file)
  grows := hab.grows.trans hbc.grows
  directory := hbc.directory.trans hab.directory

/-- Files and descriptions are the same. -/
theorem of_same (onward : before.Onward after) (descriptions : after.descriptions = before.descriptions)
    (files : after.files = before.files) (directory : after.directory = before.directory) :
    before.Spares moved written after where
  onward := onward
  places n d _ place := by
    unfold place?
    rw [descriptions]
    exact place
  files n content _ file := by
    rw [files]
    exact file
  grows := by
    rw [files]
    exact .refl _
  directory := directory

theorem mono {moved' written' : Nat → Prop} (spares : before.Spares moved written after)
    (moves : ∀ n, moved n → moved' n) (writes : ∀ n, written n → written' n) :
    before.Spares moved' written' after where
  onward := spares.onward
  places n d still := spares.places n d (mt (moves n) still)
  files n content kept := spares.files n content (mt (writes n) kept)
  grows := spares.grows
  directory := spares.directory

/-- The path of a file goes on to lead to it. -/
theorem found {path : String} {node : Nat} (spares : before.Spares moved written after)
    (file : before.files.bytes? node ≠ none)
    (found : before.files.find before.directory path = .ok node) :
    after.files.find after.directory path = .ok node := by
  obtain ⟨content, file⟩ := Option.ne_none_iff_exists'.1 file
  obtain ⟨executable, isFile⟩ := FileTree.bytes?_eq_some_iff.1 file
  rw [spares.directory]
  exact FileTree.find_grows spares.grows isFile found

/-- One description changes: it is moved, or only its holders are counted. -/
theorem setDescription {d e : Description} (found : host.descriptions[n]? = some d)
    (onward : d.Onward e) (still : moved n ∨ e.offset = d.offset) :
    host.Spares moved written (host.setDescription n e) where
  onward := .setDescription found onward
  places m place unmoved was := by
    have look : (host.setDescription n e).descriptions[m]? = (host.descriptions.set n e)[m]? := rfl
    by_cases here : n = m
    · subst here
      rcases still with move | offset
      · exact absurd move unmoved
      · rw [place?, look, List.getElem?_set_self (List.getElem?_eq_some_iff.1 found).1]
        rw [place?_eq_some found] at was
        rw [← was, Option.map_some, onward.object, onward.appends, offset]
    · rw [place?, look, List.getElem?_set_ne here]
      exact was
  files _ _ _ file := file
  grows := .refl _
  directory := rfl

end Spares

/-! ## Descriptions and processes -/

theorem hold_spares (host : Host) (n : Nat) : host.Spares moved written (host.hold n) := by
  unfold hold
  split
  · rename_i found
    exact .setDescription found ⟨rfl, rfl⟩ (.inr rfl)
  · exact .refl host

theorem release_spares (host : Host) (n : Nat) : host.Spares moved written (host.release n) := by
  unfold release
  split
  · rename_i found
    exact .setDescription found ⟨rfl, rfl⟩ (.inr rfl)
  · exact .refl host

theorem describe_spares (host : Host) (d : Description) :
    host.Spares moved written (host.describe d).2 where
  onward := describe_onward host d
  places n place _ was := by
    have look : (host.describe d).2.descriptions[n]? = host.descriptions[n]? :=
      List.getElem?_append_left (lt_of_place? was)
    rw [place?, look]
    exact was
  files _ _ _ file := file
  grows := .refl _
  directory := rfl

theorem makePipe_spares (host : Host) : host.Spares moved written host.makePipe.2.2 := by
  have piped : host.Spares moved written { host with pipes := host.pipes ++ [[]] } :=
    .of_same (.of_same rfl rfl) rfl rfl rfl
  exact (piped.trans (describe_spares _ _)).trans (describe_spares _ _)

theorem setProcess_spares {p q : Process} (found : host.process? n = some p) (onward : p.Onward q) :
    host.Spares moved written (host.setProcess n q) :=
  .of_same (.setProcess found onward) rfl rfl rfl

theorem start_spares (host : Host) (program : Program Nat) (input output errors : Nat) :
    host.Spares moved written (host.start program input output errors).2 :=
  .of_same (start_onward host program input output errors) rfl rfl rfl

theorem Adjusts.spares (adjusts : host.Adjusts n after) : host.Spares moved written after := by
  cases adjusts with
  | nothing => exact .refl host
  | process found kept => exact setProcess_spares found kept.onward

theorem send_spares (host : Host) (n : Nat) (signal : Signal) :
    host.Spares moved written (host.send n signal) :=
  (send_adjusts host n signal).spares

theorem tryWait_spares (host : Host) (n : Nat) : host.Spares moved written (host.tryWait n).2 :=
  (tryWait_adjusts host n).spares

theorem foldl_release_spares (entries : List (Nat × Nat)) (host : Host) :
    host.Spares moved written (entries.foldl (fun host d => host.release d.2) host) := by
  induction entries generalizing host with
  | nil => exact .refl host
  | cons d rest ih => exact (release_spares host d.2).trans (ih _)

theorem finish_spares (host : Host) (n : Nat) (status : ExitStatus) :
    host.Spares moved written (host.finish n status) := by
  unfold finish
  split
  · exact .refl host
  · rename_i p found
    refine (foldl_release_spares p.descriptors host).trans (setProcess_spares (p := p) ?_ ⟨id, id⟩)
    rw [process?, foldl_release_processes]
    exact found

theorem deliver_spares (host : Host) (n : Nat) : host.Spares moved written (host.deliver n) := by
  unfold deliver
  split
  · exact finish_spares host n _
  · exact .refl host

/-! ## Opening -/

theorem openRead_spares {directory : Nat} {path : String}
    (h : host.openRead directory path = .ok (n, after)) : host.Spares moved written after := by
  obtain ⟨node, -, -, rfl⟩ := openRead_eq_ok_iff.1 h
  exact describe_spares host _

/-- What is opened for writing is emptied, unless it is appended to. -/
theorem openWrite_spares {directory : Nat} {path : String} {mode : OpenMode}
    (h : host.openWrite directory path mode = .ok (n, after)) :
    ∃ node, host.Opened after directory path mode n node ∧
      host.Spares moved (fun m => mode = .create ∧ m = node) after := by
  obtain ⟨node, opened⟩ := openWrite_opened h
  refine ⟨node, opened, ⟨(openWrite_adds h).onward, fun m place _ was => ?_, fun m content kept file => ?_⟩,
    opened.grows, opened.directory⟩
  · rw [place?, opened.description, List.getElem?_append_left (lt_of_place? was)]
    exact was
  · obtain ⟨executable, isFile⟩ := FileTree.bytes?_eq_some_iff.1 file
    refine FileTree.bytes?_eq_some_iff.2 ⟨executable, opened.others m content executable ?_ isFile⟩
    exact fun create same => kept ⟨create, same⟩

/-- What is opened for writing was there before, or it is a new file. -/
theorem openWrite_place {directory node : Nat} {path : String} {mode : OpenMode}
    (h : host.openWrite directory path mode = .ok (n, after))
    (opened : host.Opened after directory path mode n node) :
    (host.files.find directory path = .ok node ∧
        (host.files.bytes? node ≠ none → after.files.bytes? node ≠ none)) ∨
      (host.files.get? node = none ∧ after.files.bytes? node = some []) := by
  have now := opened.found
  obtain ⟨node', files, readies, rfl, rfl⟩ := openWrite_eq_ok h
  cases readies with
  | @new place name vacant =>
    obtain ⟨⟨parent, entries, isDirectory⟩, found⟩ :=
      FileTree.find_attach vacant (.file [] false) fun _ => Node.noConfusion
    have self := FileTree.get?_attach_self isDirectory name (.file [] false)
    obtain rfl := Except.ok.inj (found.symm.trans now)
    refine .inr ⟨?_, FileTree.bytes?_eq_some_iff.2 ⟨false, self⟩⟩
    rw [FileTree.attach_of_directory isDirectory]
    exact List.getElem?_eq_none (Nat.le_refl _)
  | @emptied _ _ executable found isFile =>
    have grows : host.files.Grows (host.files.set node' (.file [] executable)) :=
      FileTree.set_grows isFile .file
    obtain rfl := Except.ok.inj ((FileTree.find_grows grows isFile found).symm.trans now)
    exact .inl ⟨found, fun _ => (FileTree.bytes?_eq_some_iff.2
      ⟨executable, FileTree.get?_set_self isFile _⟩) ▸ Option.some_ne_none _⟩
  | kept found =>
    obtain rfl := Except.ok.inj (found.symm.trans now)
    exact .inl ⟨found, id⟩

/-! ## Reading and writing -/

theorem read_spares {count : Nat} {r : Except Errno Bytes}
    (h : host.read n count = some (r, after)) : host.Spares (· = n) written after := by
  cases read_reads h with
  | unknown | failed | ended | wrongEnd => exact .refl host
  | node found => exact .setDescription found ⟨rfl, rfl⟩ (.inl rfl)
  | pipe => exact .of_same (read_onward h) rfl rfl rfl

theorem writeNode_spares {node offset : Nat} {data : Bytes}
    (h : host.writeNode node offset data = .ok after) :
    host.Spares moved (· = node) after := by
  unfold writeNode at h
  split at h
  · rename_i content executable isFile
    cases h
    refine ⟨⟨.of_same rfl rfl, fun _ _ _ place => place, fun m other kept file => ?_⟩,
      FileTree.set_grows isFile .file, rfl⟩
    unfold FileTree.bytes? at file ⊢
    rw [FileTree.get?_set_ne (Ne.symm kept)]
    exact file
  · cases h
  · cases h
  · cases h
    exact .refl host

theorem write_spares {data : Bytes} {r : Except Errno Nat}
    (h : host.write n data = some (r, after)) : host.Spares (· = n) (host.Leads n) after := by
  cases write_writes h with
  | unknown | failed | nothing | broken | wrongEnd => exact .refl host
  | @node _ node files found object done =>
    have leads : host.Leads n node := ⟨_, place?_eq_some found, object⟩
    have changed : host.Spares (· = n) (host.Leads n) { host with files } :=
      (writeNode_spares done).mono (fun _ => id) fun _ here => here ▸ leads
    exact changed.trans (.setDescription found ⟨rfl, rfl⟩ (.inl rfl))
  | pipe => exact .of_same (write_onward h) rfl rfl rfl

/-- Writing leads nowhere else. -/
theorem leads_of_write {data : Bytes} {r : Except Errno Nat} {node : Nat}
    (h : host.write n data = some (r, after)) (leads : after.Leads n node) : host.Leads n node := by
  cases write_writes h with
  | unknown | failed | nothing | broken | wrongEnd => exact leads
  | node found | pipe found =>
    exact leads.of_onward (write_onward h) (List.getElem?_eq_some_iff.1 found).1

variable {node offset : Nat} {content : Bytes}

theorem StandsAt.leads (stands : host.StandsAt n node offset) : host.Leads n node :=
  ⟨_, stands, rfl⟩

theorem standsAt_iff : host.StandsAt n node offset ↔
    ∃ holders, host.descriptions[n]? = some { object := .node node, offset, holders } := by
  unfold StandsAt place?
  rw [Option.map_eq_some_iff]
  constructor
  · rintro ⟨⟨object, appends, offset, holders⟩, found, same⟩
    cases same
    exact ⟨holders, found⟩
  · rintro ⟨holders, found⟩
    exact ⟨_, found, rfl⟩

/-- What is read from a file stands in it at the offset. -/
theorem read_file (stands : host.StandsAt n node offset)
    (file : host.files.bytes? node = some content) (count : Nat) :
    ∃ after, host.read n count = some (.ok ((content.drop offset).take count), after) ∧
      after.StandsAt n node (offset + ((content.drop offset).take count).length) := by
  obtain ⟨holders, found⟩ := standsAt_iff.1 stands
  obtain ⟨executable, isFile⟩ := FileTree.bytes?_eq_some_iff.1 file
  have bytes : host.readNode node offset count = .ok ((content.drop offset).take count) := by
    unfold readNode
    rw [isFile]
  unfold read
  simp only [found, bytes]
  refine ⟨_, rfl, standsAt_iff.2 ⟨holders, ?_⟩⟩
  exact List.getElem?_set_self (List.getElem?_eq_some_iff.1 found).1

/-- What is written at the end of a file is added to it. -/
theorem write_file (stands : host.StandsAt n node content.length)
    (file : host.files.bytes? node = some content) (data : Bytes) :
    ∃ after, host.write n data = some (.ok data.length, after) ∧
      after.StandsAt n node (content ++ data).length ∧
      after.files.bytes? node = some (content ++ data) := by
  obtain ⟨holders, found⟩ := standsAt_iff.1 stands
  obtain ⟨executable, isFile⟩ := FileTree.bytes?_eq_some_iff.1 file
  have written : host.writeNode node content.length data =
      .ok { host with files := host.files.set node (.file (content ++ data) executable) } := by
    unfold writeNode overwrite
    rw [isFile]
    simp only [if_true]
  unfold write
  simp only [found, written, Bool.false_eq_true, if_false]
  refine ⟨_, rfl, standsAt_iff.2 ⟨holders, ?_⟩, ?_⟩
  · rw [List.length_append]
    exact List.getElem?_set_self (List.getElem?_eq_some_iff.1 found).1
  · exact FileTree.bytes?_eq_some_iff.2 ⟨executable, FileTree.get?_set_self isFile _⟩

end Host

end AlgorithmDriver

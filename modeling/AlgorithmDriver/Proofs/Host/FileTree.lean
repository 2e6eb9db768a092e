import AlgorithmDriver.Host.Basic

/-!
# Where paths lead

Writing to files and making new ones does not change where other paths lead.

* `FileTree.Grows` says what may become of a tree then: a directory may get more entries and a file
  another content.  A path that leads to a node still does (`walk_grows`, `find_grows`).
* Where a path led to a vacant place it leads to what is made there (`find_attach`).
* Opening makes a description of a node (`Host.AddsNode`), and opening for writing gets a file ready
  first (`FileTree.Readies`).  A path that was opened for writing leads to the file that was opened
  (`Host.openWrite_opened`).
-/

namespace AlgorithmDriver

/-! ## Growing -/

/-- A node stays what it is. -/
inductive Node.Grows : Node → Node → Prop
  | file {content content' : Bytes} {executable executable' : Bool} :
      Grows (.file content executable) (.file content' executable')
  | program {main : Main} : Grows (.program main) (.program main)
  | directory {parent : Nat} {entries : List (String × Nat)} (more : List (String × Nat)) :
      Grows (.directory parent entries) (.directory parent (entries ++ more))
  | link {target : String} : Grows (.link target) (.link target)
  | device {device : Device} : Grows (.device device) (.device device)

theorem Node.Grows.refl (node : Node) : node.Grows node := by
  cases node with
  | file => exact .file
  | program => exact .program
  | directory parent entries =>
    have same : Grows (.directory parent entries) _ := .directory []
    rw [List.append_nil] at same
    exact same
  | link => exact .link
  | device => exact .device

theorem Node.Grows.trans {a b c : Node} (first : a.Grows b) (second : b.Grows c) : a.Grows c := by
  cases first with
  | file =>
    cases second
    exact .file
  | directory more =>
    cases second with
    | directory others =>
      rw [List.append_assoc]
      exact .directory _
  | program | link | device => exact second

namespace FileTree

/-- No node is lost, and each stays what it is. -/
def Grows (before after : FileTree) : Prop :=
  ∀ n node, before.get? n = some node → ∃ node', after.get? n = some node' ∧ node.Grows node'

variable {tree before after : FileTree} {n : Nat} {node node' : Node}

theorem Grows.refl (tree : FileTree) : tree.Grows tree :=
  fun _ node found => ⟨node, found, .refl node⟩

theorem Grows.trans {a b c : FileTree} (first : a.Grows b) (second : b.Grows c) : a.Grows c := by
  intro n node found
  obtain ⟨node', found', grown⟩ := first n node found
  obtain ⟨node'', found'', more⟩ := second n node' found'
  exact ⟨node'', found'', grown.trans more⟩

theorem get?_set_self (found : tree.get? n = some node) (new : Node) :
    (tree.set n new).get? n = some new :=
  List.getElem?_set_self (List.getElem?_eq_some_iff.1 found).1

theorem get?_set_ne {m : Nat} (apart : n ≠ m) (new : Node) :
    (tree.set n new).get? m = tree.get? m := List.getElem?_set_ne apart

theorem set_grows (found : tree.get? n = some node) (grown : node.Grows node') :
    tree.Grows (tree.set n node') := by
  intro m other found'
  by_cases same : n = m
  · subst same
    obtain rfl := Option.some.inj (found.symm.trans found')
    exact ⟨node', get?_set_self found node', grown⟩
  · exact ⟨other, (get?_set_ne same node').trans found', .refl other⟩

/-- What is attached to a directory: a new node, under one more entry. -/
theorem attach_of_directory {directory parent : Nat} {entries : List (String × Nat)}
    (found : tree.get? directory = some (.directory parent entries)) (name : String) (new : Node) :
    tree.attach directory name new =
      (tree.nodes.length,
        (tree.add new).2.set directory
          (.directory parent (entries ++ [(name, tree.nodes.length)]))) := by
  unfold attach
  rw [found]
  rfl

theorem get?_add_of_some (found : tree.get? n = some node) (new : Node) :
    (tree.add new).2.get? n = some node :=
  (List.getElem?_append_left (List.getElem?_eq_some_iff.1 found).1).trans found

theorem get?_add_self (tree : FileTree) (new : Node) :
    (tree.add new).2.get? tree.nodes.length = some new := List.getElem?_concat_length

theorem attach_grows {directory parent : Nat} {entries : List (String × Nat)}
    (found : tree.get? directory = some (.directory parent entries)) (name : String) (new : Node) :
    tree.Grows (tree.attach directory name new).2 := by
  rw [attach_of_directory found]
  have added : tree.Grows (tree.add new).2 :=
    fun n node found => ⟨node, get?_add_of_some found new, .refl node⟩
  exact added.trans (set_grows (get?_add_of_some found new) (.directory _))

theorem get?_attach_self {directory parent : Nat} {entries : List (String × Nat)}
    (found : tree.get? directory = some (.directory parent entries)) (name : String) (new : Node) :
    (tree.attach directory name new).2.get? (tree.attach directory name new).1 = some new := by
  rw [attach_of_directory found]
  have apart : directory ≠ tree.nodes.length :=
    Nat.ne_of_lt (List.getElem?_eq_some_iff.1 found).1
  exact (get?_set_ne apart _).trans (get?_add_self tree new)

/-! ## Walking -/

variable {follow : Bool} {links position parent next : Nat} {entries : List (String × Nat)}
  {name : String} {rest names : List String}

/-- In a directory, a walk goes by the name that comes first. -/
theorem walk_of_directory (found : tree.get? position = some (.directory parent entries)) :
    tree.walk follow links position (name :: rest) =
      if name = "." then tree.walk follow links position rest
      else if name = ".." then tree.walk follow links parent rest
      else if name.utf8ByteSize > longestName then .error .nameTooLong
      else
        match entries.lookup name with
        | none => if rest.isEmpty then .ok (.vacant position name) else .error .noEntry
        | some next =>
          match tree.get? next with
          | some (.link target) =>
            if rest.isEmpty && !follow then .ok (.node next)
            else
              match links with
              | 0 => .error .linkLoop
              | links + 1 =>
                tree.walk follow links (if Path.isAbsolute target then 0 else position)
                  (Path.names target ++ rest)
          | _ => tree.walk follow links next rest := by
  have walked := walk.eq_def tree follow links position (name :: rest)
  simp only [found] at walked
  exact walked

/-- An entry that is no link is walked into. -/
theorem walk_of_entry (found : tree.get? position = some (.directory parent entries))
    (here : name ≠ ".") (up : name ≠ "..") (short : ¬ name.utf8ByteSize > longestName)
    (entry : entries.lookup name = some next)
    (straight : ∀ target, tree.get? next ≠ some (.link target)) :
    tree.walk follow links position (name :: rest) = tree.walk follow links next rest := by
  rw [walk_of_directory found, if_neg here, if_neg up, if_neg short, entry]
  dsimp only
  split
  · exact absurd ‹_› (straight _)
  · rfl

/-- Only a directory can be walked on from. -/
theorem walk_of_not_directory
    (other : ∀ parent entries, tree.get? position ≠ some (.directory parent entries)) :
    tree.walk follow links position (name :: rest) = .error .notDirectory := by
  rw [walk]
  split
  · exact absurd ‹_› (other _ _)
  · rfl

/-- Where a walk goes on there is a node. -/
theorem exists_of_walk {destination : Destination}
    (goes : tree.walk follow links position (name :: rest) = .ok destination) :
    ∃ node, tree.get? position = some node := by
  cases found : tree.get? position with
  | some node => exact ⟨node, rfl⟩
  | none =>
    rw [walk_of_not_directory (fun _ _ is => nomatch found.symm.trans is)] at goes
    cases goes

/-- What grows does not become a link. -/
theorem Grows.straight (grows : before.Grows after) (inner : ∃ inner, before.get? n = some inner)
    (straight : ∀ target, before.get? n ≠ some (.link target)) (target : String) :
    after.get? n ≠ some (.link target) := by
  obtain ⟨inner, found⟩ := inner
  obtain ⟨inner', found', grown⟩ := grows n inner found
  rw [found']
  intro same
  cases same
  cases grown
  exact straight target found

/-- A walk that leads to a node leads there still. -/
theorem walk_grows (grows : before.Grows after) (target : before.get? n = some node)
    (leads : before.walk follow links position names = .ok (.node n)) :
    after.walk follow links position names = .ok (.node n) := by
  fun_induction before.walk follow links position names with
  | case1 links position =>
    rw [walk]
    exact leads
  | case2 links position rest parent entries found ih =>
    obtain ⟨_, found', grown⟩ := grows _ _ found
    cases grown
    rw [walk_of_directory found', if_pos rfl]
    exact ih leads
  | case3 links position rest parent entries found here ih =>
    obtain ⟨_, found', grown⟩ := grows _ _ found
    cases grown
    rw [walk_of_directory found', if_neg here, if_pos rfl]
    exact ih leads
  | case7 links position name rest parent entries found here up short next entry link isLink last =>
    obtain ⟨_, found', grown⟩ := grows _ _ found
    cases grown
    obtain ⟨_, isLink', grown⟩ := grows _ _ isLink
    cases grown
    rw [walk_of_directory found', if_neg here, if_neg up, if_neg short, List.lookup_append, entry]
    simp only [Option.some_or, isLink', last, if_true]
    exact leads
  | case9 position name rest parent entries found here up short next entry link isLink last links start
      ih =>
    obtain ⟨_, found', grown⟩ := grows _ _ found
    cases grown
    obtain ⟨_, isLink', grown⟩ := grows _ _ isLink
    cases grown
    rw [walk_of_directory found', if_neg here, if_neg up, if_neg short, List.lookup_append, entry]
    simp only [Option.some_or, isLink', last]
    exact ih leads
  | case10 links position name rest parent entries found here up short next entry straight ih =>
    obtain ⟨_, found', grown⟩ := grows _ _ found
    cases grown
    -- The entry cannot dangle: the walk ends there or goes on from it.
    have inner : ∃ inner, before.get? next = some inner := by
      cases rest with
      | nil =>
        rw [walk] at leads
        cases leads
        exact ⟨node, target⟩
      | cons more rest => exact exists_of_walk leads
    rw [walk_of_entry found' here up short (by rw [List.lookup_append, entry]; rfl)
      (grows.straight inner straight)]
    exact ih leads
  | case4 | case5 | case6 | case8 | case11 => cases leads

/-- A walk that leads to a vacant place leads to what is put there. -/
theorem walk_fills (grows : before.Grows after) {place : Nat}
    (vacant : before.walk true links position names = .ok (.vacant place name))
    (filled : ∀ parent entries, before.get? place = some (.directory parent entries) →
      after.get? place = some (.directory parent (entries ++ [(name, n)])))
    (plain : ∀ target, after.get? n ≠ some (.link target)) :
    after.walk true links position names = .ok (.node n) := by
  fun_induction before.walk true links position names with
  | case2 links position rest parent entries found ih =>
    obtain ⟨_, found', grown⟩ := grows _ _ found
    cases grown
    rw [walk_of_directory found', if_pos rfl]
    exact ih vacant
  | case3 links position rest parent entries found here ih =>
    obtain ⟨_, found', grown⟩ := grows _ _ found
    cases grown
    rw [walk_of_directory found', if_neg here, if_pos rfl]
    exact ih vacant
  | case5 links position first rest parent entries found here up short missing last =>
    cases vacant
    have found' := filled parent entries found
    have entry : (entries ++ [(name, n)]).lookup name = some n := by
      rw [List.lookup_append, missing]
      simp
    rw [walk_of_entry found' here up short entry plain, List.isEmpty_iff.1 last, walk]
  | case9 position first rest parent entries found here up short next entry link isLink last links
      start ih =>
    obtain ⟨_, found', grown⟩ := grows _ _ found
    cases grown
    obtain ⟨_, isLink', grown⟩ := grows _ _ isLink
    cases grown
    rw [walk_of_directory found', if_neg here, if_neg up, if_neg short, List.lookup_append, entry]
    simp only [Option.some_or, isLink', last]
    exact ih vacant
  | case10 links position first rest parent entries found here up short next entry straight ih =>
    obtain ⟨_, found', grown⟩ := grows _ _ found
    cases grown
    have inner : ∃ inner, before.get? next = some inner := by
      cases rest with
      | nil =>
        rw [walk] at vacant
        cases vacant
      | cons more rest => exact exists_of_walk vacant
    rw [walk_of_entry found' here up short (by rw [List.lookup_append, entry]; rfl)
      (grows.straight inner straight)]
    exact ih vacant
  | case7 | case1 | case4 | case6 | case8 | case11 => cases vacant

/-- A vacant place is in a directory. -/
theorem directory_of_vacant {place : Nat}
    (vacant : tree.walk follow links position names = .ok (.vacant place name)) :
    ∃ parent entries, tree.get? place = some (.directory parent entries) := by
  fun_induction tree.walk follow links position names with
  | case5 links position first rest parent entries found here up short missing last =>
    cases vacant
    exact ⟨parent, entries, found⟩
  | case2 _ _ _ _ _ _ ih | case3 _ _ _ _ _ _ _ ih | case9 _ _ _ _ _ _ _ _ _ _ _ _ _ _ _ _ ih
    | case10 _ _ _ _ _ _ _ _ _ _ _ _ _ ih => exact ih vacant
  | case1 | case4 | case6 | case7 | case8 | case11 => cases vacant

/-! ## Finding -/

theorem find_eq_ok {directory : Nat} {path : String} :
    tree.find directory path = .ok n ↔ tree.locate true directory path = .ok (.node n) := by
  unfold find
  constructor
  · intro found
    split at found
    · cases found
    · cases found
    · cases found
      assumption
  · intro located
    rw [located]

theorem locateForWriting_eq_ok {directory : Nat} {path : String} {destination : Destination} :
    tree.locateForWriting directory path = .ok destination ↔
      tree.locate true directory path = .ok destination := by
  have slashed : locateForWriting.slashed tree directory path ≠ .ok destination := by
    unfold locateForWriting.slashed
    intro h
    split at h
    · cases h
    · cases h
    · split at h <;> cases h
  unfold locateForWriting
  constructor
  · intro located
    split at located
    · split at located
      · exact absurd located slashed
      · cases located
    · split at located
      · exact absurd located slashed
      · cases located
    · cases located
    · cases located
      assumption
  · intro located
    rw [located]

/-- A path of one name leads to what the root directory has under it. -/
theorem find_entry {directory : Nat} {path : String} (absolute : Path.isAbsolute path = true)
    (named : path ≠ "") (short : ¬ path.utf8ByteSize ≥ tooLongPath) (names : Path.names path = [name])
    (root : tree.get? 0 = some (.directory parent entries)) (here : name ≠ ".") (up : name ≠ "..")
    (brief : ¬ name.utf8ByteSize > longestName) (entry : entries.lookup name = some next)
    (straight : ∀ target, tree.get? next ≠ some (.link target)) :
    tree.find directory path = .ok next := by
  rw [find_eq_ok]
  unfold locate
  rw [if_neg named, if_neg short, if_pos absolute, names,
    walk_of_entry root here up brief entry straight, walk]

/-- A path that leads to a node leads there still. -/
theorem find_grows (grows : before.Grows after) {directory : Nat} {path : String}
    (target : before.get? n = some node) (found : before.find directory path = .ok n) :
    after.find directory path = .ok n := by
  rw [find_eq_ok] at found ⊢
  unfold locate at found ⊢
  split at found
  · cases found
  · rename_i named
    split at found
    · cases found
    · rename_i short
      rw [if_neg named, if_neg short]
      exact walk_grows grows target found

/-- A path that leads to a vacant place leads to what is attached there. -/
theorem find_attach {directory place : Nat} {path : String}
    (vacant : tree.locate true directory path = .ok (.vacant place name)) (new : Node)
    (plain : ∀ target, new ≠ .link target) :
    (∃ parent entries, tree.get? place = some (.directory parent entries)) ∧
      (tree.attach place name new).2.find directory path = .ok (tree.attach place name new).1 := by
  rw [find_eq_ok]
  unfold locate at vacant ⊢
  split at vacant
  · cases vacant
  · rename_i named
    split at vacant
    · cases vacant
    · rename_i short
      obtain ⟨parent, entries, isDirectory⟩ := directory_of_vacant vacant
      refine ⟨⟨parent, entries, isDirectory⟩, ?_⟩
      rw [if_neg named, if_neg short]
      refine walk_fills (attach_grows isDirectory name new) vacant (fun parent' entries' found => ?_)
        fun target => ?_
      · cases isDirectory.symm.trans found
        rw [attach_of_directory found]
        exact get?_set_self (get?_add_of_some found new) _
      · rw [get?_attach_self isDirectory]
        exact fun same => plain target (Option.some.inj same)

/-- Which file is opened for writing, and what becomes of the tree: it gets a new file, the file that
the path leads to is emptied, or nothing changes. -/
inductive Readies (tree : FileTree) (directory : Nat) (path : String) (mode : OpenMode) :
    Nat → FileTree → Prop
  | new {place : Nat} {name : String}
      (vacant : tree.locate true directory path = .ok (.vacant place name)) :
      Readies tree directory path mode (tree.attach place name (.file [] false)).1
        (tree.attach place name (.file [] false)).2
  | emptied {node : Nat} {content : Bytes} {executable : Bool}
      (found : tree.find directory path = .ok node)
      (isFile : tree.get? node = some (.file content executable)) (create : mode = .create) :
      Readies tree directory path mode node (tree.set node (.file [] executable))
  | kept {node : Nat} (found : tree.find directory path = .ok node)
      (other : mode = .create → ∀ content executable,
        tree.get? node ≠ some (.file content executable)) : Readies tree directory path mode node tree

end FileTree

namespace Host

/-! ## Opening -/

/-- A file was opened: there is one more description, which is that of a node, and besides only files
were changed. -/
def AddsNode (before : Host) (n : Nat) (after : Host) : Prop :=
  ∃ files node appends, n = before.descriptions.length ∧
    after = ({ before with files }.describe { object := .node node, appends }).2

/-- What is opened for writing: the path leads to it afterwards, unless it is appended to nothing is
left in it, and no other file is changed. -/
structure Opened (before after : Host) (directory : Nat) (path : String) (mode : OpenMode)
    (n node : Nat) : Prop where
  description : after.descriptions =
    before.descriptions ++ [{ object := .node node, appends := mode == .append }]
  number : n = before.descriptions.length
  found : after.files.find directory path = .ok node
  emptied : mode = .create → ∀ content executable,
    after.files.get? node = some (.file content executable) → content = []
  others : ∀ m content executable, (mode = .create → m ≠ node) →
    before.files.get? m = some (.file content executable) →
      after.files.get? m = some (.file content executable)
  grows : before.files.Grows after.files
  directory : after.directory = before.directory

variable {host after : Host} {n directory : Nat} {path : String} {mode : OpenMode}

theorem openRead_eq_ok_iff : host.openRead directory path = .ok (n, after) ↔
    ∃ node, host.files.find directory path = .ok node ∧ n = host.descriptions.length ∧
      after = (host.describe { object := .node node }).2 := by
  unfold openRead
  cases host.files.find directory path with
  | error e => exact ⟨nofun, fun ⟨_, found, _⟩ => nomatch found⟩
  | ok node =>
    constructor
    · intro opened
      cases opened
      exact ⟨node, rfl, rfl, rfl⟩
    · rintro ⟨_, found, rfl, rfl⟩
      cases found
      rfl

theorem openRead_adds (opened : host.openRead directory path = .ok (n, after)) :
    host.AddsNode n after := by
  obtain ⟨node, -, rfl, rfl⟩ := openRead_eq_ok_iff.1 opened
  exact ⟨host.files, node, false, rfl, rfl⟩

/-- What is opened for writing is readied first. -/
theorem openWrite_eq_ok (opened : host.openWrite directory path mode = .ok (n, after)) :
    ∃ node files, host.files.Readies directory path mode node files ∧
      n = host.descriptions.length ∧
      after = ({ host with files }.describe
        { object := .node node, appends := mode == OpenMode.append }).2 := by
  unfold openWrite at opened
  split at opened
  · cases opened
  · rename_i place name located
    cases opened
    exact ⟨_, _, .new (FileTree.locateForWriting_eq_ok.1 located), rfl, rfl⟩
  · rename_i node located
    rw [FileTree.locateForWriting_eq_ok, ← FileTree.find_eq_ok] at located
    split at opened
    · cases opened
    · rename_i content executable isFile
      cases opened
      by_cases create : mode = .create
      · subst create
        exact ⟨_, _, .emptied located isFile rfl, rfl, rfl⟩
      · rw [if_neg fun same => create (beq_iff_eq.1 same)]
        exact ⟨_, _, .kept located fun same => absurd same create, rfl, rfl⟩
    · rename_i noFile
      cases opened
      exact ⟨_, _, .kept located fun _ => noFile, rfl, rfl⟩

theorem openWrite_adds (opened : host.openWrite directory path mode = .ok (n, after)) :
    host.AddsNode n after := by
  obtain ⟨node, files, -, rfl, rfl⟩ := openWrite_eq_ok opened
  exact ⟨files, node, _, rfl, rfl⟩

theorem openFile_adds (opened : host.openFile directory path mode = .ok (n, after)) :
    host.AddsNode n after := by
  unfold openFile at opened
  split at opened
  · exact openRead_adds opened
  · exact openWrite_adds opened

/-- A file that is there is opened to be overwritten. -/
theorem openWrite_of_file {content : Bytes} {executable : Bool}
    (found : host.files.find directory path = .ok n)
    (isFile : host.files.get? n = some (.file content executable)) :
    host.openWrite directory path .create =
      .ok ({ host with files := host.files.set n (.file [] executable) }.describe
        { object := .node n }) := by
  unfold openWrite
  rw [FileTree.locateForWriting_eq_ok.2 (FileTree.find_eq_ok.1 found)]
  dsimp only
  rw [isFile]
  rfl

theorem openWrite_opened (h : host.openWrite directory path mode = .ok (n, after)) :
    ∃ node, host.Opened after directory path mode n node := by
  obtain ⟨node, files, readies, rfl, rfl⟩ := openWrite_eq_ok h
  refine ⟨node, ?_⟩
  cases readies with
  | @new place name vacant =>
    obtain ⟨⟨parent, entries, isDirectory⟩, found⟩ :=
      FileTree.find_attach vacant (.file [] false) fun _ => Node.noConfusion
    have self := FileTree.get?_attach_self isDirectory name (.file [] false)
    refine ⟨rfl, rfl, found, fun _ content executable isFile => ?_, ?_,
      FileTree.attach_grows isDirectory name _, rfl⟩
    · cases self.symm.trans isFile
      rfl
    · intro m content executable apart isFile
      show (host.files.attach place name (.file [] false)).2.get? m = _
      have aside : place ≠ m := by
        rintro rfl
        cases isDirectory.symm.trans isFile
      rw [FileTree.attach_of_directory isDirectory, FileTree.get?_set_ne aside]
      exact FileTree.get?_add_of_some isFile _
  | @emptied node _ executable found isFile create =>
    have grows : host.files.Grows (host.files.set node (.file [] executable)) :=
      FileTree.set_grows isFile .file
    refine ⟨rfl, rfl, FileTree.find_grows grows isFile found, fun _ content' _ now => ?_,
      fun m _ _ apart other => ?_, grows, rfl⟩
    · cases (FileTree.get?_set_self isFile _).symm.trans now
      rfl
    · exact (FileTree.get?_set_ne (Ne.symm (apart create)) _).trans other
  | kept found other =>
    exact ⟨rfl, rfl, found, fun create content executable isFile =>
      absurd isFile (other create content executable), fun _ _ _ _ same => same, .refl _, rfl⟩

end Host

end AlgorithmDriver

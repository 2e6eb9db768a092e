import Mathlib.Data.List.Basic
import AlgorithmDriver.Proofs.Host.FileTree

/-!
# Plain names and the files they lead to

A plain name has a single component.  Components leave out redundant slashes and dots, so a plain
name need not be the name of an entry of a directory: slashes and single dots may follow.

* `Path.isPlainName_iff`: which texts are plain names.
* `FileTree.isFile_iff`: the test for a regular file is passed when the walk along the path ends at
  one.
* `FileTree.isFile_join_of_slash`: a plain name with a slash never leads to a regular file, in
  whatever directory it is read, for the walk goes on behind the name and so ends at a directory.
-/

namespace AlgorithmDriver

namespace Path

/-! ## Pieces -/

@[simp] theorem pieces_nil : pieces [] = [[]] := rfl

@[simp] theorem pieces_slash (cs : List Char) : pieces ('/' :: cs) = [] :: pieces cs := by
  simp [pieces]

/-- A character that is no slash belongs to the first piece. -/
theorem pieces_cons {c : Char} {cs piece : List Char} {rest : List (List Char)} (apart : c ≠ '/')
    (split : pieces cs = piece :: rest) : pieces (c :: cs) = (c :: piece) :: rest := by
  simp [pieces, apart, split]

/-- A text is split at its first slash. -/
theorem pieces_append_slash {piece : List Char} (whole : '/' ∉ piece) (cs : List Char) :
    pieces (piece ++ '/' :: cs) = piece :: pieces cs := by
  induction piece with
  | nil => simp
  | cons c piece ih =>
    obtain ⟨apart, whole⟩ := List.ne_and_not_mem_of_not_mem_cons whole
    exact pieces_cons (Ne.symm apart) (ih whole)

theorem pieces_of_not_mem {piece : List Char} (whole : '/' ∉ piece) : pieces piece = [piece] := by
  induction piece with
  | nil => rfl
  | cons c piece ih =>
    obtain ⟨apart, whole⟩ := List.ne_and_not_mem_of_not_mem_cons whole
    exact pieces_cons (Ne.symm apart) (ih whole)

/-- The pieces of a text are slash-free, and the text is their sequence with slashes between. -/
theorem pieces_spec (cs : List Char) : ∃ first rest, pieces cs = first :: rest ∧
    (∀ piece ∈ first :: rest, '/' ∉ piece) ∧ cs = first ++ rest.flatMap ('/' :: ·) := by
  induction cs with
  | nil => exact ⟨[], [], rfl, by simp, rfl⟩
  | cons c cs ih =>
    obtain ⟨first, rest, split, whole, text⟩ := ih
    by_cases slash : c = '/'
    · subst slash
      refine ⟨[], first :: rest, by rw [pieces_slash, split], ?_, by simp [text]⟩
      exact List.forall_mem_cons.2 ⟨List.not_mem_nil, whole⟩
    · refine ⟨c :: first, rest, pieces_cons slash split, ?_, by simp [text]⟩
      obtain ⟨head, tail⟩ := List.forall_mem_cons.1 whole
      exact List.forall_mem_cons.2
        ⟨List.not_mem_cons_of_ne_of_not_mem (Ne.symm slash) head, tail⟩

/-- The pieces of a sequence of slash-free texts with slashes between are these texts. -/
theorem pieces_append_flatMap {first : List Char} {rest : List (List Char)}
    (whole : ∀ piece ∈ first :: rest, '/' ∉ piece) :
    pieces (first ++ rest.flatMap ('/' :: ·)) = first :: rest := by
  induction rest generalizing first with
  | nil => simpa using pieces_of_not_mem (whole first List.mem_cons_self)
  | cons second rest ih =>
    obtain ⟨head, tail⟩ := List.forall_mem_cons.1 whole
    rw [List.flatMap_cons, List.cons_append, pieces_append_slash head, ih tail]

/-- What stands before a slash and what stands after it are split apart. -/
theorem pieces_append (xs ys : List Char) : pieces (xs ++ '/' :: ys) = pieces xs ++ pieces ys := by
  obtain ⟨first, rest, split, whole, rfl⟩ := pieces_spec xs
  obtain ⟨second, others, split', whole', rfl⟩ := pieces_spec ys
  have both : ∀ piece ∈ first :: (rest ++ second :: others), '/' ∉ piece :=
    List.forall_mem_append.2 ⟨whole, whole'⟩
  rw [split, split', List.cons_append, ← pieces_append_flatMap both]
  simp

/-- Every character but the slashes is in a piece. -/
theorem exists_piece_of_mem {c : Char} {cs : List Char} (member : c ∈ cs) (apart : c ≠ '/') :
    ∃ piece ∈ pieces cs, c ∈ piece := by
  obtain ⟨first, rest, split, -, rfl⟩ := pieces_spec cs
  rw [split]
  rcases List.mem_append.1 member with inside | inside
  · exact ⟨first, List.mem_cons_self, inside⟩
  · obtain ⟨piece, among, inside⟩ := List.mem_flatMap.1 inside
    refine ⟨piece, List.mem_cons_of_mem _ among, ?_⟩
    exact (List.mem_cons.1 inside).resolve_left apart

/-! ## Plain names -/

/-- A name that an entry of a directory can have. -/
structure IsEntryName (name : String) : Prop where
  ne_empty : name ≠ ""
  ne_dot : name ≠ "."
  ne_dots : name ≠ ".."
  whole : '/' ∉ name.toList

/-- A piece that no component stands for. -/
def IsRedundant (piece : String) : Prop := piece = "" ∨ piece = "."

theorem component?_eq_none_iff (piece : List Char) :
    component? piece = none ↔ IsRedundant (String.ofList piece) := by
  unfold component? IsRedundant
  split_ifs with redundant parent <;>
    simp_all [← String.toList_inj]

theorem component?_eq_name_iff (piece : List Char) (name : String) :
    component? piece = some (.name name) ↔
      piece ≠ [] ∧ piece ≠ ['.'] ∧ piece ≠ ['.', '.'] ∧ name = String.ofList piece := by
  unfold component?
  split_ifs with redundant parent
  · rcases redundant with rfl | rfl <;> simp
  · simp [parent]
  · simp_all [eq_comm]

theorem IsRedundant.whole {piece : String} (redundant : IsRedundant piece) :
    '/' ∉ piece.toList := by
  rcases redundant with rfl | rfl <;> decide

/-- The text of an entry and of what follows it, each behind a slash. -/
def followed (entry : String) (rest : List String) : String :=
  entry ++ String.join (rest.map ("/" ++ ·))

theorem toList_followed (entry : String) (rest : List String) :
    (followed entry rest).toList = entry.toList ++ (rest.map String.toList).flatMap ('/' :: ·) := by
  simp [followed, String.toList_join, List.flatMap_map]

theorem pieces_followed {entry : String} {rest : List String} (proper : IsEntryName entry)
    (redundant : ∀ piece ∈ rest, IsRedundant piece) :
    pieces (followed entry rest).toList = entry.toList :: rest.map String.toList := by
  rw [toList_followed]
  refine pieces_append_flatMap (List.forall_mem_cons.2 ⟨proper.whole, ?_⟩)
  exact List.forall_mem_map.2 fun piece among => (redundant piece among).whole

theorem IsEntryName.isAbsolute_append {entry : String} (proper : IsEntryName entry)
    (rest : String) : isAbsolute (entry ++ rest) = false := by
  unfold isAbsolute
  rw [String.toList_append]
  cases text : entry.toList with
  | nil => exact absurd (String.toList_eq_nil_iff.1 text) proper.ne_empty
  | cons c cs =>
    have apart : c ≠ '/' := fun slash => proper.whole (by simp [text, slash])
    simpa using apart

theorem IsEntryName.isAbsolute_eq {entry : String} (proper : IsEntryName entry) :
    isAbsolute entry = false := by
  simpa using proper.isAbsolute_append ""

theorem IsEntryName.component?_eq {entry : String} (proper : IsEntryName entry) :
    component? entry.toList = some (.name entry) := by
  refine (component?_eq_name_iff _ _).2 ⟨?_, ?_, ?_, by simp⟩
  · exact fun text => proper.ne_empty (String.toList_inj.1 text)
  · exact fun text => proper.ne_dot (String.toList_inj.1 text)
  · exact fun text => proper.ne_dots (String.toList_inj.1 text)

/-- A plain name does not start with a slash or a single dot, and one of its pieces is a name. -/
theorem isPlainName_components {name : String} (plain : isPlainName name = true) :
    isAbsolute name = false ∧ (pieces name.toList).head? ≠ some ['.'] ∧
      ∃ entry, (pieces name.toList).filterMap component? = [.name entry] := by
  unfold isPlainName at plain
  split at plain
  · rename_i entry only
    dsimp only [components] at only
    split_ifs at only with absolute here
    · exact absurd only (by simp)
    · exact absurd only (by simp)
    · exact ⟨by simpa using absolute, here, entry, only⟩
  · exact absurd plain Bool.false_ne_true

/-- The pieces of a plain name: the name of an entry, and redundant ones. -/
theorem isPlainName_pieces {name : String} (plain : isPlainName name = true) :
    ∃ entry rest, pieces name.toList = entry :: rest ∧ IsEntryName (String.ofList entry) ∧
      (∀ piece ∈ rest, IsRedundant (String.ofList piece)) ∧
      name.toList = entry ++ rest.flatMap ('/' :: ·) := by
  obtain ⟨first, rest, split, whole, text⟩ := pieces_spec name.toList
  obtain ⟨relative, here, entry, only⟩ := isPlainName_components plain
  rw [split] at here only
  cases named : component? first with
  | none =>
    -- The text would be empty, or start with a slash.
    exfalso
    have empty : first = [] := by
      rcases (component?_eq_none_iff first).1 named with empty | dot
      · simpa using empty
      · exact absurd (by simpa using congrArg String.toList dot) here
    cases rest with
    | nil => simp [named] at only
    | cons second rest => simp [isAbsolute, text, empty] at relative
  | some component =>
    rw [List.filterMap_cons_some named, List.cons.injEq, List.filterMap_eq_nil_iff] at only
    obtain ⟨rfl, redundant⟩ := only
    obtain ⟨ne_nil, ne_dot, ne_dots, rfl⟩ := (component?_eq_name_iff first entry).1 named
    refine ⟨first, rest, split, ⟨?_, ?_, ?_, ?_⟩, ?_, text⟩
    · simpa using ne_nil
    · exact fun dot => ne_dot (by simpa using congrArg String.toList dot)
    · exact fun dots => ne_dots (by simpa using congrArg String.toList dots)
    · simpa using whole first List.mem_cons_self
    · exact fun piece among => (component?_eq_none_iff piece).1 (redundant piece among)

/-- A plain name is the name of an entry, behind which slashes and single dots may follow. -/
theorem isPlainName_iff (name : String) : isPlainName name = true ↔
    ∃ entry rest, IsEntryName entry ∧ (∀ piece ∈ rest, IsRedundant piece) ∧
      name = followed entry rest := by
  constructor
  · intro plain
    obtain ⟨entry, rest, -, proper, redundant, text⟩ := isPlainName_pieces plain
    refine ⟨String.ofList entry, rest.map String.ofList, proper, ?_, ?_⟩
    · exact List.forall_mem_map.2 redundant
    · rw [← String.toList_inj, toList_followed, text]
      simp [Function.comp_def]
  · rintro ⟨entry, rest, proper, redundant, rfl⟩
    have nothing : (rest.map String.toList).filterMap component? = [] := by
      refine List.filterMap_eq_nil_iff.2 (List.forall_mem_map.2 fun piece among => ?_)
      exact (component?_eq_none_iff _).2 (by simpa using redundant piece among)
    have here : (entry.toList :: rest.map String.toList).head? ≠ some ['.'] :=
      fun dot => proper.ne_dot (String.toList_inj.1 (Option.some.inj dot))
    unfold isPlainName components
    rw [show isAbsolute (followed entry rest) = false from proper.isAbsolute_append _, pieces_followed proper redundant]
    simp only [List.filterMap_cons_some proper.component?_eq, nothing, if_neg here,
      Bool.false_eq_true, if_false]

/-- A plain name without a slash is the name of an entry. -/
theorem isEntryName_iff (name : String) :
    IsEntryName name ↔ isPlainName name = true ∧ '/' ∉ name.toList := by
  rw [isPlainName_iff]
  constructor
  · exact fun proper => ⟨⟨name, [], proper, nofun, by simp [followed]⟩, proper.whole⟩
  · rintro ⟨⟨entry, rest, proper, -, rfl⟩, whole⟩
    cases rest with
    | nil => simpa [followed] using proper
    | cons piece rest => exact absurd (by simp [toList_followed]) whole

/-! ## Walking to a plain name -/

/-- What a path is joined to stands before it. -/
theorem join_eq_append (base path : String) : ∃ before, join base path = before ++ path := by
  unfold join
  split_ifs with alone slash
  · exact ⟨"", by simp⟩
  · exact ⟨base, rfl⟩
  · exact ⟨base ++ "/", rfl⟩

/-- The name of an entry is walked to as it is. -/
theorem IsEntryName.names_eq {entry : String} (proper : IsEntryName entry) :
    names entry = [entry] := by
  have named : entry.toList ≠ [] := proper.ne_empty ∘ String.toList_eq_nil_iff.1
  have slash : endsWithSlash entry = false := by
    refine beq_false_of_ne fun last => proper.whole ?_
    exact List.mem_of_getLast? last
  unfold names
  rw [pieces_of_not_mem proper.whole]
  simp [slash, named]

/-- The path of an entry has a slash unless the directory is given by an empty text. -/
theorem IsEntryName.slash_mem_join {entry : String} (proper : IsEntryName entry) (base : String) :
    '/' ∈ (join base entry).toList ↔ base ≠ "" := by
  unfold join
  rw [proper.isAbsolute_eq]
  split_ifs with empty slash
  · simp_all [proper.whole]
  · have member : '/' ∈ base.toList := List.mem_of_getLast? (by simpa [endsWithSlash] using slash)
    simp_all
  · simp_all

/-- The walk along a path that ends with a slash ends with a dot. -/
theorem names_of_endsWithSlash {path : String} {c : Char} (slash : endsWithSlash path = true)
    (member : c ∈ path.toList) (apart : c ≠ '/') : (names path).getLast? = some "." := by
  obtain ⟨piece, among, inside⟩ := exists_piece_of_mem member apart
  have named : ∃ piece, piece ∈ pieces path.toList ∧ ¬ piece = [] :=
    ⟨piece, among, List.ne_nil_of_mem inside⟩
  unfold names
  simp [slash, if_pos named]

/-- The walk along a path that ends with a slash and a dot ends with a dot. -/
theorem names_of_dot {path : String} {cs : List Char} (text : path.toList = cs ++ ['/', '.']) :
    (names path).getLast? = some "." := by
  have split : pieces path.toList = pieces cs ++ [['.']] := by
    rw [text]
    exact pieces_append cs ['.']
  have slash : endsWithSlash path = false := by simp [endsWithSlash, text]
  unfold names
  simp [slash, split]

/-- The walk to a plain name with a slash goes on behind the name. -/
theorem names_join_of_slash {name : String} (plain : isPlainName name = true)
    (slash : '/' ∈ name.toList) (base : String) : (names (join base name)).getLast? = some "." := by
  obtain ⟨entry, rest, proper, redundant, rfl⟩ := (isPlainName_iff name).1 plain
  obtain ⟨before, joined⟩ := join_eq_append base (followed entry rest)
  rw [joined]
  rcases List.eq_nil_or_concat rest with rfl | ⟨init, last, rfl⟩
  · exact absurd (by simpa [followed] using slash) proper.whole
  rw [List.concat_eq_append] at redundant ⊢
  have text : (before ++ followed entry (init ++ [last])).toList =
      before.toList ++ (followed entry init).toList ++ '/' :: last.toList := by
    simp [toList_followed]
  rcases redundant last (by simp) with rfl | rfl
  · obtain ⟨c, cs, start⟩ := List.exists_cons_of_ne_nil (proper.ne_empty ∘ String.toList_eq_nil_iff.1)
    refine names_of_endsWithSlash (c := c) (by simp [endsWithSlash, text]) ?_ ?_
    · simp [text, toList_followed, start]
    · exact fun same => proper.whole (by simp [start, same])
  · exact names_of_dot text

end Path

/-- The nodes that are regular files. -/
inductive Node.IsRegular : Node → Prop
  | file (content : Bytes) (executable : Bool) : IsRegular (.file content executable)
  | program (main : Main) : IsRegular (.program main)

namespace FileTree

/-! ## Regular files -/

/-- The walk along a path, through links, ends at the regular file of the given number. -/
structure RegularAt (tree : FileTree) (directory : Nat) (path : String) (number : Nat) : Prop where
  speakable : '\x00' ∉ path.toList
  found : tree.find directory path = .ok number
  regular : ∃ node, tree.get? number = some node ∧ node.IsRegular

theorem node?_eq_some_iff {tree : FileTree} {directory : Nat} {path : String} {node : Node} :
    tree.node? directory path = some node ↔ '\x00' ∉ path.toList ∧
      ∃ number, tree.find directory path = .ok number ∧ tree.get? number = some node := by
  unfold node?
  split_ifs with nul
  · simp_all
  · have speakable : '\x00' ∉ path.toList := by simpa using nul
    cases tree.find directory path <;> simp [speakable]

theorem isFile_iff (tree : FileTree) (directory : Nat) (path : String) :
    tree.isFile directory path = true ↔ ∃ number, tree.RegularAt directory path number := by
  have test : tree.isFile directory path = true ↔
      ∃ node, tree.node? directory path = some node ∧ node.IsRegular := by
    unfold isFile
    cases tree.node? directory path with
    | none => simp
    | some node =>
      cases node with
      | file content executable => simp [Node.IsRegular.file]
      | program main => simp [Node.IsRegular.program]
      | directory | link | device => simpa using nofun
  rw [test]
  constructor
  · rintro ⟨node, asked, regular⟩
    obtain ⟨speakable, number, found, kind⟩ := node?_eq_some_iff.1 asked
    exact ⟨number, speakable, found, node, kind, regular⟩
  · rintro ⟨number, speakable, found, node, kind, regular⟩
    exact ⟨node, node?_eq_some_iff.2 ⟨speakable, number, found, kind⟩, regular⟩

theorem getLast?_of_cons {name : String} {rest : List String} (apart : name ≠ ".")
    (dot : (name :: rest).getLast? = some ".") : rest.getLast? = some "." := by
  cases rest with
  | nil => exact absurd (by simpa using dot) apart
  | cons => simpa using dot

/-- A walk that ends with a dot ends at a directory. -/
theorem walk_dot {tree : FileTree} {follow : Bool} {links position number : Nat}
    {names : List String} (dot : names.getLast? = some ".")
    (walked : tree.walk follow links position names = .ok (.node number)) :
    ∃ parent entries, tree.get? number = some (.directory parent entries) := by
  fun_induction walk tree follow links position names with
  | case1 => exact absurd dot (by simp)
  | case2 links position rest parent entries found ih =>
    cases rest with
    | nil =>
      rw [walk] at walked
      cases walked
      exact ⟨parent, entries, found⟩
    | cons name rest => exact ih (by simpa using dot) walked
  | case3 links position rest parent entries found apart ih =>
    exact ih (getLast?_of_cons apart dot) walked
  | case7 links position name rest parent entries found here up short next entry target link last =>
    have rest_dot := getLast?_of_cons here dot
    simp_all
  | case9 position name rest parent entries found here up short next entry target link goes links
      start ih =>
    refine ih ?_ walked
    rw [List.getLast?_append, getLast?_of_cons here dot, Option.some_or]
  | case10 links position name rest parent entries found here up short next entry straight ih =>
    exact ih (getLast?_of_cons here dot) walked
  | _ => cases walked

/-- A path leads where the walk along its names leads. -/
theorem walk_of_find {tree : FileTree} {directory number : Nat} {path : String}
    (found : tree.find directory path = .ok number) :
    ∃ start, tree.walk true mostLinks start (Path.names path) = .ok (.node number) := by
  rw [find_eq_ok] at found
  unfold locate at found
  split at found
  · cases found
  · split at found
    · cases found
    · exact ⟨_, found⟩

/-- A path whose last name is a dot does not lead to a regular file. -/
theorem isFile_of_dot {path : String} (dot : (Path.names path).getLast? = some ".")
    (tree : FileTree) (directory : Nat) : tree.isFile directory path = false := by
  rw [Bool.eq_false_iff, ne_eq, isFile_iff]
  rintro ⟨number, -, found, node, kind, regular⟩
  obtain ⟨start, walked⟩ := walk_of_find found
  obtain ⟨parent, entries, is⟩ := walk_dot dot walked
  cases kind.symm.trans is
  cases regular

/-- A plain name with a slash leads to no regular file, in whatever directory it is read. -/
theorem isFile_join_of_slash {name : String} (plain : Path.isPlainName name = true)
    (slash : '/' ∈ name.toList) (base : String) (tree : FileTree) (directory : Nat) :
    tree.isFile directory (Path.join base name) = false :=
  isFile_of_dot (Path.names_join_of_slash plain slash base) tree directory

end FileTree

end AlgorithmDriver

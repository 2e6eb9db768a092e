import AlgorithmDriver.Host.Path
import AlgorithmDriver.Host.Program

/-!
# The file tree

Files, directories and links.  Nodes are known by number; the root is node zero.  A path is walked
through name by name, following links, and leads to a node or to a vacant place in a directory.
-/

namespace AlgorithmDriver

/-- A device file. -/
inductive Device where
  /-- Reading gives nothing, and what is written vanishes. -/
  | null
  /-- Reading gives zeros for ever, and what is written vanishes. -/
  | zero
  /-- Reading gives zeros for ever, and writing fails for lack of space. -/
  | full
  deriving DecidableEq, Repr

/-- What a node of the tree is. -/
inductive Node where
  | file (content : Bytes) (executable : Bool)
  /-- A program that belongs to the host. -/
  | program (main : Main)
  | directory (parent : Nat) (entries : List (String × Nat))
  | link (target : String)
  | device (device : Device)

instance : Inhabited Node := ⟨.file [] false⟩

/-- The nodes by number. -/
structure FileTree where
  nodes : List Node

/-- Where a path leads. -/
inductive Destination where
  | node (number : Nat)
  /-- There is nothing of that name in the directory, but there could be. -/
  | vacant (directory : Nat) (name : String)
  deriving DecidableEq, Repr

namespace FileTree

/-- A tree that consists of its root. -/
def empty : FileTree := ⟨[.directory 0 []]⟩

/-- The node of the given number. -/
def get? (tree : FileTree) (number : Nat) : Option Node := tree.nodes[number]?

/-- Replaces a node. -/
def set (tree : FileTree) (number : Nat) (node : Node) : FileTree :=
  ⟨tree.nodes.set number node⟩

/-- Adds a node that no directory holds. -/
def add (tree : FileTree) (node : Node) : Nat × FileTree :=
  (tree.nodes.length, ⟨tree.nodes ++ [node]⟩)

/-! ## Walking -/

/-- The longest name that a directory can hold, in bytes. -/
def longestName : Nat := 255

/-- The shortest path that is too long, in bytes. -/
def tooLongPath : Nat := 4096

/-- How many links are followed in one walk. -/
def mostLinks : Nat := 40

/-- Walks from the directory `position` through `names`.  A link is followed when the walk goes on
after it, or when `follow` says so. -/
def walk (tree : FileTree) (follow : Bool) (links position : Nat) (names : List String) :
    Except Errno Destination :=
  match names with
  | [] => .ok (.node position)
  | name :: rest =>
    match tree.get? position with
    | some (.directory parent entries) =>
      if name = "." then walk tree follow links position rest
      else if name = ".." then walk tree follow links parent rest
      else if name.utf8ByteSize > longestName then .error .nameTooLong
      else
        match entries.lookup name with
        | none => if rest.isEmpty then .ok (.vacant position name) else .error .noEntry
        | some next =>
          match tree.get? next with
          | some (.link target) =>
            if rest.isEmpty && !follow then .ok (.node next)
            else
              match links with
              | 0 => .error .linkLoop
              | links + 1 =>
                let start := if Path.isAbsolute target then 0 else position
                walk tree follow links start (Path.names target ++ rest)
          | _ => walk tree follow links next rest
    | _ => .error .notDirectory
termination_by (links, names.length)

/-- Walks along a path that is read in the directory `directory`. -/
def locate (tree : FileTree) (follow : Bool) (directory : Nat) (path : String) :
    Except Errno Destination :=
  if path = "" then .error .noEntry
  else if path.utf8ByteSize ≥ tooLongPath then .error .nameTooLong
  else
    tree.walk follow mostLinks (if Path.isAbsolute path then 0 else directory) (Path.names path)

/-- The node that a path leads to. -/
def find (tree : FileTree) (directory : Nat) (path : String) : Except Errno Nat :=
  match tree.locate true directory path with
  | .error e => .error e
  | .ok (.vacant ..) => .error .noEntry
  | .ok (.node number) => .ok number

/-- The node that a path leads to, when it is to be written.  A path that ends with a slash can only
lead to a directory, which cannot be written. -/
def locateForWriting (tree : FileTree) (directory : Nat) (path : String) :
    Except Errno Destination :=
  match tree.locate true directory path with
  | .error .noEntry => if Path.endsWithSlash path then slashed else .error .noEntry
  | .error .notDirectory => if Path.endsWithSlash path then slashed else .error .notDirectory
  | .error e => .error e
  | .ok destination => .ok destination
where
  /-- The failure for a path that ends with a slash: that of the walk to the last directory, if it
  fails. -/
  slashed : Except Errno Destination :=
    match tree.walk true mostLinks (if Path.isAbsolute path then 0 else directory)
        (Path.names path).dropLast.dropLast with
    | .error e => .error e
    | .ok (.vacant ..) => .error .noEntry
    | .ok (.node number) =>
      match tree.get? number with
      | some (.directory ..) => .error .isDirectory
      | _ => .error .notDirectory

/-! ## Questions about nodes -/

/-- The node that a path leads to, if it can be asked for: no path with a NUL character can. -/
def node? (tree : FileTree) (directory : Nat) (path : String) : Option Node :=
  if path.toList.contains '\x00' then none
  else
    match tree.find directory path with
    | .error _ => none
    | .ok number => tree.get? number

/-- Whether a path leads to a regular file. -/
def isFile (tree : FileTree) (directory : Nat) (path : String) : Bool :=
  match tree.node? directory path with
  | some (.file ..) => true
  | some (.program ..) => true
  | _ => false

/-- Whether a path leads to a regular file that may be executed. -/
def isExecutable (tree : FileTree) (directory : Nat) (path : String) : Bool :=
  match tree.node? directory path with
  | some (.file _ executable) => executable
  | some (.program ..) => true
  | _ => false

/-- The content of the regular file that a path leads to. -/
def content? (tree : FileTree) (directory : Nat) (path : String) : Option Bytes :=
  match tree.find directory path with
  | .error _ => none
  | .ok number =>
    match tree.get? number with
    | some (.file content _) => some content
    | _ => none

/-- The path from the root to a directory.  `fuel` bounds its depth. -/
def pathOf (tree : FileTree) : (fuel number : Nat) → String
  | 0, _ => "/"
  | fuel + 1, number =>
    match tree.get? number with
    | some (.directory parent _) =>
      if parent = number then "/"
      else
        match tree.get? parent with
        | some (.directory _ entries) =>
          match entries.find? (·.2 == number) with
          | some (name, _) => Path.join (pathOf tree fuel parent) name
          | none => "/"
        | _ => "/"
    | _ => "/"

/-! ## Growing -/

/-- Adds a node under a name to a directory. -/
def attach (tree : FileTree) (directory : Nat) (name : String) (node : Node) : Nat × FileTree :=
  match tree.get? directory with
  | some (.directory parent entries) =>
    let (number, tree) := tree.add node
    (number, tree.set directory (.directory parent (entries ++ [(name, number)])))
  | _ => (directory, tree)

/-- The directory reached through `names`; directories that are missing are made. -/
def enterAll (tree : FileTree) (directory : Nat) : List String → Nat × FileTree
  | [] => (directory, tree)
  | name :: rest =>
    match tree.walk true mostLinks directory [name] with
    | .ok (.node number) => enterAll tree number rest
    | .ok (.vacant place name) =>
      let (number, tree) := tree.attach place name (.directory place [])
      enterAll tree number rest
    | .error _ => (directory, tree)

/-- Puts a node at a path, with the directories that lead there.  What stood there is replaced. -/
def place (tree : FileTree) (directory : Nat) (path : String) (node : Nat → Node) : FileTree :=
  let names := (Path.names path).filter (· ≠ ".")
  match names.getLast? with
  | none => tree
  | some name =>
    let start := if Path.isAbsolute path then 0 else directory
    let (parent, tree) := tree.enterAll start names.dropLast
    match tree.walk false mostLinks parent [name] with
    | .ok (.node number) => tree.set number (node parent)
    | _ => (tree.attach parent name (node parent)).2

end FileTree

end AlgorithmDriver

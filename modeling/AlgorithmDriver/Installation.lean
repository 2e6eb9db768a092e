import AlgorithmDriver.Filter.Lines
import AlgorithmDriver.Filter.Producer
import AlgorithmDriver.Session
import AlgorithmDriver.Shell.Invocation

/-!
# A fresh machine

The machine on which a session or a command takes place: the usual directories and devices, the
programs that algorithms may use, and an empty directory to work in.
-/

namespace AlgorithmDriver

/-- A file to be there from the start. -/
inductive Fixture where
  | file (path : String) (content : Bytes) (executable : Bool)
  | directory (path : String)
  | link (path target : String)
  deriving DecidableEq, Repr

namespace Installation

/-- The directory to work in. -/
def workingDirectory : String := "/tmp/session"

/-- The search path unless another one is asked for. -/
def standardSearchPath : String := "/usr/local/bin:/usr/bin:/bin"

/-- The programs by name. -/
def programs : List (String × Main) :=
  [("sh", Shell.main), ("cat", Filter.cat), ("tee", Filter.tee), ("head", Filter.head),
   ("tail", Filter.tail), ("wc", Filter.wc), ("tr", Filter.tr), ("sort", Filter.sort),
   ("uniq", Filter.uniq), ("rev", Filter.rev), ("true", Filter.succeed), ("false", Filter.decline),
   ("test", Filter.test), ("[", Filter.bracket), ("echo", Filter.echo), ("printf", Filter.printf),
   ("seq", Filter.seq), ("yes", Filter.yes), ("env", Filter.environment),
   ("pwd", Filter.directory), ("sleep", Filter.sleep)]

/-- The directories that are there from the start. -/
def directories : List String :=
  ["/usr/bin", "/usr/local/bin", "/dev", "/etc", "/home", "/root", "/var", workingDirectory]

/-- Makes a directory with those that lead to it. -/
def makeDirectory (tree : FileTree) (directory : Nat) (path : String) : FileTree :=
  (tree.enterAll (if Path.isAbsolute path then 0 else directory) (Path.names path)).2

/-- Makes the file of a fixture. -/
def place (directory : Nat) (tree : FileTree) : Fixture → FileTree
  | .file path content executable => tree.place directory path fun _ => .file content executable
  | .directory path => makeDirectory tree directory path
  | .link path target => tree.place directory path fun _ => .link target

/-- The file tree of a fresh machine. -/
def tree : FileTree :=
  let tree := directories.foldl (fun tree path => makeDirectory tree 0 path) FileTree.empty
  let tree := tree.place 0 "/bin" fun _ => .link "usr/bin"
  let tree := tree.place 0 "/dev/null" fun _ => .device .null
  let tree := tree.place 0 "/dev/zero" fun _ => .device .zero
  let tree := tree.place 0 "/dev/full" fun _ => .device .full
  programs.foldl
    (fun tree (name, main) => tree.place 0 (Path.join "/usr/bin" name) fun _ => .program main) tree

/-- A fresh machine with some files in the working directory, and a search path. -/
def host (fixtures : List Fixture) (searchPath : String) : Host :=
  let directory := match tree.find 0 workingDirectory with
    | .ok number => number
    | .error _ => 0
  { files := fixtures.foldl (place directory) tree
    directory
    environment := [(Bytes.ofAscii "PATH", Bytes.ofText searchPath)] }

/-- Adds a file that no directory holds, and opens it. -/
def anonymousFile (host : Host) (content : Bytes) : Nat × Nat × Host :=
  let (node, files) := host.files.add (.file content false)
  let (description, host) := { host with files }.describe { object := .node node, appends := true }
  (node, description, host)

/-- A session with a number of drivers of one configuration on a fresh machine. -/
def session (fixtures : List Fixture) (searchPath : String) (config : Config) (drivers : Nat) :
    Session :=
  let (_, errors, host) := anonymousFile (host fixtures searchPath) []
  { drivers := List.replicate drivers { config }, world := { host, errors } }

end Installation

end AlgorithmDriver

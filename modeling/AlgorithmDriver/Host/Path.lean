/-!
# Paths

A path is a text in which slashes separate names.  Two readings of a path are needed: the names that
are walked through one after another to find a file, and the components that remain when redundant
slashes and dots are left out.
-/

namespace AlgorithmDriver.Path

/-! ## Pieces -/

/-- The pieces between the slashes of a text, empty ones included. -/
def pieces : List Char → List (List Char)
  | [] => [[]]
  | c :: cs =>
    if c = '/' then [] :: pieces cs
    else
      match pieces cs with
      | [] => [[c]]
      | piece :: rest => (c :: piece) :: rest

/-- Whether a path starts at the root. -/
def isAbsolute (path : String) : Bool := path.toList.head? == some '/'

/-- Whether a path ends with a slash. -/
def endsWithSlash (path : String) : Bool := path.toList.getLast? == some '/'

/-- The names to walk through.  A slash at the end asks for a directory, as a final dot does. -/
def names (path : String) : List String :=
  let named := ((pieces path.toList).filter (· ≠ [])).map String.ofList
  if endsWithSlash path && !named.isEmpty then named ++ ["."] else named

/-! ## Components -/

/-- A part of a path that matters. -/
inductive Component where
  /-- The slash at the start of an absolute path. -/
  | root
  /-- A dot at the start of a relative path. -/
  | here
  /-- Two dots. -/
  | parent
  | name (name : String)
  deriving DecidableEq, Repr

/-- The component that a piece stands for; empty pieces and dots stand for none. -/
def component? (piece : List Char) : Option Component :=
  if piece = [] ∨ piece = ['.'] then none
  else if piece = ['.', '.'] then some .parent
  else some (.name (String.ofList piece))

/-- The components of a path. -/
def components (path : String) : List Component :=
  let parts := pieces path.toList
  let rest := parts.filterMap component?
  if isAbsolute path then .root :: rest
  else if parts.head? = some ['.'] then .here :: rest
  else rest

/-- A name that stays inside the directory it is joined to: its only component is a name. -/
def isPlainName (path : String) : Bool :=
  match components path with
  | [.name _] => true
  | _ => false

/-! ## Joining -/

/-- The path that `path` denotes when it is read in the directory `directory`. -/
def join (directory path : String) : String :=
  if isAbsolute path || directory = "" then path
  else if endsWithSlash directory then directory ++ path
  else directory ++ "/" ++ path

/-- Goes from a path to one of its components. -/
def push (path : String) : Component → String
  | .root => "/"
  | .here => join path "."
  | .parent => join path ".."
  | .name name => join path name

/-- A path that starts at the root.  A relative one is read in `directory`: its leading dots and
redundant parts are left out, but no two dots are resolved. -/
def absolute (directory path : String) : String :=
  if isAbsolute path then path
  else ((components path).dropWhile (· == .here)).foldl push directory

/-- Whether a path has more than one component. -/
def hasSeveralComponents (path : String) : Bool := (components path).length > 1

/-- The entries of a search path.  An empty entry stands for the directory one is in. -/
def searchEntries (search : String) : List String :=
  let rec split : List Char → List (List Char)
    | [] => [[]]
    | c :: cs =>
      if c = ':' then [] :: split cs
      else
        match split cs with
        | [] => [[c]]
        | entry :: rest => (c :: entry) :: rest
  (split search.toList).map String.ofList

end AlgorithmDriver.Path

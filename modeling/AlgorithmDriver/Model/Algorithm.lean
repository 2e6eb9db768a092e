import AlgorithmDriver.Model.Variable

/-!
# Functions, algorithms and interfaces

An algorithm is a unit of work with shared data, functions that its user calls, and callbacks that
it calls back.  The three share one namespace.  An interface groups algorithms.
-/

namespace AlgorithmDriver

/-- A function of an algorithm, or a callback that its user provides. -/
structure Function where
  /-- What the function is called. -/
  name : String
  /-- Its parameters. -/
  parameters : NamedList Variable := .empty
  /-- The type of its result, none for a procedure. -/
  result : Option BaseType := none
  deriving DecidableEq, Repr, Inhabited

namespace Function

instance : Named Function where
  kind := "function"
  name := Function.name
  check _ := .ok ()

/-- Adds a parameter after the others. -/
def addParameter (f : Function) (parameter : Variable) : Except ModelError Function :=
  (f.parameters.insert parameter).map fun parameters => { f with parameters }

end Function

/-- A unit of work. -/
structure Algorithm where
  /-- What the algorithm is called. -/
  name : String
  /-- State shared by its functions, declared before everything else. -/
  data : Block := .empty
  /-- Functions provided by the user of the algorithm, for it to call. -/
  callbacks : NamedList Function := .empty
  /-- Functions that the algorithm provides. -/
  functions : NamedList Function := .empty
  deriving DecidableEq, Repr, Inhabited

namespace Algorithm

/-- The names of all members with what each member is, in order of declaration: data, callbacks,
then functions. -/
def members (a : Algorithm) : List (String × String) :=
  a.data.names.map (("variable", ·)) ++ a.callbacks.names.map (("callback", ·)) ++
    a.functions.names.map (("function", ·))

/-- Reports the first member whose name was met before. -/
def firstClash (seen : List String) : List (String × String) → Except ModelError Unit
  | [] => .ok ()
  | (kind, name) :: rest =>
    if seen.contains name then .error (.duplicateName kind name)
    else firstClash (name :: seen) rest

/-- No two members may have the same name. -/
def check (a : Algorithm) : Except ModelError Unit :=
  firstClash [] a.members

instance : Named Algorithm where
  kind := "algorithm"
  name := Algorithm.name
  check := Algorithm.check

/-- Whether a member is called `name`. -/
def declares (a : Algorithm) (name : String) : Bool :=
  (a.data.get? name).isSome || a.callbacks.contains name || a.functions.contains name

/-- Adds a function, whose name no other member may have. -/
def addFunction (a : Algorithm) (f : Function) : Except ModelError Algorithm :=
  if a.declares f.name then .error (.duplicateName "function" f.name)
  else (a.functions.insert f).map fun functions => { a with functions }

/-- Adds a callback, whose name no other member may have. -/
def addCallback (a : Algorithm) (f : Function) : Except ModelError Algorithm :=
  if a.declares f.name then .error (.duplicateName "callback" f.name)
  else (a.callbacks.insert f).map fun callbacks => { a with callbacks }

/-- Adds a variable to the shared data.  Callbacks and functions are not looked at: a clash with
them is found when the algorithm enters an interface. -/
def addData (a : Algorithm) (v : Variable) : Except ModelError Algorithm :=
  (a.data.insert v).map fun data => { a with data }

end Algorithm

/-- Algorithms that are exposed together. -/
structure Interface where
  /-- What the interface is called. -/
  name : String
  /-- Its algorithms. -/
  algorithms : NamedList Algorithm := .empty
  deriving DecidableEq, Repr, Inhabited

namespace Interface

/-- An interface without algorithms, if the name can be used. -/
def new (name : String) : Except ModelError Interface :=
  (checkName "interface" name).map fun () => { name }

/-- Adds an algorithm after the others. -/
def addAlgorithm (i : Interface) (a : Algorithm) : Except ModelError Interface :=
  (i.algorithms.insert a).map fun algorithms => { i with algorithms }

end Interface

end AlgorithmDriver

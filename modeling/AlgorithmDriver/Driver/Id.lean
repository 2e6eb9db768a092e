import AlgorithmDriver.Number.Decimal

/-!
# Ids

Started algorithms and open channels are known to their users by numbers.  Ids of different sorts of
resources are of different types, so that one can never be used in place of another.
-/

namespace AlgorithmDriver

/-- The sorts of resources that have ids. -/
inductive Resource where
  /-- A started algorithm. -/
  | algorithm
  /-- A file opened for reading. -/
  | readFile
  /-- A file opened for writing. -/
  | writeFile
  deriving DecidableEq, Repr

namespace Resource

/-- What a resource is called in messages. -/
def label : Resource → String
  | algorithm => "algorithm"
  | readFile => "read channel"
  | writeFile => "write channel"

/-- What the type of its id is called. -/
def idName : Resource → String
  | algorithm => "AlgorithmId"
  | readFile => "ReadFileId"
  | writeFile => "WriteFileId"

end Resource

/-- The id of a resource. -/
structure Id (resource : Resource) where
  /-- The number. -/
  raw : Nat
  deriving DecidableEq, Repr, Inhabited

/-- The id of a started algorithm. -/
abbrev AlgorithmId := Id .algorithm

/-- The id of a file opened for reading. -/
abbrev ReadFileId := Id .readFile

/-- The id of a file opened for writing. -/
abbrev WriteFileId := Id .writeFile

namespace Id

variable {resource : Resource}

/-- An id as it is shown in messages, such as `algorithm #3`. -/
def text (id : Id resource) : String := resource.label ++ " #" ++ Decimal.text id.raw

/-- An id with the name of its type, such as `AlgorithmId(3)`. -/
def inspect (id : Id resource) : String := resource.idName ++ "(" ++ Decimal.text id.raw ++ ")"

end Id

end AlgorithmDriver

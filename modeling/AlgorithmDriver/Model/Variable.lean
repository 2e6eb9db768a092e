import AlgorithmDriver.Model.NamedList

/-!
# Variables

Typed values with a name: parameters of functions and shared data of algorithms.  A variable
without dimensions is a scalar, any other is an array, outermost dimension first.
-/

namespace AlgorithmDriver

/-- The type of a scalar. -/
inductive BaseType where
  /-- A signed integer. -/
  | int
  deriving DecidableEq, Repr, Inhabited

namespace BaseType

/-- All base types. -/
def all : List BaseType := [int]

/-- How a base type is written in descriptions. -/
def name : BaseType → String
  | int => "int"

/-- The base type of the given name. -/
def ofName? (name : String) : Option BaseType :=
  all.find? (·.name == name)

end BaseType

/-- The number of elements along one dimension of an array. -/
inductive Extent where
  /-- Known only when the generated program runs. -/
  | unbounded
  /-- Known in advance. -/
  | fixed (size : UInt64)
  deriving DecidableEq, Repr, Inhabited

/-- One dimension of an array. -/
structure Dimension where
  /-- The number of elements along the dimension. -/
  extent : Extent := .unbounded
  deriving DecidableEq, Repr, Inhabited

namespace Dimension

/-- The size, when it is known in advance. -/
def size? (d : Dimension) : Option UInt64 :=
  match d.extent with
  | .unbounded => none
  | .fixed size => some size

end Dimension

/-- A parameter of a function, or an item of shared data. -/
structure Variable where
  /-- What the variable is called. -/
  name : String
  /-- The type of its elements. -/
  baseType : BaseType
  /-- Its dimensions, outermost first; none for a scalar. -/
  dimensions : List Dimension := []
  deriving DecidableEq, Repr, Inhabited

namespace Variable

/-- Whether the variable is a single value. -/
def isScalar (v : Variable) : Bool := v.dimensions.isEmpty

/-- The sizes of all dimensions, when all are known in advance. -/
def fixedSizes? (v : Variable) : Option (List UInt64) :=
  v.dimensions.mapM Dimension.size?

/-- No dimension may have size zero. -/
def check (v : Variable) : Except ModelError Unit :=
  if v.dimensions.any (·.size? == some 0) then .error (.zeroExtent v.name) else .ok ()

instance : Named Variable where
  kind := "variable"
  name := Variable.name
  check := Variable.check

end Variable

/-- A group of variables, such as the shared data of an algorithm. -/
abbrev Block := NamedList Variable

end AlgorithmDriver

import AlgorithmDriver.Cpp.Page
import AlgorithmDriver.Model.Algorithm
import AlgorithmDriver.Number.Decimal

/-!
# C++ declarations

The C++ text of a description.  Items are written in order of declaration, one to a line, and what is
inside a namespace is indented by four spaces.  How the items are laid out is said by templates.
Names are written as they are: only items that went through a collection are known to have names
that C++ accepts.
-/

namespace AlgorithmDriver.Cpp

/-! ## Variables -/

/-- How a base type is spelled. -/
def baseType : BaseType → String
  | .int => "int"

/-- The type of a variable that is passed by pointer: one level for each dimension. -/
def pointerType (v : Variable) : String :=
  baseType v.baseType ++ String.ofList (List.replicate v.dimensions.length '*')

/-- A variable as a parameter, such as `int* data`. -/
def parameter (v : Variable) : String :=
  if v.name = "" then pointerType v else pointerType v ++ " " ++ v.name

/-- A dimension of known size. -/
def bracketed (size : UInt64) : String := "[" ++ Decimal.text size.toNat ++ "]"

/-- A variable as a declaration, such as `int grid[3][4];`.  Arrays with a dimension of unknown size
are declared as pointers. -/
def declaration (v : Variable) : String :=
  match v.fixedSizes? with
  | some sizes => baseType v.baseType ++ " " ++ v.name ++ String.join (sizes.map bracketed) ++ ";"
  | none => pointerType v ++ " " ++ v.name ++ ";"

/-! ## Functions -/

/-- How the type of a result is spelled. -/
def resultType : Option BaseType → String
  | none => "void"
  | some t => baseType t

/-- The declaration of a function. -/
def prototype (f : Function) : String :=
  resultType f.result ++ " " ++ f.name ++ "(" ++
    ", ".intercalate (f.parameters.toList.map parameter) ++ ");"

/-! ## Templates -/

/-- A namespace around some steps. -/
def scopeSteps (name : String) (body : List Step) : List Step :=
  [.text ("namespace " ++ name ++ " \x7b"), .shift 1] ++ body ++ [.shift (-1), .text "\x7d"]

/-- A line for each variable of a block. -/
def blockSteps (b : Block) : List Step :=
  joined .push (b.toList.map fun v => [.text (declaration v)])

/-- A line for each of some functions. -/
def functionSteps (fs : NamedList Function) : List Step :=
  joined .push (fs.toList.map fun f => [.text (prototype f)])

/-- An algorithm is a namespace around its data, its callbacks, then its functions. -/
def algorithmSteps (a : Algorithm) : List Step :=
  scopeSteps a.name
    (joined .push [blockSteps a.data, functionSteps a.callbacks, functionSteps a.functions])

/-- An interface is a namespace around its algorithms. -/
def interfaceSteps (i : Interface) : List Step :=
  [.text "#pragma once", .line] ++
    scopeSteps i.name (joined .line (i.algorithms.toList.map algorithmSteps))

/-! ## Whole texts -/

/-- Lines as a text, which always ends with the end of a line. -/
def text (lines : List String) : String := "\n".intercalate lines ++ "\n"

/-- The text of a block of variables. -/
def renderBlock (b : Block) : String := text (layout (blockSteps b))

/-- The text of a function. -/
def renderFunction (f : Function) : String := text (layout [.text (prototype f)])

/-- The text of an algorithm. -/
def renderAlgorithm (a : Algorithm) : String := text (layout (algorithmSteps a))

/-- The text of an interface. -/
def renderInterface (i : Interface) : String := text (layout (interfaceSteps i))

end AlgorithmDriver.Cpp

import AlgorithmDriver.Cpp.Declaration
import AlgorithmDriver.Json.Description
import AlgorithmDriver.Model.Same

/-!
# Building descriptions step by step

A workbench holds values of any sort in registers and changes them one step at a time: values are
created, loaded from documents, copied, assigned to, and put into one another.  A step that fails
leaves every register as it was, except that the assignments of a step that succeeded in part stay.
-/

namespace AlgorithmDriver

/-- A collection of any sort of items. -/
inductive Collection where
  | ofVariables (items : NamedList Variable)
  | ofFunctions (items : NamedList Function)
  | ofAlgorithms (items : NamedList Algorithm)
  deriving DecidableEq, Repr

/-- A part of a description. -/
inductive Value where
  | baseType (type : BaseType)
  | extent (extent : Extent)
  | dimension (dimension : Dimension)
  | variable (v : Variable)
  | block (b : Block)
  | function (f : Function)
  | algorithm (a : Algorithm)
  | interface (i : Interface)
  | collection (c : Collection)
  deriving DecidableEq, Repr

/-- The sorts of values that can be loaded. -/
inductive Shape where
  | baseType | extent | dimension | variable | block | function | algorithm | interface
  | variableList | functionList | algorithmList
  deriving DecidableEq, Repr

namespace Shape

/-- The reader of each sort of value. -/
def reader (shape : Shape) (naming : Json.Naming := .key) : Json.Reader Value :=
  match shape with
  | baseType => (BaseType.reader naming).map .baseType
  | extent => (Extent.reader naming).map .extent
  | dimension => (Dimension.reader naming).map .dimension
  | «variable» => (Variable.reader naming).map .variable
  | block => (Block.reader naming).map .block
  | function => (Function.reader naming).map .function
  | algorithm => (Algorithm.reader naming).map .algorithm
  | interface => (Interface.reader naming).map .interface
  | variableList =>
    (NamedList.reader (Variable.reader naming)).map fun l => .collection (.ofVariables l)
  | functionList =>
    (NamedList.reader (Function.reader naming)).map fun l => .collection (.ofFunctions l)
  | algorithmList =>
    (NamedList.reader (Algorithm.reader naming)).map fun l => .collection (.ofAlgorithms l)

end Shape

/-- The C++ text of a value. -/
inductive Rendering where
  /-- Values of this sort have no text. -/
  | none
  | text (text : String)
  /-- A variable as a parameter and as a declaration. -/
  | variable (parameter declaration : String)
  deriving DecidableEq, Repr

namespace Value

/-- Loads a document as a value of the given sort. -/
def load (shape : Shape) (document : String) (naming : Json.Naming := .key) :
    Except Json.Problem Value :=
  (shape.reader naming).load document

/-- The position that is reported when there is a problem with the content of a document. -/
def position? (shape : Shape) (document : String) (naming : Json.Naming := .key) :
    Option Json.Position :=
  (shape.reader naming).position? document

/-- A value as a document. -/
def write : Value → List Char
  | .baseType t => t.write
  | .extent e => e.write
  | .dimension d => d.write
  | .variable v => v.write
  | .block b => Block.write b
  | .function f => f.write
  | .algorithm a => a.write
  | .interface i => i.write
  | .collection (.ofVariables l) => l.write Variable.write
  | .collection (.ofFunctions l) => l.write Function.write
  | .collection (.ofAlgorithms l) => l.write Algorithm.write

/-- The document of a value. -/
def dump (v : Value) : String := String.ofList v.write

/-- The C++ text of a value. -/
def render : Value → Rendering
  | .variable v => .variable (Cpp.text [Cpp.parameter v]) (Cpp.text [Cpp.declaration v])
  | .block b => .text (Cpp.renderBlock b)
  | .function f => .text (Cpp.renderFunction f)
  | .algorithm a => .text (Cpp.renderAlgorithm a)
  | .interface i => .text (Cpp.renderInterface i)
  | _ => .none

/-- Whether two values are of the same sort and the same up to order of declaration. -/
def same : Value → Value → Bool
  | .baseType a, .baseType b => a == b
  | .extent a, .extent b => a == b
  | .dimension a, .dimension b => a == b
  | .variable a, .variable b => a == b
  | .block a, .block b => Block.same a b
  | .function a, .function b => a.same b
  | .algorithm a, .algorithm b => a.same b
  | .interface a, .interface b => a.same b
  | .collection (.ofVariables a), .collection (.ofVariables b) => a.sameBy (· == ·) b
  | .collection (.ofFunctions a), .collection (.ofFunctions b) => a.sameBy Function.same b
  | .collection (.ofAlgorithms a), .collection (.ofAlgorithms b) => a.sameBy Algorithm.same b
  | _, _ => false

end Value

/-- The places of a value that hold a collection. -/
inductive Place where
  | parameters | data | callbacks | functions | algorithms
  /-- The items of a value that is itself a collection. -/
  | items
  deriving DecidableEq, Repr

/-- The collection at a place of a value. -/
def Value.collection? : Value → Place → Option Collection
  | .function f, .parameters => some (.ofVariables f.parameters)
  | .algorithm a, .data => some (.ofVariables a.data)
  | .algorithm a, .callbacks => some (.ofFunctions a.callbacks)
  | .algorithm a, .functions => some (.ofFunctions a.functions)
  | .interface i, .algorithms => some (.ofAlgorithms i.algorithms)
  | .block b, .items => some (.ofVariables b)
  | .collection c, .items => some c
  | _, _ => none

/-- A change of a value.  Items that are added are taken from registers. -/
inductive Edit where
  /-- Assigns the name. -/
  | name (name : String)
  /-- Assigns the dimensions of a variable. -/
  | dimensions (dimensions : List Dimension)
  /-- Assigns the type of the result of a function. -/
  | result (result : Option BaseType)
  /-- Adds a copy of the item in a register to the collection at a place.  With `raw`, functions and
  callbacks of an algorithm are added without looking at its other members. -/
  | add (place : Place) (item : String) (raw : Bool)
  deriving DecidableEq, Repr

/-- Values in registers. -/
structure Workbench where
  /-- The registers that are in use, with what they hold. -/
  registers : List (String × Value) := []
  deriving DecidableEq, Repr

namespace Workbench

/-- What a register holds. -/
def get? (bench : Workbench) (register : String) : Option Value := bench.registers.lookup register

/-- Puts a value into a register. -/
def put (bench : Workbench) (register : String) (value : Value) : Workbench :=
  ⟨(register, value) :: bench.registers.filter (·.1 ≠ register)⟩

/-- The outcome of a change: the changed value, or the value as it was with the reason. -/
def outcome {α : Type} (old : α) : Except ModelError α → α × Except ModelError Unit
  | .ok new => (new, .ok ())
  | .error e => (old, .error e)

/-- Changes a variable. -/
def editVariable (edit : Edit) (v : Variable) : Variable × Except ModelError Unit :=
  match edit with
  | .name name => ({ v with name }, .ok ())
  | .dimensions dimensions => ({ v with dimensions }, .ok ())
  | .result _ => (v, .ok ())
  | .add .. => (v, .ok ())

/-- Changes a function. -/
def editFunction (bench : Workbench) (edit : Edit) (f : Function) :
    Function × Except ModelError Unit :=
  match edit with
  | .name name => ({ f with name }, .ok ())
  | .result result => ({ f with result }, .ok ())
  | .dimensions _ => (f, .ok ())
  | .add place item _ =>
    match place, bench.get? item with
    | .parameters, some (.variable v) => outcome f (f.addParameter v)
    | _, _ => (f, .ok ())

/-- Changes an algorithm. -/
def editAlgorithm (bench : Workbench) (edit : Edit) (a : Algorithm) :
    Algorithm × Except ModelError Unit :=
  match edit with
  | .name name => ({ a with name }, .ok ())
  | .result _ => (a, .ok ())
  | .dimensions _ => (a, .ok ())
  | .add place item raw =>
    match place, bench.get? item with
    | .data, some (.variable v) => outcome a (a.addData v)
    | .callbacks, some (.function f) =>
      if raw then
        outcome a ((a.callbacks.insert f).map fun callbacks => { a with callbacks })
      else outcome a (a.addCallback f)
    | .functions, some (.function f) =>
      if raw then
        outcome a ((a.functions.insert f).map fun functions => { a with functions })
      else outcome a (a.addFunction f)
    | _, _ => (a, .ok ())

/-- Changes an interface. -/
def editInterface (bench : Workbench) (edit : Edit) (i : Interface) :
    Interface × Except ModelError Unit :=
  match edit with
  | .name name => ({ i with name }, .ok ())
  | .result _ => (i, .ok ())
  | .dimensions _ => (i, .ok ())
  | .add place item _ =>
    match place, bench.get? item with
    | .algorithms, some (.algorithm a) => outcome i (i.addAlgorithm a)
    | _, _ => (i, .ok ())

/-- Adds a copy of an item to a collection. -/
def insertItem (c : Collection) (item : Option Value) : Collection × Except ModelError Unit :=
  match c, item with
  | .ofVariables l, some (.variable v) => outcome c ((l.insert v).map .ofVariables)
  | .ofFunctions l, some (.function f) => outcome c ((l.insert f).map .ofFunctions)
  | .ofAlgorithms l, some (.algorithm a) => outcome c ((l.insert a).map .ofAlgorithms)
  | c, _ => (c, .ok ())

/-- Changes a value.  A change that makes no sense for the value does nothing. -/
def edit (bench : Workbench) (edit : Edit) : Value → Value × Except ModelError Unit
  | .variable v => let (v, r) := editVariable edit v; (.variable v, r)
  | .function f => let (f, r) := bench.editFunction edit f; (.function f, r)
  | .algorithm a => let (a, r) := bench.editAlgorithm edit a; (.algorithm a, r)
  | .interface i => let (i, r) := bench.editInterface edit i; (.interface i, r)
  | .block b =>
    match edit with
    | .add .items item _ =>
      match bench.get? item with
      | some (.variable v) => let (b, r) := outcome b (b.insert v); (.block b, r)
      | _ => (.block b, .ok ())
    | _ => (.block b, .ok ())
  | .collection c =>
    match edit with
    | .add .items item _ => let (c, r) := insertItem c (bench.get? item); (.collection c, r)
    | _ => (.collection c, .ok ())
  | value => (value, .ok ())

/-- Makes changes one after another; a change that fails does not stop the others. -/
def editAll {α : Type} (edit : Edit → α → α × Except ModelError Unit) :
    List Edit → α → α × List (Except ModelError Unit)
  | [], value => (value, [])
  | e :: es, value =>
    let (value, r) := edit e value
    let (value, rs) := editAll edit es value
    (value, r :: rs)

/-- Changes the item called `name` of a collection.  Also returns the outcomes of the single
changes, none when there is no such item. -/
def reviseItem {α : Type} [Named α] (edit : Edit → α → α × Except ModelError Unit)
    (l : NamedList α) (name : String) (edits : List Edit) :
    Except ModelError (NamedList α) × List (Except ModelError Unit) :=
  (l.update name fun item => (editAll edit edits item).1,
    match l.get? name with
    | none => []
    | some item => (editAll edit edits item).2)

/-- Changes the item called `name` of the collection at a place of a value. -/
def revise (bench : Workbench) (value : Value) (place : Place) (name : String)
    (edits : List Edit) : Except ModelError Value × List (Except ModelError Unit) :=
  let inVariables (l : NamedList Variable) (back : NamedList Variable → Value) :=
    let (r, rs) := reviseItem editVariable l name edits
    (r.map back, rs)
  let inFunctions (l : NamedList Function) (back : NamedList Function → Value) :=
    let (r, rs) := reviseItem bench.editFunction l name edits
    (r.map back, rs)
  let inAlgorithms (l : NamedList Algorithm) (back : NamedList Algorithm → Value) :=
    let (r, rs) := reviseItem bench.editAlgorithm l name edits
    (r.map back, rs)
  match value, place with
  | .function f, .parameters =>
    inVariables f.parameters fun l => .function { f with parameters := l }
  | .algorithm a, .data => inVariables a.data fun l => .algorithm { a with data := l }
  | .algorithm a, .callbacks =>
    inFunctions a.callbacks fun l => .algorithm { a with callbacks := l }
  | .algorithm a, .functions =>
    inFunctions a.functions fun l => .algorithm { a with functions := l }
  | .interface i, .algorithms =>
    inAlgorithms i.algorithms fun l => .interface { i with algorithms := l }
  | .block b, .items => inVariables b .block
  | .collection (.ofVariables l), .items => inVariables l fun l => .collection (.ofVariables l)
  | .collection (.ofFunctions l), .items => inFunctions l fun l => .collection (.ofFunctions l)
  | .collection (.ofAlgorithms l), .items => inAlgorithms l fun l => .collection (.ofAlgorithms l)
  | value, _ => (.ok value, [])

/-- The variables, functions or algorithms among the given registers. -/
def gather (bench : Workbench) (shape : Shape) (items : List String) : Except ModelError Value :=
  let values := items.filterMap bench.get?
  match shape with
  | .functionList =>
    (NamedList.ofList (values.filterMap fun | .function f => some f | _ => none)).map
      fun l => .collection (.ofFunctions l)
  | .algorithmList =>
    (NamedList.ofList (values.filterMap fun | .algorithm a => some a | _ => none)).map
      fun l => .collection (.ofAlgorithms l)
  | _ =>
    (NamedList.ofList (values.filterMap fun | .variable v => some v | _ => none)).map
      fun l => .collection (.ofVariables l)

/-- One step of work on the registers. -/
inductive Step where
  | variable (register name : String) (dimensions : List Dimension)
  | block (register : String)
  | function (register name : String) (result : Option BaseType)
  | algorithm (register name : String)
  | interface (register name : String)
  | load (register : String) (shape : Shape) (document : String)
  | copy (register source : String)
  /-- Makes a collection of the items in registers. -/
  | gather (register : String) (shape : Shape) (items : List String)
  /-- Changes the value in a register. -/
  | edit (register : String) (edits : List Edit)
  /-- Changes an item of the collection at a place of the value in a register. -/
  | revise (register : String) (place : Place) (name : String) (edits : List Edit)
  deriving DecidableEq, Repr

/-- Why a step failed. -/
inductive Fault where
  | refused (error : ModelError)
  | unreadable (problem : Json.Problem)
  deriving DecidableEq, Repr

/-- The outcome of a step. -/
structure Report where
  /-- Whether the step succeeded. -/
  result : Except Fault Unit := .ok ()
  /-- The outcomes of the single changes of the step. -/
  edits : List (Except ModelError Unit) := []

/-- Puts the value that a step made into its register, if it made one. -/
def settle (bench : Workbench) (register : String) : Except Fault Value → Workbench × Report
  | .ok value => (bench.put register value, {})
  | .error fault => (bench, { result := .error fault })

/-- Does one step. -/
def step (bench : Workbench) : Step → Workbench × Report
  | .variable register name dimensions =>
    (bench.put register (.variable { name, baseType := .int, dimensions }), {})
  | .block register => (bench.put register (.block .empty), {})
  | .function register name result => (bench.put register (.function { name, result }), {})
  | .algorithm register name => (bench.put register (.algorithm { name }), {})
  | .interface register name =>
    bench.settle register (((Interface.new name).map .interface).mapError .refused)
  | .load register shape document =>
    bench.settle register ((Value.load shape document).mapError .unreadable)
  | .copy register source =>
    match bench.get? source with
    | some value => (bench.put register value, {})
    | none => (bench, {})
  | .gather register shape items =>
    bench.settle register ((bench.gather shape items).mapError .refused)
  | .edit register edits =>
    match bench.get? register with
    | none => (bench, {})
    | some value =>
      let (value, rs) := editAll bench.edit edits value
      (bench.put register value, { edits := rs })
  | .revise register place name edits =>
    match bench.get? register with
    | none => (bench, {})
    | some value =>
      let (r, rs) := bench.revise value place name edits
      let (bench, report) := bench.settle register (r.mapError .refused)
      (bench, { report with edits := rs })

/-- Does steps one after another. -/
def run (bench : Workbench) : List Step → Workbench
  | [] => bench
  | s :: steps => (bench.step s).1.run steps

end Workbench

end AlgorithmDriver

import AlgorithmDriver.Json.Reader
import AlgorithmDriver.Json.Writer
import AlgorithmDriver.Model.Algorithm

/-!
# Descriptions as documents

How each part of a description is written, and how it is read.  Collections are plain lists; an item
that its collection refuses is a problem of the document.  Names of items outside a collection are
not checked, except that of an interface.  The names of alternatives are taken for keys unless
another `Naming` is asked for.
-/

namespace AlgorithmDriver

open Json

/-- The reader of a collection, which adds the items one by one. -/
def NamedList.reader {α : Type} [Named α] (item : Reader α) : Reader (NamedList α) :=
  .list ("a list of uniquely named " ++ Named.kind α ++ "s") .empty NamedList.insert item

/-- The document of a collection, given those of its items. -/
def NamedList.write {α : Type} (item : α → List Char) (l : NamedList α) : List Char :=
  writeList (l.toList.map item)

namespace BaseType

/-- A base type is written as its name. -/
def choices : List (Choice BaseType) :=
  all.map fun t => ⟨t.name, some t, Reader.null.map fun () => t⟩

/-- The reader of a base type. -/
def reader (naming : Naming := .key) : Reader BaseType := .oneOf choices naming

/-- The document of a base type. -/
def write (t : BaseType) : List Char := writeString t.name

end BaseType

namespace Extent

/-- An extent is the word for unbounded, or an object with the size. -/
def choices : List (Choice Extent) :=
  [⟨"unbounded", some .unbounded, Reader.null.map fun () => .unbounded⟩,
   ⟨"fixed", none, Reader.size.map .fixed⟩]

/-- The reader of an extent. -/
def reader (naming : Naming := .key) : Reader Extent := .oneOf choices naming

/-- The document of an extent. -/
def write : Extent → List Char
  | .unbounded => writeString "unbounded"
  | .fixed size => writeObject [("fixed", Decimal.digits size.toNat)]

end Extent

namespace Dimension

/-- The extent of a dimension may be left out when it is unbounded. -/
def layout (naming : Naming := .key) : Layout Dimension where
  title := "struct ArraySpecification"
  blank := {}
  fields := [⟨"extent", false, (Extent.reader naming).map fun extent d => { d with extent }⟩]

/-- The reader of a dimension. -/
def reader (naming : Naming := .key) : Reader Dimension := (layout naming).reader

/-- The document of a dimension. -/
def write (d : Dimension) : List Char := writeObject [("extent", d.extent.write)]

end Dimension

namespace Variable

/-- The reader of a list of dimensions. -/
def dimensionsReader (naming : Naming := .key) : Reader (List Dimension) :=
  .map List.reverse (.list "a sequence" [] (fun ds d => .ok (d :: ds)) (Dimension.reader naming))

/-- The dimensions of a variable may be left out when it is a scalar. -/
def layout (naming : Naming := .key) : Layout Variable where
  title := "struct Variable"
  blank := { name := "", baseType := .int }
  fields :=
    [⟨"name", true, Reader.string.map fun name v => { v with name }⟩,
     ⟨"base_type", true, (BaseType.reader naming).map fun baseType v => { v with baseType }⟩,
     ⟨"array_specifications", false,
       (dimensionsReader naming).map fun dimensions v => { v with dimensions }⟩]

/-- The reader of a variable. -/
def reader (naming : Naming := .key) : Reader Variable := (layout naming).reader

/-- The document of a variable. -/
def write (v : Variable) : List Char :=
  writeObject
    [("name", writeString v.name),
     ("base_type", v.baseType.write),
     ("array_specifications", writeList (v.dimensions.map Dimension.write))]

end Variable

namespace Block

/-- The reader of a block. -/
def reader (naming : Naming := .key) : Reader Block := NamedList.reader (Variable.reader naming)

/-- The document of a block. -/
def write (b : Block) : List Char := NamedList.write Variable.write b

end Block

namespace Function

/-- Parameters may be left out when there are none, and so may the type of the result. -/
def layout (naming : Naming := .key) : Layout Function where
  title := "struct AlgorithmFunction"
  blank := { name := "" }
  fields :=
    [⟨"name", true, Reader.string.map fun name f => { f with name }⟩,
     ⟨"parameters", false, (Block.reader naming).map fun parameters f => { f with parameters }⟩,
     ⟨"return_type", false,
       (BaseType.reader naming).optional.map fun result f => { f with result }⟩]

/-- The reader of a function. -/
def reader (naming : Naming := .key) : Reader Function := (layout naming).reader

/-- The document of a function. -/
def write (f : Function) : List Char :=
  writeObject
    [("name", writeString f.name),
     ("parameters", Block.write f.parameters),
     ("return_type", match f.result with
       | none => writeNull
       | some t => t.write)]

end Function

namespace Algorithm

/-- Each sort of members may be left out when there are none. -/
def layout (naming : Naming := .key) : Layout Algorithm where
  title := "struct Algorithm"
  blank := { name := "" }
  fields :=
    [⟨"name", true, Reader.string.map fun name a => { a with name }⟩,
     ⟨"data", false, (Block.reader naming).map fun data a => { a with data }⟩,
     ⟨"callbacks", false,
       (NamedList.reader (Function.reader naming)).map fun callbacks a => { a with callbacks }⟩,
     ⟨"functions", false,
       (NamedList.reader (Function.reader naming)).map fun functions a => { a with functions }⟩]

/-- The reader of an algorithm. -/
def reader (naming : Naming := .key) : Reader Algorithm := (layout naming).reader

/-- The document of an algorithm. -/
def write (a : Algorithm) : List Char :=
  writeObject
    [("name", writeString a.name),
     ("data", Block.write a.data),
     ("callbacks", NamedList.write Function.write a.callbacks),
     ("functions", NamedList.write Function.write a.functions)]

end Algorithm

namespace Interface

/-- The name of an interface is checked as soon as it is read; the algorithms may be left out when
there are none. -/
def layout (naming : Naming := .key) : Layout Interface where
  title := "struct Interface"
  blank := { name := "" }
  fields :=
    [⟨"name", true,
       (Reader.string.checked (checkName "interface")).map fun name i => { i with name }⟩,
     ⟨"algorithms", false,
       (NamedList.reader (Algorithm.reader naming)).map
         fun algorithms i => { i with algorithms }⟩]

/-- The reader of an interface. -/
def reader (naming : Naming := .key) : Reader Interface := (layout naming).reader

/-- The document of an interface. -/
def write (i : Interface) : List Char :=
  writeObject
    [("name", writeString i.name),
     ("algorithms", NamedList.write Algorithm.write i.algorithms)]

end Interface

end AlgorithmDriver

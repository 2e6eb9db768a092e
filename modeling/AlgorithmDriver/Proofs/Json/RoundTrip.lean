import AlgorithmDriver.Proofs.Json.Written
import AlgorithmDriver.Proofs.Model.History

/-!
# Descriptions are read back

The document of a value is read as the value: nothing is lost and nothing is refused.  The reader of
a collection checks every item again, so this rests on collections being valid; names outside
collections may be anything.  Only an interface is different, since the name of an interface is
checked when it is read.

* `Value.load_dump` — a valid value is loaded from its own document.
* `Interface.load_error` — an interface with a name that cannot be used is refused.
* `Value.load_dump_of_history` — the same for all values that operations can make.
-/

namespace AlgorithmDriver

open Json

/-! ## Variables -/

theorem BaseType.reads (t : BaseType) : BaseType.reader.Reads t.write t := by
  cases t
  exact Reader.reads_plain "int" rfl rfl

theorem Extent.reads (e : Extent) : Extent.reader.Reads e.write e := by
  cases e with
  | unbounded => exact Reader.reads_plain "unbounded" rfl rfl
  | fixed size => exact Reader.reads_choice "fixed" rfl (Reader.reads_size size).map

theorem Dimension.reads (d : Dimension) : Dimension.reader.Reads d.write d :=
  Layout.reads Dimension.layout [.mapped (Extent.reads d.extent)] rfl (by decide)

/-- The elements of a sequence are collected last one first. -/
theorem Json.collect_reverse {α : Type} (as collected : List α) :
    as.foldlM (fun as a => (.ok (a :: as) : Except ModelError _)) collected
      = .ok (as.reverse ++ collected) := by
  induction as generalizing collected with
  | nil => rfl
  | cons a as ih =>
    rw [List.reverse_cons, List.append_assoc]
    exact ih (a :: collected)

theorem Variable.reads_dimensions (ds : List Dimension) :
    Variable.dimensionsReader.Reads (writeList (ds.map Dimension.write)) ds := by
  have hlist : (Reader.list "a sequence" [] (fun ds d => .ok (d :: ds)) Dimension.reader).Reads
      (writeList (ds.map Dimension.write)) (ds.reverse ++ []) :=
    Reader.reads_list (fun d _ => Dimension.reads d) (collect_reverse ds [])
  have hmap := Reader.Reads.map (f := List.reverse) hlist
  rw [List.append_nil, List.reverse_reverse] at hmap
  exact hmap

theorem Variable.reads (v : Variable) : Variable.reader.Reads v.write v :=
  Layout.reads Variable.layout
    [.mapped (Reader.reads_string v.name), .mapped (BaseType.reads v.baseType),
      .mapped (Variable.reads_dimensions v.dimensions)] rfl (by decide)

/-! ## Collections -/

theorem NamedList.insertAll_eq_foldlM {α : Type} [Named α] (l : NamedList α) (items : List α) :
    l.insertAll items = items.foldlM insert l := by
  induction items generalizing l with
  | nil => rfl
  | cons item items ih =>
    rw [insertAll, List.foldlM_cons]
    cases l.insert item with
    | error e => rfl
    | ok next => exact ih next

/-- A valid collection is read back when its items are: all of them pass the checks again. -/
theorem NamedList.reads {α : Type} [Named α] [Vetted α] {item : Reader α} {write : α → List Char}
    {l : NamedList α} (hl : l.Valid) (hi : ∀ a ∈ l.toList, item.Reads (write a) a) :
    (NamedList.reader item).Reads (l.write write) l := by
  refine Reader.reads_list hi ?_
  rw [← insertAll_eq_foldlM]
  exact insertAll_toList hl

theorem Block.reads {b : Block} (hb : NamedList.Valid b) : Block.reader.Reads (Block.write b) b :=
  NamedList.reads hb fun v _ => Variable.reads v

/-! ## Functions, algorithms and interfaces -/

/-- The type of a result, or the word for none. -/
theorem Function.reads_result (result : Option BaseType) :
    BaseType.reader.optional.Reads
      (match result with
        | none => writeNull
        | some t => t.write) result := by
  cases result with
  | none => exact Reader.reads_none _
  | some t =>
    refine Reader.reads_some (BaseType.reads t) ?_
    intro cs he
    have hquote : '"' = 'n' := (List.cons.inj (show writeString t.name = 'n' :: cs from he)).1
    exact absurd hquote (by decide)

theorem Function.reads {f : Function} (hf : f.Valid) : Function.reader.Reads f.write f :=
  Layout.reads Function.layout
    [.mapped (Reader.reads_string f.name), .mapped (Block.reads hf),
      .mapped (Function.reads_result f.result)] rfl (by decide)

theorem NamedList.reads_functions {l : NamedList Function} (hl : l.DeeplyValid Function.Valid) :
    (NamedList.reader Function.reader).Reads (l.write Function.write) l :=
  NamedList.reads hl.valid fun f hf => Function.reads (hl.inside f hf)

/-- Members of different sorts may have the same name. -/
theorem Algorithm.reads {a : Algorithm} (ha : a.Valid) : Algorithm.reader.Reads a.write a :=
  Layout.reads Algorithm.layout
    [.mapped (Reader.reads_string a.name), .mapped (Block.reads ha.data),
      .mapped (NamedList.reads_functions ha.callbacks),
      .mapped (NamedList.reads_functions ha.functions)] rfl (by decide)

theorem NamedList.reads_algorithms {l : NamedList Algorithm} (hl : l.DeeplyValid Algorithm.Valid) :
    (NamedList.reader Algorithm.reader).Reads (l.write Algorithm.write) l :=
  NamedList.reads hl.valid fun a ha => Algorithm.reads (hl.inside a ha)

theorem Interface.reads {i : Interface} (hi : i.Valid)
    (hn : checkName "interface" i.name = .ok ()) : Interface.reader.Reads i.write i :=
  Layout.reads Interface.layout
    [.mapped ((Reader.reads_string i.name).checked hn),
      .mapped (NamedList.reads_algorithms hi)] rfl (by decide)

/-- An interface with a name that cannot be used is refused as soon as the name is read. -/
theorem Interface.load_error {i : Interface} {e : ModelError}
    (hn : checkName "interface" i.name = .error e) :
    Value.load .interface (Value.interface i).dump = .error (.content (.refused e)) := by
  have hname : (Reader.string.checked (checkName "interface")).Fails (writeString i.name)
      (.content (.refused e)) := (Reader.reads_string i.name).checked_error hn
  have hread : Interface.reader.Fails i.write (.content (.refused e)) :=
    Layout.fails_first Interface.layout
      ⟨"name", true, (Reader.string.checked (checkName "interface")).map
        fun name i => { i with name }⟩ (Reader.Fails.map hname) rfl
  have hvalue : Shape.interface.reader.Fails i.write (.content (.refused e)) :=
    Reader.Fails.map hread
  exact hvalue.load

/-! ## Values of any sort -/

namespace Value

/-- The sort that a value is loaded as. -/
def shape : Value → Shape
  | .baseType _ => .baseType
  | .extent _ => .extent
  | .dimension _ => .dimension
  | .variable _ => .variable
  | .block _ => .block
  | .function _ => .function
  | .algorithm _ => .algorithm
  | .interface _ => .interface
  | .collection (.ofVariables _) => .variableList
  | .collection (.ofFunctions _) => .functionList
  | .collection (.ofAlgorithms _) => .algorithmList

/-- Whether the value is anything but an interface with a name that cannot be used. -/
def Loadable (v : Value) : Prop := ∀ i, v = .interface i → checkName "interface" i.name = .ok ()

theorem reads {v : Value} (hv : v.Valid) (hn : v.Loadable) : v.shape.reader.Reads v.write v := by
  cases v with
  | baseType t => exact (BaseType.reads t).map
  | extent e => exact (Extent.reads e).map
  | dimension d => exact (Dimension.reads d).map
  | «variable» v => exact (Variable.reads v).map
  | block b => exact Reader.Reads.map (Block.reads hv)
  | function f => exact Reader.Reads.map (Function.reads hv)
  | algorithm a => exact Reader.Reads.map (Algorithm.reads hv)
  | interface i => exact Reader.Reads.map (Interface.reads hv (hn i rfl))
  | collection c =>
    cases c with
    | ofVariables l => exact Reader.Reads.map (Block.reads hv)
    | ofFunctions l => exact Reader.Reads.map (NamedList.reads_functions hv)
    | ofAlgorithms l => exact Reader.Reads.map (NamedList.reads_algorithms hv)

/-- A valid value is loaded from its own document. -/
theorem load_dump {v : Value} (hv : v.Valid) (hn : v.Loadable) : load v.shape v.dump = .ok v :=
  (reads hv hn).load

end Value

theorem Shape.ensures_shape (shape : Shape) : shape.reader.Ensures fun v => v.shape = shape := by
  cases shape <;> exact Reader.Ensures.map fun _ _ _ _ => rfl

theorem Shape.ensures_loadable (shape : Shape) : shape.reader.Ensures Value.Loadable := by
  cases shape with
  | interface =>
    refine Reader.Ensures.map ?_
    intro cs i rest h
    rintro _ ⟨⟩
    exact Interface.ensures_name cs i rest h
  | _ => exact Reader.Ensures.map fun _ _ _ _ _ he => nomatch he

/-- What is loaded from some document is loaded from its own document again. -/
theorem Value.load_dump_of_load {shape : Shape} {document : String} {v : Value}
    (h : Value.load shape document = .ok v) : Value.load shape v.dump = .ok v := by
  have hshape : v.shape = shape := shape.ensures_shape.load h
  have hload := Value.load_dump (Value.valid_of_load h) (shape.ensures_loadable.load h)
  rw [hshape] at hload
  exact hload

/-- Decoding undoes encoding, for every value that any operations can make: whatever is not an
interface is read back as it was, with all names and in order; an interface is when its name can be
used, and is refused with the reason why the name cannot be used otherwise.  So what any document
loads as is what its own document loads as, which is written in the same way. -/
theorem Value.load_dump_of_history :
    (∀ held, History held → ∀ v ∈ held, (∀ i, v ≠ .interface i) →
      Value.load v.shape v.dump = .ok v) ∧
    (∀ held, History held → ∀ i, .interface i ∈ held →
      (Value.load .interface (Value.interface i).dump = .ok (.interface i) ↔
        checkName "interface" i.name = .ok ()) ∧
      ∀ e, checkName "interface" i.name = .error e →
        ∃ p, Value.load .interface (Value.interface i).dump = .error p ∧ p.message = e.message) ∧
    ∀ shape document v, Value.load shape document = .ok v →
      Value.load shape v.dump = .ok v ∧
        (Value.load shape v.dump).map Value.dump = .ok v.dump := by
  refine ⟨?_, ?_, ?_⟩
  · intro held h v hv hne
    exact Value.load_dump (h.valid v hv) fun i he => absurd he (hne i)
  · intro held h i hi
    refine ⟨⟨fun hload => ?_, fun hn => ?_⟩, fun e hn => ?_⟩
    · cases hn : checkName "interface" i.name with
      | ok => rfl
      | error e =>
        rw [Interface.load_error hn] at hload
        cases hload
    · have hloadable : (Value.interface i).Loadable := by
        rintro _ ⟨⟩
        exact hn
      exact Value.load_dump (v := .interface i) (h.valid _ hi) hloadable
    · exact ⟨.content (.refused e), Interface.load_error hn, rfl⟩
  · intro shape document v h
    have hagain := Value.load_dump_of_load h
    exact ⟨hagain, by rw [hagain]; rfl⟩

/-- A table of the largest size that can be said. -/
def Variable.nested : Variable :=
  { name := "n", baseType := .int, dimensions := [⟨.fixed 18446744073709551615⟩, ⟨.unbounded⟩] }

/-- A function with a parameter of its own name. -/
def Function.nested : Function :=
  { name := "n", result := some .int, parameters := ⟨[("n", .nested)]⟩ }

/-- A callback with a parameter of its own name, in an algorithm with a variable of that name too. -/
def Algorithm.nested : Algorithm :=
  { name := "two\nlines", data := ⟨[("n", .nested)]⟩, callbacks := ⟨[("n", .nested)]⟩ }

theorem History.nested : ∃ held, History held ∧ .algorithm .nested ∈ held := by
  have one : NamedList.ofList [Variable.nested] = .ok ⟨[("n", .nested)]⟩ := by decide +kernel
  have both : NamedList.ofList [Function.nested] = .ok ⟨[("n", .nested)]⟩ := by decide +kernel
  have block := (History.start.then (.variable .nested)).then
    (.ofList (fun v here => List.mem_singleton.1 here ▸ List.mem_cons_self) one)
  have function := (block.then (.function "n" (some .int))).then
    (@Gives.assign _ _ (.function .nested) .parameters _ List.mem_cons_self
      (List.mem_cons_of_mem _ List.mem_cons_self) rfl)
  have algorithm := (function.then
    (.ofList (fun f here => List.mem_singleton.1 here ▸ List.mem_cons_self) both)).then
      (.algorithm "two\nlines")
  have filled := algorithm.then
    (@Gives.assign _ _ (.algorithm { Algorithm.nested with callbacks := .empty }) .data
      (.ofVariables ⟨[("n", .nested)]⟩) List.mem_cons_self (by simp [Item.collection]) rfl)
  have nested := filled.then
    (@Gives.assign _ _ (.algorithm .nested) .callbacks
      (.ofFunctions ⟨[("n", .nested)]⟩) List.mem_cons_self (by simp [Item.collection]) rfl)
  exact ⟨_, nested, List.mem_cons_self⟩

/-- An algorithm that holds collections in collections, and an interface that was renamed. -/
theorem Value.load_dump_of_history_nested :
    Value.load .algorithm (Value.algorithm .nested).dump = .ok (.algorithm .nested) ∧
      (∃ p, Value.load .interface (Value.interface { name := "a b" }).dump = .error p ∧
        p.message = "interface name `a b` is not a valid identifier") ∧
      (Value.load .algorithm (Value.algorithm .nested).dump).map Value.dump =
        .ok (Value.algorithm .nested).dump := by
  obtain ⟨held, made, here⟩ := History.nested
  have loads : Value.load .algorithm (Value.algorithm .nested).dump = .ok (.algorithm .nested) :=
    load_dump_of_history.1 held made _ here (by simp)
  have named : History [.interface { name := "a" }] :=
    .then .start (.interface (by decide +kernel : Interface.new "a" = .ok { name := "a" }))
  have rename : Gives [.interface { name := "a" }]
      (({} : Workbench).edit (.name "a b") (.interface { name := "a" })).1 :=
    .edit (.name "a b") (by simp) List.mem_cons_self
  have renamed : History [.interface { name := "a b" }, .interface { name := "a" }] :=
    .then named rename
  refine ⟨loads, ?_, (load_dump_of_history.2.2 _ _ _ loads).2⟩
  exact (load_dump_of_history.2.1 _ renamed { name := "a b" } List.mem_cons_self).2
    (.invalidName "interface" "a b") (by decide +kernel)

end AlgorithmDriver

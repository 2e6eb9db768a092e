import AlgorithmDriver.Proofs.Json.RoundTrip
import AlgorithmDriver.Proofs.Json.Structure

/-!
# The format of descriptions

Which texts stand for which description, on the structure of descriptions, and that exactly these
are loaded.

* `Shape.Text` — the texts of a value of each sort.
* `Value.load_eq_ok_iff` — a document is loaded as a value exactly when it is one of its texts, with
  blanks around it.
-/

namespace AlgorithmDriver

open Json

/-! ## Texts -/

/-- The texts of a base type: its name, alone or with `null`. -/
def BaseType.Text (text : List Char) (t : BaseType) : Prop := AloneText t.name text

/-- The texts of an extent: the word for unbounded, alone or with `null`, or an object with the
size. -/
def Extent.Text (text : List Char) : Extent → Prop
  | .unbounded => AloneText "unbounded" text
  | .fixed size => WithContentText "fixed" (SizeText · size) text

/-- The parts of a dimension. -/
def Dimension.parts : List (Json.Part Dimension) :=
  [.of "extent" Extent.Text Dimension.extent (some .unbounded)]

/-- The parts of a variable. -/
def Variable.parts : List (Json.Part Variable) :=
  [.of "name" StringText Variable.name none,
   .of "base_type" BaseType.Text Variable.baseType none,
   .of "array_specifications" (ListText (StructText Dimension.parts)) Variable.dimensions (some [])]

/-- The texts of a collection: lists of items that enter it one by one. -/
def NamedList.Text {α : Type} [Named α] (Item : List Char → α → Prop) (text : List Char)
    (l : NamedList α) : Prop :=
  ∃ items, ListText Item text items ∧ NamedList.ofList items = .ok l

/-- The texts of a block. -/
def Block.Text (text : List Char) (b : Block) : Prop :=
  NamedList.Text (StructText Variable.parts) text b

/-- The parts of a function. -/
def Function.parts : List (Json.Part Function) :=
  [.of "name" StringText Function.name none,
   .of "parameters" Block.Text Function.parameters (some .empty),
   .of "return_type" (OptionText BaseType.Text) Function.result (some none)]

/-- The parts of an algorithm. -/
def Algorithm.parts : List (Json.Part Algorithm) :=
  [.of "name" StringText Algorithm.name none,
   .of "data" Block.Text Algorithm.data (some .empty),
   .of "callbacks" (NamedList.Text (StructText Function.parts)) Algorithm.callbacks (some .empty),
   .of "functions" (NamedList.Text (StructText Function.parts)) Algorithm.functions (some .empty)]

/-- The parts of an interface, whose name must be usable. -/
def Interface.parts : List (Json.Part Interface) :=
  [.of "name" (fun text name => StringText text name ∧ checkName "interface" name = .ok ())
     Interface.name none,
   .of "algorithms" (NamedList.Text (StructText Algorithm.parts)) Interface.algorithms
     (some .empty)]

/-- The texts of a value of each sort. -/
def Shape.Text : Shape → List Char → Value → Prop
  | .baseType, text, v => ∃ t, BaseType.Text text t ∧ .baseType t = v
  | .extent, text, v => ∃ e, Extent.Text text e ∧ .extent e = v
  | .dimension, text, v => ∃ d, StructText Dimension.parts text d ∧ .dimension d = v
  | .variable, text, v => ∃ x, StructText Variable.parts text x ∧ .variable x = v
  | .block, text, v => ∃ b, Block.Text text b ∧ .block b = v
  | .function, text, v => ∃ f, StructText Function.parts text f ∧ .function f = v
  | .algorithm, text, v => ∃ a, StructText Algorithm.parts text a ∧ .algorithm a = v
  | .interface, text, v => ∃ i, StructText Interface.parts text i ∧ .interface i = v
  | .variableList, text, v =>
    ∃ l, NamedList.Text (StructText Variable.parts) text l ∧ .collection (.ofVariables l) = v
  | .functionList, text, v =>
    ∃ l, NamedList.Text (StructText Function.parts) text l ∧ .collection (.ofFunctions l) = v
  | .algorithmList, text, v =>
    ∃ l, NamedList.Text (StructText Algorithm.parts) text l ∧ .collection (.ofAlgorithms l) = v

/-! ## Base types and extents -/

theorem accepts_alone {α : Type} (a : α) :
    (Reader.null.map fun () => a).Accepts fun text b => text = writeNull ∧ a = b :=
  (Reader.accepts_null.map fun () => a).congr fun text b => by simp

theorem BaseType.accepts (naming : Naming := .key) :
    (BaseType.reader naming).Accepts BaseType.Text := by
  have hcontent : ∀ choice ∈ BaseType.choices,
      choice.content.Accepts fun text t => text = writeNull ∧ choice.plain? = some t := by
    refine List.forall_mem_map.2 fun t _ => (accepts_alone t).congr fun text u => ?_
    rw [Option.some.injEq]
  refine (Reader.accepts_oneOf (by decide) hcontent).congr fun text t => ?_
  cases t
  simp [BaseType.choices, BaseType.all, BaseType.Text, AloneText, WithContentText]

/-- The contents of the alternatives of an extent. -/
def Extent.Content (choice : Choice Extent) (text : List Char) (e : Extent) : Prop :=
  match choice.plain? with
  | some a => text = writeNull ∧ a = e
  | none => ∃ size, SizeText text size ∧ .fixed size = e

theorem Extent.accepts (naming : Naming := .key) :
    (Extent.reader naming).Accepts Extent.Text := by
  have hcontent : ∀ choice ∈ Extent.choices, choice.content.Accepts (Extent.Content choice) := by
    simp only [Extent.choices, List.forall_mem_cons, List.not_mem_nil, IsEmpty.forall_iff,
      implies_true, and_true]
    exact ⟨accepts_alone Extent.unbounded, Reader.accepts_size.map Extent.fixed⟩
  refine (Reader.accepts_oneOf (by decide) hcontent).congr fun text e => ?_
  cases e with
  | unbounded =>
    simp [Extent.choices, Extent.Content, Extent.Text, AloneText, WithContentText]
  | fixed size =>
    simp [Extent.choices, Extent.Content, Extent.Text, WithContentText]

/-- The texts of a base type begin with a quote or a brace. -/
theorem BaseType.text_opens {text : List Char} {t : BaseType} (h : BaseType.Text text t) :
    ∀ cs, text ≠ 'n' :: cs := by
  rintro cs rfl
  rcases h with ⟨parts, -, he⟩ | ⟨e, -, -, he⟩
  · cases he
  · cases he

/-! ## Structures -/

/-- The slots of a dimension. -/
def Dimension.slots (naming : Naming := .key) : List (Slot Dimension) :=
  [.of "extent" (some .unbounded) (Extent.accepts naming) Dimension.extent
     (fun extent d => { d with extent }) fun _ _ => rfl]

theorem Dimension.slots_layout (naming : Naming := .key) :
    Slots (Dimension.layout naming) (Dimension.slots naming) := by
  refine ⟨rfl, by cases naming <;> decide, ?_, ?_, ?_⟩
  · simp [Dimension.slots, Slot.of, Dimension.layout]
  · simp [Dimension.slots, Slot.of]
  · rintro ⟨_⟩ ⟨_⟩ h
    simpa [Dimension.slots, Slot.of] using h

theorem Dimension.accepts (naming : Naming := .key) :
    (Dimension.reader naming).Accepts (StructText Dimension.parts) :=
  (Dimension.slots_layout naming).accepts

theorem Json.Reader.Accepts.sequence {α : Type} {item : Reader α} {Item : List Char → α → Prop}
    (h : item.Accepts Item) :
    (Reader.map List.reverse (.list "a sequence" [] (fun as a => .ok (a :: as)) item)).Accepts
      (ListText Item) := by
  have hlist : (Reader.list "a sequence" [] (fun as a => .ok (a :: as)) item).Accepts
      fun text as => ∃ bs, ListText Item text bs ∧
        bs.foldlM (fun as a => (.ok (a :: as) : Except ModelError _)) [] = .ok as :=
    h.list _ _
  refine (hlist.map List.reverse).congr fun text as => ?_
  simp [collect_reverse]

theorem Variable.accepts_dimensions (naming : Naming := .key) :
    (Variable.dimensionsReader naming).Accepts (ListText (StructText Dimension.parts)) :=
  (Dimension.accepts naming).sequence

/-- The slots of a variable. -/
def Variable.slots (naming : Naming := .key) : List (Slot Variable) :=
  [.of "name" none Reader.accepts_string Variable.name
     (fun name v => { v with name }) fun _ _ => rfl,
   .of "base_type" none (BaseType.accepts naming) Variable.baseType
     (fun baseType v => { v with baseType }) fun _ _ => rfl,
   .of "array_specifications" (some []) (Variable.accepts_dimensions naming) Variable.dimensions
     (fun dimensions v => { v with dimensions }) fun _ _ => rfl]

theorem Variable.slots_layout (naming : Naming := .key) :
    Slots (Variable.layout naming) (Variable.slots naming) := by
  refine ⟨rfl, by cases naming <;> decide, ?_, ?_, ?_⟩
  · simp [Variable.slots, Slot.of, Variable.layout]
  · simp [Variable.slots, Slot.of]
  · rintro ⟨_, _, _⟩ ⟨_, _, _⟩ h
    simpa [Variable.slots, Slot.of] using h

theorem Variable.accepts (naming : Naming := .key) :
    (Variable.reader naming).Accepts (StructText Variable.parts) :=
  (Variable.slots_layout naming).accepts

/-! ## Collections, functions, algorithms and interfaces -/

theorem NamedList.accepts {α : Type} [Named α] {item : Reader α} {Item : List Char → α → Prop}
    (h : item.Accepts Item) : (NamedList.reader item).Accepts (NamedList.Text Item) := by
  refine (h.list _ NamedList.empty).congr fun text l => ?_
  simp only [NamedList.Text, NamedList.ofList, NamedList.insertAll_eq_foldlM]

theorem Block.accepts (naming : Naming := .key) : (Block.reader naming).Accepts Block.Text :=
  NamedList.accepts (Variable.accepts naming)

theorem Function.accepts_result (naming : Naming := .key) :
    (BaseType.reader naming).optional.Accepts (OptionText BaseType.Text) :=
  (BaseType.accepts naming).optional fun cs _ h => BaseType.text_opens h cs rfl

/-- The slots of a function. -/
def Function.slots (naming : Naming := .key) : List (Slot Function) :=
  [.of "name" none Reader.accepts_string Function.name
     (fun name f => { f with name }) fun _ _ => rfl,
   .of "parameters" (some .empty) (Block.accepts naming) Function.parameters
     (fun parameters f => { f with parameters }) fun _ _ => rfl,
   .of "return_type" (some none) (Function.accepts_result naming) Function.result
     (fun result f => { f with result }) fun _ _ => rfl]

theorem Function.slots_layout (naming : Naming := .key) :
    Slots (Function.layout naming) (Function.slots naming) := by
  refine ⟨rfl, by cases naming <;> decide, ?_, ?_, ?_⟩
  · simp [Function.slots, Slot.of, Function.layout]
  · simp [Function.slots, Slot.of]
  · rintro ⟨_, _, _⟩ ⟨_, _, _⟩ h
    simpa [Function.slots, Slot.of] using h

theorem Function.accepts (naming : Naming := .key) :
    (Function.reader naming).Accepts (StructText Function.parts) :=
  (Function.slots_layout naming).accepts

/-- The slots of an algorithm. -/
def Algorithm.slots (naming : Naming := .key) : List (Slot Algorithm) :=
  [.of "name" none Reader.accepts_string Algorithm.name
     (fun name a => { a with name }) fun _ _ => rfl,
   .of "data" (some .empty) (Block.accepts naming) Algorithm.data
     (fun data a => { a with data }) fun _ _ => rfl,
   .of "callbacks" (some .empty) (NamedList.accepts (Function.accepts naming)) Algorithm.callbacks
     (fun callbacks a => { a with callbacks }) fun _ _ => rfl,
   .of "functions" (some .empty) (NamedList.accepts (Function.accepts naming)) Algorithm.functions
     (fun functions a => { a with functions }) fun _ _ => rfl]

theorem Algorithm.slots_layout (naming : Naming := .key) :
    Slots (Algorithm.layout naming) (Algorithm.slots naming) := by
  refine ⟨rfl, by cases naming <;> decide, ?_, ?_, ?_⟩
  · simp [Algorithm.slots, Slot.of, Algorithm.layout]
  · simp [Algorithm.slots, Slot.of]
  · rintro ⟨_, _, _, _⟩ ⟨_, _, _, _⟩ h
    simpa [Algorithm.slots, Slot.of] using h

theorem Algorithm.accepts (naming : Naming := .key) :
    (Algorithm.reader naming).Accepts (StructText Algorithm.parts) :=
  (Algorithm.slots_layout naming).accepts

/-- The slots of an interface. -/
def Interface.slots (naming : Naming := .key) : List (Slot Interface) :=
  [.of "name" none (Reader.accepts_string.checked (checkName "interface")) Interface.name
     (fun name i => { i with name }) fun _ _ => rfl,
   .of "algorithms" (some .empty) (NamedList.accepts (Algorithm.accepts naming)) Interface.algorithms
     (fun algorithms i => { i with algorithms }) fun _ _ => rfl]

theorem Interface.slots_layout (naming : Naming := .key) :
    Slots (Interface.layout naming) (Interface.slots naming) := by
  refine ⟨rfl, by cases naming <;> decide, ?_, ?_, ?_⟩
  · simp [Interface.slots, Slot.of, Interface.layout]
  · simp [Interface.slots, Slot.of]
  · rintro ⟨_, _⟩ ⟨_, _⟩ h
    simpa [Interface.slots, Slot.of] using h

theorem Interface.accepts (naming : Naming := .key) :
    (Interface.reader naming).Accepts (StructText Interface.parts) :=
  (Interface.slots_layout naming).accepts

/-! ## Values of any sort -/

theorem Shape.accepts (shape : Shape) (naming : Naming := .key) :
    (shape.reader naming).Accepts shape.Text := by
  cases shape with
  | baseType => exact (BaseType.accepts naming).map _
  | extent => exact (Extent.accepts naming).map _
  | dimension => exact (Dimension.accepts naming).map _
  | «variable» => exact (Variable.accepts naming).map _
  | block => exact (Block.accepts naming).map _
  | function => exact (Function.accepts naming).map _
  | algorithm => exact (Algorithm.accepts naming).map _
  | interface => exact (Interface.accepts naming).map _
  | variableList => exact (NamedList.accepts (Variable.accepts naming)).map _
  | functionList => exact (NamedList.accepts (Function.accepts naming)).map _
  | algorithmList => exact (NamedList.accepts (Algorithm.accepts naming)).map _

/-- A document is loaded as a value exactly when it is one of the texts of the value, with blanks
around it. -/
theorem Value.load_eq_ok_iff (shape : Shape) (document : String) (v : Value) :
    Value.load shape document = .ok v ↔
      ∃ p : Padded, document.toList = p.all ∧ shape.Text p.text v :=
  shape.accepts.load_iff

/-- Whatever the names of alternatives are taken for, the same documents are loaded. -/
theorem Value.load_naming_eq_ok_iff (shape : Shape) (document : String) (naming : Naming)
    (v : Value) : Value.load shape document naming = .ok v ↔ Value.load shape document = .ok v :=
  (shape.accepts naming).load_iff.trans shape.accepts.load_iff.symm

end AlgorithmDriver

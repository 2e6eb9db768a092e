import AlgorithmDriver.Proofs.Except
import AlgorithmDriver.Proofs.Model.Collection
import AlgorithmDriver.Workbench

/-!
# Validity at every depth

Collections hold functions and algorithms, which hold collections.  `Value.collections` lists the
collections that occur in a value at any depth; a value is valid when all of them are
(`Value.valid_iff`).  Validity is defined level by level, so that each operation has to be looked at
on its own level only, and is kept by every operation that adds an item to something.
-/

namespace AlgorithmDriver

/-! ## Level by level -/

namespace NamedList

variable {α : Type} [Named α] [Vetted α] {inner : α → Prop}

/-- A valid collection whose items are valid inside. -/
structure DeeplyValid (inner : α → Prop) (l : NamedList α) : Prop where
  valid : l.Valid
  inside : ∀ item ∈ l.toList, inner item

theorem deeplyValid_empty : DeeplyValid inner (empty : NamedList α) :=
  ⟨valid_empty, by simp⟩

theorem DeeplyValid.insert {l l' : NamedList α} {item : α} (hl : l.DeeplyValid inner)
    (hi : inner item) (h : l.insert item = .ok l') : l'.DeeplyValid inner := by
  refine ⟨hl.valid.insert h, ?_⟩
  intro other ho
  rw [toList_insert h] at ho
  rcases List.mem_append.1 ho with ho | ho
  · exact hl.inside other ho
  · rw [List.mem_singleton.1 ho]
    exact hi

/-- It is enough that the change leaves the item that it is made for valid inside. -/
theorem DeeplyValid.update {l l' : NamedList α} {name : String} {change : α → α}
    (hl : l.DeeplyValid inner) (hc : ∀ item, l.get? name = some item → inner (change item))
    (h : l.update name change = .ok l') : l'.DeeplyValid inner := by
  refine ⟨hl.valid.update h, ?_⟩
  intro other ho
  rcases mem_toList_of_update h ho with ho | ⟨item, hg, rfl⟩
  · exact hl.inside other ho
  · exact hc item hg

theorem DeeplyValid.insertAll {l l' : NamedList α} {items : List α} (hl : l.DeeplyValid inner)
    (hi : ∀ item ∈ items, inner item) (h : l.insertAll items = .ok l') :
    l'.DeeplyValid inner := by
  refine ⟨hl.valid.insertAll h, ?_⟩
  intro other ho
  rw [toList_insertAll h] at ho
  rcases List.mem_append.1 ho with ho | ho
  · exact hl.inside other ho
  · exact hi other ho

theorem deeplyValid_ofList {l : NamedList α} {items : List α} (hi : ∀ item ∈ items, inner item)
    (h : ofList items = .ok l) : l.DeeplyValid inner :=
  deeplyValid_empty.insertAll hi h

end NamedList

/-- The parameters of a valid function form a valid collection. -/
def Function.Valid (f : Function) : Prop := f.parameters.Valid

/-- Each sort of members of a valid algorithm is valid.  Members of different sorts may have the
same name as long as the algorithm is in no collection. -/
structure Algorithm.Valid (a : Algorithm) : Prop where
  data : a.data.Valid
  callbacks : a.callbacks.DeeplyValid Function.Valid
  functions : a.functions.DeeplyValid Function.Valid

/-- The algorithms of a valid interface are valid. -/
def Interface.Valid (i : Interface) : Prop := i.algorithms.DeeplyValid Algorithm.Valid

/-- A collection that is valid at every depth. -/
def Collection.DeeplyValid : Collection → Prop
  | .ofVariables l => l.Valid
  | .ofFunctions l => l.DeeplyValid Function.Valid
  | .ofAlgorithms l => l.DeeplyValid Algorithm.Valid

/-- A value that is valid at every depth. -/
def Value.Valid : Value → Prop
  | .baseType _ | .extent _ | .dimension _ | .variable _ => True
  | .block b => NamedList.Valid b
  | .function f => f.Valid
  | .algorithm a => a.Valid
  | .interface i => i.Valid
  | .collection c => c.DeeplyValid

/-! ## Collections at any depth -/

/-- A collection that is valid, whatever its items are like inside. -/
def Collection.Valid : Collection → Prop
  | .ofVariables l => l.Valid
  | .ofFunctions l => l.Valid
  | .ofAlgorithms l => l.Valid

/-- The collections of a function. -/
def Function.collections (f : Function) : List Collection := [.ofVariables f.parameters]

/-- A collection of functions with those that occur in it. -/
def NamedList.withinFunctions (l : NamedList Function) : List Collection :=
  .ofFunctions l :: l.toList.flatMap Function.collections

/-- The collections of an algorithm, to any depth. -/
def Algorithm.collections (a : Algorithm) : List Collection :=
  .ofVariables a.data :: (a.callbacks.withinFunctions ++ a.functions.withinFunctions)

/-- A collection of algorithms with those that occur in it. -/
def NamedList.withinAlgorithms (l : NamedList Algorithm) : List Collection :=
  .ofAlgorithms l :: l.toList.flatMap Algorithm.collections

/-- The collections that occur in a value at any depth, itself included if it is one. -/
def Value.collections : Value → List Collection
  | .baseType _ | .extent _ | .dimension _ | .variable _ => []
  | .block b => [.ofVariables b]
  | .function f => f.collections
  | .algorithm a => a.collections
  | .interface i => i.algorithms.withinAlgorithms
  | .collection (.ofVariables l) => [.ofVariables l]
  | .collection (.ofFunctions l) => l.withinFunctions
  | .collection (.ofAlgorithms l) => l.withinAlgorithms

theorem Function.valid_iff (f : Function) : f.Valid ↔ ∀ c ∈ f.collections, c.Valid := by
  simp [Function.Valid, Function.collections, Collection.Valid]

theorem NamedList.deeplyValid_functions_iff (l : NamedList Function) :
    l.DeeplyValid Function.Valid ↔ ∀ c ∈ l.withinFunctions, c.Valid := by
  simp only [withinFunctions, List.forall_mem_cons, List.forall_mem_flatMap]
  constructor
  · intro h
    exact ⟨h.valid, fun f hf => (Function.valid_iff f).1 (h.inside f hf)⟩
  · rintro ⟨hl, hf⟩
    exact ⟨hl, fun f hm => (Function.valid_iff f).2 (hf f hm)⟩

theorem Algorithm.valid_iff (a : Algorithm) : a.Valid ↔ ∀ c ∈ a.collections, c.Valid := by
  simp only [Algorithm.collections, List.forall_mem_cons, List.forall_mem_append,
    ← NamedList.deeplyValid_functions_iff]
  constructor
  · intro h
    exact ⟨h.data, h.callbacks, h.functions⟩
  · rintro ⟨hd, hc, hf⟩
    exact ⟨hd, hc, hf⟩

theorem NamedList.deeplyValid_algorithms_iff (l : NamedList Algorithm) :
    l.DeeplyValid Algorithm.Valid ↔ ∀ c ∈ l.withinAlgorithms, c.Valid := by
  simp only [withinAlgorithms, List.forall_mem_cons, List.forall_mem_flatMap]
  constructor
  · intro h
    exact ⟨h.valid, fun a ha => (Algorithm.valid_iff a).1 (h.inside a ha)⟩
  · rintro ⟨hl, ha⟩
    exact ⟨hl, fun a hm => (Algorithm.valid_iff a).2 (ha a hm)⟩

/-- A value is valid when every collection that occurs in it is. -/
theorem Value.valid_iff (v : Value) : v.Valid ↔ ∀ c ∈ v.collections, c.Valid := by
  cases v with
  | function f => exact Function.valid_iff f
  | algorithm a => exact Algorithm.valid_iff a
  | interface i => exact NamedList.deeplyValid_algorithms_iff i.algorithms
  | collection c =>
    cases c with
    | ofVariables l => simp [Value.Valid, Collection.DeeplyValid, collections, Collection.Valid]
    | ofFunctions l => exact NamedList.deeplyValid_functions_iff l
    | ofAlgorithms l => exact NamedList.deeplyValid_algorithms_iff l
  | _ => simp [Value.Valid, collections, Collection.Valid]

/-! ## Adding items -/

theorem Function.valid_new {name : String} {result : Option BaseType} :
    Function.Valid { name, result } :=
  NamedList.valid_empty

theorem Function.Valid.addParameter {f f' : Function} {v : Variable} (hf : f.Valid)
    (h : f.addParameter v = .ok f') : f'.Valid := by
  obtain ⟨parameters, hi, rfl⟩ := Except.map_eq_ok_iff.1 h
  exact NamedList.Valid.insert hf hi

theorem Algorithm.valid_new {name : String} : Algorithm.Valid { name } :=
  ⟨NamedList.valid_empty, NamedList.deeplyValid_empty, NamedList.deeplyValid_empty⟩

theorem Algorithm.Valid.addData {a a' : Algorithm} {v : Variable} (ha : a.Valid)
    (h : a.addData v = .ok a') : a'.Valid := by
  obtain ⟨data, hi, rfl⟩ := Except.map_eq_ok_iff.1 h
  exact { ha with data := ha.data.insert hi }

/-- A function that is added without looking at the other members. -/
theorem Algorithm.Valid.insertFunction {a a' : Algorithm} {f : Function} (ha : a.Valid)
    (hf : f.Valid)
    (h : (a.functions.insert f).map (fun functions => { a with functions }) = .ok a') :
    a'.Valid := by
  obtain ⟨functions, hi, rfl⟩ := Except.map_eq_ok_iff.1 h
  exact { ha with functions := ha.functions.insert hf hi }

/-- A callback that is added without looking at the other members. -/
theorem Algorithm.Valid.insertCallback {a a' : Algorithm} {f : Function} (ha : a.Valid)
    (hf : f.Valid)
    (h : (a.callbacks.insert f).map (fun callbacks => { a with callbacks }) = .ok a') :
    a'.Valid := by
  obtain ⟨callbacks, hi, rfl⟩ := Except.map_eq_ok_iff.1 h
  exact { ha with callbacks := ha.callbacks.insert hf hi }

theorem Algorithm.Valid.addFunction {a a' : Algorithm} {f : Function} (ha : a.Valid)
    (hf : f.Valid) (h : a.addFunction f = .ok a') : a'.Valid := by
  rw [Algorithm.addFunction] at h
  split at h
  · exact absurd h (by simp)
  · exact ha.insertFunction hf h

theorem Algorithm.Valid.addCallback {a a' : Algorithm} {f : Function} (ha : a.Valid)
    (hf : f.Valid) (h : a.addCallback f = .ok a') : a'.Valid := by
  rw [Algorithm.addCallback] at h
  split at h
  · exact absurd h (by simp)
  · exact ha.insertCallback hf h

theorem Interface.valid_new {name : String} {i : Interface} (h : Interface.new name = .ok i) :
    i.Valid := by
  obtain ⟨-, -, rfl⟩ := Except.map_eq_ok_iff.1 h
  exact NamedList.deeplyValid_empty

theorem Interface.Valid.addAlgorithm {i i' : Interface} {a : Algorithm} (hi : i.Valid)
    (ha : a.Valid) (h : i.addAlgorithm a = .ok i') : i'.Valid := by
  obtain ⟨algorithms, hl, rfl⟩ := Except.map_eq_ok_iff.1 h
  exact NamedList.DeeplyValid.insert hi ha hl

end AlgorithmDriver

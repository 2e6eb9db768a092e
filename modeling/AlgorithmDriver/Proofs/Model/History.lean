import AlgorithmDriver.Proofs.Json.Ensure

/-!
# What holds in every history

Values are made by operations on values that were made before.  `Gives held v` says that one
operation on the values `held` gives `v`, and a `History` is a sequence of operations in any order,
on any of the values that are there.  Fields may be assigned without any check, and the change that
an update makes to an item may be anything that other operations could have made of it: such values
are checked again when they enter a collection.

* `Gives.valid` — an operation on valid values gives a valid value.
* `Workbench.run_valid` — the same for steps of work on registers, those that fail included.
* `History.collections_valid` — every collection that occurs anywhere is valid at any time.
-/

namespace AlgorithmDriver

/-! ## Operations -/

/-- The sorts of items that collections hold. -/
class Item (α : Type) [Named α] [Vetted α] where
  /-- An item as a value. -/
  value : α → Value
  /-- A collection of items of this sort. -/
  collection : NamedList α → Collection
  /-- What it means for an item to be valid inside. -/
  Inside : α → Prop
  valid_value_iff : ∀ item, (value item).Valid ↔ Inside item
  valid_collection_iff : ∀ l, (collection l).DeeplyValid ↔ l.DeeplyValid Inside

instance : Item Variable where
  value := .variable
  collection := .ofVariables
  Inside _ := True
  valid_value_iff _ := Iff.rfl
  valid_collection_iff _ := ⟨fun h => ⟨h, fun _ _ => trivial⟩, fun h => h.valid⟩

instance : Item Function where
  value := .function
  collection := .ofFunctions
  Inside := Function.Valid
  valid_value_iff _ := Iff.rfl
  valid_collection_iff _ := Iff.rfl

instance : Item Algorithm where
  value := .algorithm
  collection := .ofAlgorithms
  Inside := Algorithm.Valid
  valid_value_iff _ := Iff.rfl
  valid_collection_iff _ := Iff.rfl

/-- A collection that is made of valid items is valid. -/
theorem Item.ofList_valid {α : Type} [Named α] [Vetted α] [Item α] {items : List α}
    {l : NamedList α} (hi : ∀ item ∈ items, (Item.value item).Valid)
    (h : NamedList.ofList items = .ok l) : (Item.collection l).DeeplyValid := by
  rw [Item.valid_collection_iff]
  exact NamedList.deeplyValid_ofList (fun a ha => (Item.valid_value_iff a).1 (hi a ha)) h

/-- Assigns the collection at a place of a value, when the sorts agree. -/
def Value.assign? : Value → Place → Collection → Option Value
  | .function f, .parameters, .ofVariables l => some (.function { f with parameters := l })
  | .algorithm a, .data, .ofVariables l => some (.algorithm { a with data := l })
  | .algorithm a, .callbacks, .ofFunctions l => some (.algorithm { a with callbacks := l })
  | .algorithm a, .functions, .ofFunctions l => some (.algorithm { a with functions := l })
  | .interface i, .algorithms, .ofAlgorithms l => some (.interface { i with algorithms := l })
  | .block _, .items, .ofVariables l => some (.block l)
  | _, _, _ => none

/-- The values that one operation on the values `held` can give. -/
inductive Gives (held : List Value) : Value → Prop
  | dimension (d : Dimension) : Gives held (.dimension d)
  | variable (v : Variable) : Gives held (.variable v)
  | block : Gives held (.block .empty)
  | function (name : String) (result : Option BaseType) : Gives held (.function { name, result })
  | algorithm (name : String) : Gives held (.algorithm { name })
  | interface {name : String} {i : Interface} : Interface.new name = .ok i →
      Gives held (.interface i)
  | load {shape : Shape} {document : String} {v : Value} : Value.load shape document = .ok v →
      Gives held v
  /-- Assigning a name, dimensions or a type, and adding an item to a value.  An addition that
  fails gives the value as it was. -/
  | edit {bench : Workbench} {v : Value} (e : Edit) :
      (∀ entry ∈ bench.registers, entry.2 ∈ held) → v ∈ held →
      Gives held (bench.edit e v).1
  /-- Assigning a whole collection. -/
  | assign {v v' : Value} {place : Place} {c : Collection} : v ∈ held → .collection c ∈ held →
      v.assign? place c = some v' → Gives held v'
  /-- A copy of a collection of a value. -/
  | part {v : Value} {place : Place} {c : Collection} : v ∈ held → v.collection? place = some c →
      Gives held (.collection c)
  /-- A copy of an item of a collection. -/
  | item {α : Type} [Named α] [Vetted α] [Item α] {l : NamedList α} {item : α} :
      .collection (Item.collection l) ∈ held → item ∈ l.toList → Gives held (Item.value item)
  /-- Making a collection of items. -/
  | ofList {α : Type} [Named α] [Vetted α] [Item α] {items : List α} {l : NamedList α} :
      (∀ item ∈ items, Item.value item ∈ held) → NamedList.ofList items = .ok l →
      Gives held (.collection (Item.collection l))
  /-- Changing an item of a collection to any of the values held. -/
  | update {α : Type} [Named α] [Vetted α] [Item α] {l l' : NamedList α} {name : String}
      {change : α → α} :
      .collection (Item.collection l) ∈ held →
      (∀ item, l.get? name = some item → Item.value (change item) ∈ held) →
      l.update name change = .ok l' → Gives held (.collection (Item.collection l'))

/-- The values held after some operations, one after another.  None is lost: an operation that
changes a value is one that makes a new value of it. -/
inductive History : List Value → Prop
  | start : History []
  | then {held : List Value} {v : Value} : History held → Gives held v → History (v :: held)

/-! ## Changes of values in registers -/

namespace Workbench

variable {bench : Workbench}

/-- The values in all registers are valid. -/
def Valid (bench : Workbench) : Prop := ∀ entry ∈ bench.registers, entry.2.Valid

theorem Valid.of_get? {register : String} {v : Value} (hb : bench.Valid)
    (h : bench.get? register = some v) : v.Valid := by
  obtain ⟨before, after, he, -⟩ := List.lookup_eq_some_iff.1 h
  refine hb (register, v) ?_
  rw [he]
  exact List.mem_append_right _ List.mem_cons_self

theorem Valid.put {register : String} {v : Value} (hb : bench.Valid) (hv : v.Valid) :
    (bench.put register v).Valid := by
  intro entry he
  rcases List.mem_cons.1 he with rfl | he
  · exact hv
  · exact hb entry (List.mem_filter.1 he).1

theorem Valid.settle {register : String} {r : Except Fault Value} (hb : bench.Valid)
    (hr : ∀ v, r = .ok v → v.Valid) : (bench.settle register r).1.Valid := by
  cases r with
  | error fault => exact hb
  | ok v => exact hb.put (hr v rfl)

/-- A change that fails gives what was there. -/
theorem outcome_valid {α : Type} {P : α → Prop} {old : α} {r : Except ModelError α} (ho : P old)
    (hr : ∀ new, r = .ok new → P new) : P (outcome old r).1 := by
  cases r with
  | error e => exact ho
  | ok new => exact hr new rfl

theorem editFunction_valid (e : Edit) {f : Function} (hf : f.Valid) :
    (bench.editFunction e f).1.Valid := by
  cases e with
  | name | dimensions | result => exact hf
  | add place item raw =>
    simp only [editFunction]
    split
    · exact outcome_valid hf fun _ h => hf.addParameter h
    · exact hf

theorem editAlgorithm_valid (hb : bench.Valid) (e : Edit) {a : Algorithm} (ha : a.Valid) :
    (bench.editAlgorithm e a).1.Valid := by
  cases e with
  | name | dimensions | result => exact { ha with }
  | add place item raw =>
    simp only [editAlgorithm]
    split
    · exact outcome_valid ha fun _ h => ha.addData h
    · rename_i f hg
      have hf : f.Valid := hb.of_get? hg
      split
      · exact outcome_valid ha fun _ h => ha.insertCallback hf h
      · exact outcome_valid ha fun _ h => ha.addCallback hf h
    · rename_i f hg
      have hf : f.Valid := hb.of_get? hg
      split
      · exact outcome_valid ha fun _ h => ha.insertFunction hf h
      · exact outcome_valid ha fun _ h => ha.addFunction hf h
    · exact ha

theorem editInterface_valid (hb : bench.Valid) (e : Edit) {i : Interface} (hi : i.Valid) :
    (bench.editInterface e i).1.Valid := by
  cases e with
  | name | dimensions | result => exact hi
  | add place item raw =>
    simp only [editInterface]
    split
    · rename_i a hg
      have ha : a.Valid := hb.of_get? hg
      exact outcome_valid hi fun _ h => hi.addAlgorithm ha h
    · exact hi

/-- Adding an item to a collection of its sort. -/
theorem outcome_insert_valid {α : Type} [Named α] [Vetted α] [Item α] {l : NamedList α} {item : α}
    (hl : (Item.collection l).DeeplyValid) (hi : (Item.value item).Valid) :
    (outcome (Item.collection l) ((l.insert item).map Item.collection)).1.DeeplyValid := by
  refine outcome_valid hl ?_
  intro c h
  obtain ⟨l', hl', rfl⟩ := Except.map_eq_ok_iff.1 h
  rw [Item.valid_collection_iff] at hl ⊢
  exact hl.insert ((Item.valid_value_iff item).1 hi) hl'

theorem insertItem_valid {c : Collection} {item : Option Value} (hc : c.DeeplyValid)
    (hi : ∀ v, item = some v → v.Valid) : (insertItem c item).1.DeeplyValid := by
  unfold insertItem
  split
  · exact outcome_insert_valid hc (hi _ rfl)
  · exact outcome_insert_valid hc (hi _ rfl)
  · exact outcome_insert_valid hc (hi _ rfl)
  · exact hc

/-- A change of a value keeps it valid, whether it succeeds or not. -/
theorem edit_valid (hb : bench.Valid) (e : Edit) {v : Value} (hv : v.Valid) :
    (bench.edit e v).1.Valid := by
  cases v with
  | function f => exact editFunction_valid e hv
  | algorithm a => exact editAlgorithm_valid hb e hv
  | interface i => exact editInterface_valid hb e hv
  | block b =>
    have hb' : NamedList.Valid b := hv
    simp only [edit]
    split
    · split
      · exact outcome_valid hb' fun _ h => hb'.insert h
      · exact hb'
    · exact hb'
  | collection c =>
    simp only [edit]
    split
    · exact insertItem_valid hv fun _ h => hb.of_get? h
    · exact hv
  | _ => trivial

/-- What every single change keeps is kept by changes one after another. -/
theorem editAll_valid {α : Type} {P : α → Prop} {edit : Edit → α → α × Except ModelError Unit}
    (he : ∀ e value, P value → P (edit e value).1) (es : List Edit) {value : α} (hv : P value) :
    P (editAll edit es value).1 := by
  induction es generalizing value with
  | nil => exact hv
  | cons e es ih => exact ih (he e value hv)

theorem reviseItem_valid {α : Type} [Named α] [Vetted α] {inner : α → Prop}
    {edit : Edit → α → α × Except ModelError Unit} {l l' : NamedList α} {name : String}
    {edits : List Edit} (he : ∀ e item, inner item → inner (edit e item).1)
    (hl : l.DeeplyValid inner) (h : (reviseItem edit l name edits).1 = .ok l') :
    l'.DeeplyValid inner := by
  refine hl.update (fun item hg => ?_) h
  exact editAll_valid he edits (hl.inside item (NamedList.mem_toList_of_get? hg))

/-- A value that is made of a result is valid when it is whatever the result. -/
theorem valid_of_map {ε α : Type} {r : Except ε α} {back : α → Value} {v : Value}
    (h : r.map back = .ok v) (hv : ∀ l, r = .ok l → (back l).Valid) : v.Valid := by
  obtain ⟨l, hl, rfl⟩ := Except.map_eq_ok_iff.1 h
  exact hv l hl

/-- Changing an item of a collection keeps the value that the collection belongs to valid. -/
theorem revise_valid (hb : bench.Valid) {v v' : Value} {place : Place} {name : String}
    {edits : List Edit} (hv : v.Valid) (h : (bench.revise v place name edits).1 = .ok v') :
    v'.Valid := by
  have hf : ∀ e f, Function.Valid f → (bench.editFunction e f).1.Valid :=
    fun e _ hf => editFunction_valid e hf
  have ha : ∀ e a, Algorithm.Valid a → (bench.editAlgorithm e a).1.Valid :=
    fun e _ ha => editAlgorithm_valid hb e ha
  unfold revise at h
  split at h
  · exact valid_of_map h fun l hl => NamedList.Valid.update hv hl
  · rename_i a
    have hv : a.Valid := hv
    exact valid_of_map h fun l hl => { hv with data := hv.data.update hl }
  · rename_i a
    have hv : a.Valid := hv
    exact valid_of_map h fun l hl => { hv with callbacks := reviseItem_valid hf hv.callbacks hl }
  · rename_i a
    have hv : a.Valid := hv
    exact valid_of_map h fun l hl => { hv with functions := reviseItem_valid hf hv.functions hl }
  · exact valid_of_map h fun l hl => reviseItem_valid ha hv hl
  · exact valid_of_map h fun l hl => NamedList.Valid.update hv hl
  · exact valid_of_map h fun l hl => NamedList.Valid.update hv hl
  · exact valid_of_map h fun l hl => reviseItem_valid hf hv hl
  · exact valid_of_map h fun l hl => reviseItem_valid ha hv hl
  · obtain rfl : v = v' := by simpa using h
    exact hv

/-- A collection that is made of those values of a list that are of one sort. -/
theorem ofList_filterMap_valid {α : Type} [Named α] [Vetted α] [Item α] {values : List Value}
    {pick : Value → Option α} {v : Value} (hp : ∀ u item, pick u = some item → u = Item.value item)
    (hv : ∀ u ∈ values, u.Valid)
    (h : (NamedList.ofList (values.filterMap pick)).map (fun l => .collection (Item.collection l))
      = .ok v) : v.Valid := by
  refine valid_of_map h fun l hl => Item.ofList_valid (fun item hi => ?_) hl
  obtain ⟨u, hu, he⟩ := List.mem_filterMap.1 hi
  exact hp u item he ▸ hv u hu

theorem gather_valid (hb : bench.Valid) {shape : Shape} {items : List String} {v : Value}
    (h : bench.gather shape items = .ok v) : v.Valid := by
  have held : ∀ u ∈ items.filterMap bench.get?, u.Valid := by
    intro u hu
    obtain ⟨register, -, hg⟩ := List.mem_filterMap.1 hu
    exact hb.of_get? hg
  unfold gather at h
  split at h
  all_goals
    refine ofList_filterMap_valid ?_ held h
    intro u item he
    cases u <;> simp_all [Item.value]

/-- A step of work keeps the values in all registers valid, whether it succeeds or not. -/
theorem step_valid (hb : bench.Valid) (s : Step) : (bench.step s).1.Valid := by
  cases s with
  | «variable» register name dimensions => exact hb.put trivial
  | block register => exact hb.put NamedList.valid_empty
  | function register name result => exact hb.put Function.valid_new
  | algorithm register name => exact hb.put Algorithm.valid_new
  | interface register name =>
    refine hb.settle ?_
    intro v h
    exact valid_of_map (Except.mapError_eq_ok_iff.1 h) fun i hi => Interface.valid_new hi
  | load register shape document =>
    exact hb.settle fun v h => Value.valid_of_load (Except.mapError_eq_ok_iff.1 h)
  | copy register source =>
    simp only [step]
    split
    · rename_i v hg
      exact hb.put (hb.of_get? hg)
    · exact hb
  | gather register shape items =>
    exact hb.settle fun v h => gather_valid hb (Except.mapError_eq_ok_iff.1 h)
  | edit register edits =>
    simp only [step]
    split
    · exact hb
    · rename_i v hg
      exact hb.put (editAll_valid (fun e _ hv => edit_valid hb e hv) edits (hb.of_get? hg))
  | revise register place name edits =>
    simp only [step]
    split
    · exact hb
    · rename_i v hg
      refine hb.settle ?_
      intro v' h
      exact revise_valid hb (hb.of_get? hg) (Except.mapError_eq_ok_iff.1 h)

/-- Whatever steps are done, the values in all registers stay valid. -/
theorem run_valid (hb : bench.Valid) (steps : List Step) : (bench.run steps).Valid := by
  induction steps generalizing bench with
  | nil => exact hb
  | cons s steps ih => exact ih (step_valid hb s)

end Workbench

/-! ## Any operations in any order -/

/-- A collection of a valid value is valid at every depth. -/
theorem Value.Valid.collection? {v : Value} {place : Place} {c : Collection} (hv : v.Valid)
    (h : v.collection? place = some c) : c.DeeplyValid := by
  unfold Value.collection? at h
  split at h
  · exact Option.some.inj h ▸ hv
  · exact Option.some.inj h ▸ Algorithm.Valid.data hv
  · exact Option.some.inj h ▸ Algorithm.Valid.callbacks hv
  · exact Option.some.inj h ▸ Algorithm.Valid.functions hv
  · exact Option.some.inj h ▸ hv
  · exact Option.some.inj h ▸ hv
  · exact Option.some.inj h ▸ hv
  · exact absurd h (by simp)

/-- Assigning a valid collection leaves a value valid, its other collections being what they
were. -/
theorem Value.Valid.assign? {v v' : Value} {place : Place} {c : Collection} (hv : v.Valid)
    (hc : c.DeeplyValid) (h : v.assign? place c = some v') : v'.Valid := by
  unfold Value.assign? at h
  split at h
  · exact Option.some.inj h ▸ hc
  · rename_i a l
    have hv : a.Valid := hv
    exact Option.some.inj h ▸ { hv with data := hc }
  · rename_i a l
    have hv : a.Valid := hv
    exact Option.some.inj h ▸ { hv with callbacks := hc }
  · rename_i a l
    have hv : a.Valid := hv
    exact Option.some.inj h ▸ { hv with functions := hc }
  · exact Option.some.inj h ▸ hc
  · exact Option.some.inj h ▸ hc
  · exact absurd h (by simp)

/-- One operation on valid values gives a valid value. -/
theorem Gives.valid {held : List Value} {v : Value} (hh : ∀ u ∈ held, u.Valid) (h : Gives held v) :
    v.Valid := by
  cases h with
  | dimension | «variable» => trivial
  | block => exact NamedList.valid_empty
  | function name result => exact Function.valid_new
  | algorithm name => exact Algorithm.valid_new
  | interface hi => exact Interface.valid_new hi
  | load hl => exact Value.valid_of_load hl
  | edit e hb hv => exact Workbench.edit_valid (fun entry he => hh _ (hb entry he)) e (hh _ hv)
  | assign hv hc ha => exact (hh _ hv).assign? (hh _ hc) ha
  | part hv hp => exact (hh _ hv).collection? hp
  | item hl hi =>
    rw [Item.valid_value_iff]
    exact ((Item.valid_collection_iff _).1 (hh _ hl)).inside _ hi
  | ofList hi hl => exact Item.ofList_valid (fun item hm => hh _ (hi item hm)) hl
  | update hl hc hu =>
    have hl := (Item.valid_collection_iff _).1 (hh _ hl)
    refine (Item.valid_collection_iff _).2 (hl.update (fun item hg => ?_) hu)
    exact (Item.valid_value_iff _).1 (hh _ (hc item hg))

theorem History.valid {held : List Value} (h : History held) : ∀ v ∈ held, v.Valid := by
  induction h with
  | start => simp
  | «then» _ hg ih =>
    intro v hv
    rcases List.mem_cons.1 hv with rfl | hv
    · exact hg.valid ih
    · exact ih v hv

/-- At any time, in any value, every collection at any depth is valid: after any operations in any
order, and in particular after any steps of work, those that fail included. -/
theorem History.collections_valid :
    (∀ held, History held → ∀ v ∈ held, ∀ c ∈ v.collections, c.Valid) ∧
      ∀ steps register v, (({} : Workbench).run steps).get? register = some v →
        ∀ c ∈ v.collections, c.Valid := by
  constructor
  · intro held h v hv
    exact (Value.valid_iff v).1 (h.valid v hv)
  · intro steps register v h
    have hb : ({} : Workbench).Valid := by simp [Workbench.Valid]
    exact (Value.valid_iff v).1 ((Workbench.run_valid hb steps).of_get? h)

/-- An algorithm that was renamed, and one to which the same variable was added twice. -/
theorem History.collections_valid_sum :
    (∀ c ∈ (Value.algorithm { name := "int" }).collections, c.Valid) ∧
      ∀ c ∈ (Value.algorithm
        { name := "sum"
          data := ⟨[("n", { name := "n", baseType := .int })]⟩ }).collections, c.Valid := by
  constructor
  · have made : History [.algorithm { name := "sum" }] := .then .start (.algorithm "sum")
    have rename : Gives [.algorithm { name := "sum" }]
        (({} : Workbench).edit (.name "int") (.algorithm { name := "sum" })).1 :=
      .edit (.name "int") (by simp) List.mem_cons_self
    have renamed : History [.algorithm { name := "int" }, .algorithm { name := "sum" }] :=
      .then made rename
    exact collections_valid.1 _ renamed _ List.mem_cons_self
  · refine collections_valid.2
      [.variable "n" "n" [], .algorithm "a" "sum",
        .edit "a" [.add .data "n" false, .add .data "n" false]] "a" _ ?_
    decide +kernel

end AlgorithmDriver

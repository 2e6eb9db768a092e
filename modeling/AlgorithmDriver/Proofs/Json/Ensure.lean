import AlgorithmDriver.Proofs.Json.Written
import AlgorithmDriver.Proofs.Model.Validity

/-!
# What loaded values have in common

A reader ensures a property when every value that it returns has it, whatever the document and
whatever follows the value.  Each way of building readers hands properties on: a list ensures what
every addition of an element keeps, a structure ensures what every field keeps, and what a field
establishes that cannot be left out.

* `Value.valid_of_load` — whatever is loaded is valid at every depth.
* `Interface.ensures_name` — the name of an interface that is loaded can be used.
-/

namespace AlgorithmDriver

namespace Json

variable {α β : Type}

/-- Every value that the reader returns has the property. -/
def Reader.Ensures (r : Reader α) (P : α → Prop) : Prop :=
  ∀ cs a rest, r.read cs = .ok (a, rest) → P a

namespace Reader

theorem ensures_true (r : Reader α) : r.Ensures fun _ => True := fun _ _ _ _ => trivial

/-- What a reader ensures holds of what whole documents are loaded as. -/
theorem Ensures.load {P : α → Prop} {r : Reader α} (h : r.Ensures P) {document : String} {a : α}
    (hl : r.load document = .ok a) : P a := by
  obtain ⟨rest, hr, -⟩ := load_iff_read.1 hl
  exact h _ _ _ hr

theorem Ensures.map {P : β → Prop} {r : Reader α} {f : α → β} (h : r.Ensures fun a => P (f a)) :
    (r.map f).Ensures P := by
  intro cs b rest hr
  obtain ⟨⟨a, rest'⟩, ha, he⟩ := Except.map_eq_ok_iff.1 (show readMapped f r cs = _ from hr)
  obtain ⟨rfl, -⟩ := Prod.mk.inj he
  exact h cs a rest' ha

theorem ensures_checked (check : α → Except ModelError Unit) (r : Reader α) :
    (r.checked check).Ensures fun a => check a = .ok () := by
  intro cs a rest h
  change readChecked check r cs = .ok (a, rest) at h
  unfold readChecked at h
  split at h
  · exact absurd h (by simp)
  · split at h
    · exact absurd h (by simp)
    · rename_i hc
      cases h
      exact hc

section Lists

variable {P : β → Prop} {Q : α → Prop} {add : β → α → Except ModelError β} {item : Reader α}
  (hi : item.Ensures Q)
  (ha : ∀ value a value', P value → Q a → add value a = .ok value' → P value')

include hi ha

/-- Reading elements keeps what adding any element keeps. -/
theorem Ensures.readElements {first : Bool} {value result : β} {cs rest : List Char} (hv : P value)
    (h : readElements item add first value cs = .ok (result, rest)) : P result := by
  fun_induction Json.readElements item add first value cs with
  | case2 =>
    cases h
    exact hv
  | case5 first value cs cs' hn a r hr value' hadd hlt ih =>
    exact ih (ha value a value' hv (hi cs' a r hr) hadd) h
  | _ => cases h

/-- A list ensures what holds at the start and is kept by adding any element. -/
theorem ensures_list {expected : String} {start : β} (hs : P start) :
    (Reader.list expected start add item).Ensures P := by
  intro cs result rest h
  change readList expected start add item cs = .ok (result, rest) at h
  unfold readList at h
  split at h
  · exact absurd h (by simp)
  · split at h
    · split at h
      · exact absurd h (by simp)
      · rename_i value r he
        obtain ⟨r', -, hr⟩ := Except.map_eq_ok_iff.1 h
        obtain ⟨rfl, -⟩ := Prod.mk.inj hr
        exact hi.readElements ha hs he
    · exact absurd h (by simp)

end Lists

end Reader

namespace Layout

variable {layout : Layout α} {P : α → Prop}

/-- What every field of a structure keeps. -/
def Keeps (layout : Layout α) (P : α → Prop) : Prop :=
  ∀ field ∈ layout.fields, field.reader.Ensures fun set => ∀ value, P value → P (set value)

theorem Keeps.readMembers (hk : layout.Keeps P) {first : Bool} {seen : List String}
    {value result : α} {cs rest : List Char} (hv : P value)
    (h : layout.readMembers first seen value cs = .ok (result, rest)) : P result := by
  fun_induction Layout.readMembers layout first seen value cs with
  | case3 =>
    cases h
    exact hv
  | case6 _ _ _ _ _ _ _ _ _ _ _ _ _ ih => exact ih hv h
  | case10 first seen value cs key r1 hn field hf hseen r2 hc set r3 hr hlt ih =>
    exact ih (hk field (List.mem_of_find?_eq_some hf) r2 set r3 hr value hv) h
  | _ => cases h

theorem Keeps.readItems (hk : layout.Keeps P) {index : Nat} {value result : α}
    {fields : List (Field α)} {cs rest : List Char} (hf : ∀ field ∈ fields, field ∈ layout.fields)
    (hv : P value) (h : layout.readItems index value fields cs = .ok (result, rest)) :
    P result := by
  fun_induction Layout.readItems layout index value fields cs with
  | case1 =>
    cases h
    exact hv
  | case4 index value cs field fields hn hreq ih =>
    exact ih (fun f hm => hf f (List.mem_cons_of_mem _ hm)) hv h
  | case6 index value field fields cs cs' hn set r hr ih =>
    have hkeep := hk field (hf field List.mem_cons_self) cs' set r hr
    exact ih (fun f hm => hf f (List.mem_cons_of_mem _ hm)) (hkeep value hv) h
  | _ => cases h

/-- A structure is read in one of its two forms. -/
theorem read_eq_ok (layout : Layout α) {result : α} {cs rest : List Char}
    (h : layout.read cs = .ok (result, rest)) :
    (∃ cs' r, layout.readItems 0 layout.blank layout.fields cs' = .ok (result, r)) ∨
      ∃ cs' r, layout.readMembers true [] layout.blank cs' = .ok (result, r) := by
  unfold Layout.read at h
  split at h
  · exact absurd h (by simp)
  · split at h
    · split at h
      · exact absurd h (by simp)
      · rename_i value r he
        obtain ⟨r', -, hr⟩ := Except.map_eq_ok_iff.1 h
        cases hr
        exact Or.inl ⟨_, r, he⟩
    · split at h
      · split at h
        · exact absurd h (by simp)
        · rename_i value r he
          obtain ⟨r', -, hr⟩ := Except.map_eq_ok_iff.1 h
          cases hr
          exact Or.inr ⟨_, r, he⟩
      · exact absurd h (by simp)

/-- A structure, in either of its forms, ensures what holds of the blank one and every field
keeps. -/
theorem Keeps.reader (hk : layout.Keeps P) (hb : P layout.blank) : layout.reader.Ensures P := by
  intro cs result rest h
  rcases layout.read_eq_ok h with ⟨cs', r, hr⟩ | ⟨cs', r, hr⟩
  · exact hk.readItems (fun _ hm => hm) hb hr
  · exact hk.readMembers hb hr

/-! ### Fields that cannot be left out -/

variable {field : Field α}

/-- As soon as a field was seen, what the field establishes holds; at the end a field that is
required was seen. -/
theorem Keeps.readMembers_required (hk : layout.Keeps P)
    (hd : (layout.fields.map Field.name).Nodup) (hf : field ∈ layout.fields)
    (hreq : field.required = true) (he : field.reader.Ensures fun set => ∀ value, P (set value))
    {first : Bool} {seen : List String} {value result : α} {cs rest : List Char}
    (hs : field.name ∈ seen → P value)
    (h : layout.readMembers first seen value cs = .ok (result, rest)) : P result := by
  fun_induction Layout.readMembers layout first seen value cs with
  | case3 first seen value cs hn hm =>
    cases h
    rw [missing?, Option.map_eq_none_iff, List.find?_eq_none] at hm
    refine hs ?_
    simpa [hreq] using hm field hf
  | case6 _ _ _ _ _ _ _ _ _ _ _ _ _ ih => exact ih hs h
  | case10 first seen value cs key r1 hn other ho hseen r2 hc set r3 hr hlt ih =>
    refine ih (fun hm => ?_) h
    rcases List.mem_cons.1 hm with rfl | hm
    · rw [find?_field hd hf] at ho
      cases ho
      exact he r2 set r3 hr value
    · exact hk other (List.mem_of_find?_eq_some ho) r2 set r3 hr value (hs hm)
  | _ => cases h

/-- The same for the list form, in which a field that is required is reached. -/
theorem Keeps.readItems_required (hk : layout.Keeps P) (hreq : field.required = true)
    (he : field.reader.Ensures fun set => ∀ value, P (set value)) {index : Nat} {value result : α}
    {fields : List (Field α)} {cs rest : List Char} (hf : ∀ field ∈ fields, field ∈ layout.fields)
    (hm : field ∈ fields) (h : layout.readItems index value fields cs = .ok (result, rest)) :
    P result := by
  fun_induction Layout.readItems layout index value fields cs with
  | case1 => cases hm
  | case4 index value cs other fields hn hother ih =>
    rcases List.mem_cons.1 hm with rfl | hm
    · exact absurd hreq hother
    · exact ih (fun f hm => hf f (List.mem_cons_of_mem _ hm)) hm h
  | case6 index value other fields cs cs' hn set r hr ih =>
    have hrest : ∀ f ∈ fields, f ∈ layout.fields := fun f hm => hf f (List.mem_cons_of_mem _ hm)
    rcases List.mem_cons.1 hm with rfl | hm
    · exact hk.readItems hrest (he cs' set r hr value) h
    · exact ih hrest hm h
  | _ => cases h

/-- A structure ensures what one of its required fields establishes and every field keeps. -/
theorem Keeps.reader_required (hk : layout.Keeps P) (hd : (layout.fields.map Field.name).Nodup)
    (hf : field ∈ layout.fields) (hreq : field.required = true)
    (he : field.reader.Ensures fun set => ∀ value, P (set value)) : layout.reader.Ensures P := by
  intro cs result rest h
  rcases layout.read_eq_ok h with ⟨cs', r, hr⟩ | ⟨cs', r, hr⟩
  · exact hk.readItems_required hreq he (fun _ hm => hm) hf hr
  · exact hk.readMembers_required hd hf hreq he (fun hm => absurd hm (by simp)) hr

end Layout

end Json

open Json

/-! ## Descriptions -/

/-- A loaded collection is valid when its items are valid inside. -/
theorem NamedList.ensures_reader {α : Type} [Named α] [Vetted α] {inner : α → Prop}
    {item : Reader α} (h : item.Ensures inner) :
    (NamedList.reader item).Ensures (NamedList.DeeplyValid inner) :=
  Reader.ensures_list h (fun _ _ _ hl hi hadd => hl.insert hi hadd) deeplyValid_empty

theorem Block.ensures_reader : Block.reader.Ensures NamedList.Valid :=
  fun cs b rest h =>
    (NamedList.ensures_reader (Reader.ensures_true Variable.reader) cs b rest h).valid

theorem Function.ensures_reader : Function.reader.Ensures Function.Valid := by
  refine Layout.Keeps.reader ?_ Function.valid_new
  simp only [Layout.Keeps, Function.layout, List.forall_mem_cons, List.not_mem_nil,
    IsEmpty.forall_iff, implies_true, and_true]
  refine ⟨?_, ?_, ?_⟩
  · exact Reader.Ensures.map fun _ _ _ _ f hf => hf
  · exact Reader.Ensures.map fun cs b rest h f _ => Block.ensures_reader cs b rest h
  · exact Reader.Ensures.map fun _ _ _ _ f hf => hf

theorem Algorithm.ensures_reader : Algorithm.reader.Ensures Algorithm.Valid := by
  have functions := NamedList.ensures_reader Function.ensures_reader
  refine Layout.Keeps.reader ?_ Algorithm.valid_new
  simp only [Layout.Keeps, Algorithm.layout, List.forall_mem_cons, List.not_mem_nil,
    IsEmpty.forall_iff, implies_true, and_true]
  refine ⟨?_, ?_, ?_, ?_⟩
  · exact Reader.Ensures.map fun _ _ _ _ a ha => { ha with }
  · exact Reader.Ensures.map fun cs b rest h a ha =>
      { ha with data := Block.ensures_reader cs b rest h }
  · exact Reader.Ensures.map fun cs l rest h a ha => { ha with callbacks := functions cs l rest h }
  · exact Reader.Ensures.map fun cs l rest h a ha => { ha with functions := functions cs l rest h }

theorem Interface.ensures_reader : Interface.reader.Ensures Interface.Valid := by
  have algorithms := NamedList.ensures_reader Algorithm.ensures_reader
  refine Layout.Keeps.reader ?_ NamedList.deeplyValid_empty
  simp only [Layout.Keeps, Interface.layout, List.forall_mem_cons, List.not_mem_nil,
    IsEmpty.forall_iff, implies_true, and_true]
  refine ⟨?_, ?_⟩
  · exact Reader.Ensures.map fun _ _ _ _ i hi => hi
  · exact Reader.Ensures.map fun cs l rest h i _ => algorithms cs l rest h

/-- The name of an interface that is read can be used. -/
theorem Interface.ensures_name :
    Interface.reader.Ensures fun i => checkName "interface" i.name = .ok () := by
  have hname : (Reader.string.checked (checkName "interface")).Ensures
      fun name => checkName "interface" name = .ok () := Reader.ensures_checked _ _
  have hk : Interface.layout.Keeps fun i => checkName "interface" i.name = .ok () := by
    simp only [Layout.Keeps, Interface.layout, List.forall_mem_cons, List.not_mem_nil,
      IsEmpty.forall_iff, implies_true, and_true]
    refine ⟨?_, ?_⟩
    · exact Reader.Ensures.map fun cs name rest h i _ => hname cs name rest h
    · exact Reader.Ensures.map fun _ _ _ _ i hi => hi
  refine hk.reader_required (by decide) List.mem_cons_self rfl ?_
  exact Reader.Ensures.map fun cs name rest h i => hname cs name rest h

theorem Shape.ensures_reader (shape : Shape) : shape.reader.Ensures Value.Valid := by
  have functions := NamedList.ensures_reader Function.ensures_reader
  have algorithms := NamedList.ensures_reader Algorithm.ensures_reader
  cases shape with
  | block => exact Reader.Ensures.map (fun cs b r h => Block.ensures_reader cs b r h)
  | function => exact Reader.Ensures.map (fun cs f r h => Function.ensures_reader cs f r h)
  | algorithm => exact Reader.Ensures.map (fun cs a r h => Algorithm.ensures_reader cs a r h)
  | interface => exact Reader.Ensures.map (fun cs i r h => Interface.ensures_reader cs i r h)
  | variableList => exact Reader.Ensures.map (fun cs l r h => Block.ensures_reader cs l r h)
  | functionList => exact Reader.Ensures.map (fun cs l r h => functions cs l r h)
  | algorithmList => exact Reader.Ensures.map (fun cs l r h => algorithms cs l r h)
  | _ => exact Reader.Ensures.map fun _ _ _ _ => trivial

/-- Whatever is loaded is valid at every depth. -/
theorem Value.valid_of_load {shape : Shape} {document : String} {v : Value}
    (h : Value.load shape document = .ok v) : v.Valid :=
  shape.ensures_reader.load h

end AlgorithmDriver

import AlgorithmDriver.Proofs.Model.History
import Mathlib.Data.List.Forall2
import Mathlib.Data.List.Perm.Subperm

/-!
# Sameness is equality up to order of declaration

Two collections are compared by a count and by looking up the items of one of them in the other.
Here this is told apart from how it is done.

* `NamedList.Reordered` says that one collection is obtained from another by putting its entries
  into another order, and replacing each item by one that it is related to.  From this,
  `Value.Reordered` is built up level by level, so that the collections of a value may be permuted at
  every depth, each in its own way, and all else stays as it is.
* For collections without repeated names the comparison finds just that
  (`NamedList.sameBy_iff`, `Value.same_iff`).
* What is left to tell two such values apart is the order of the names in their collections
  (`Value.Reordered.eq_of_orders`).
* `Value.same_iff_reordered` is the result for all values that operations can make.
-/

namespace AlgorithmDriver

/-! ## Lists that are related item by item -/

section Forall₂

variable {α β : Type} {R S T : α → α → Prop}

theorem forall₂_trans (trans : ∀ x y z, R x y → S y z → T x z) {l m n : List α}
    (hlm : List.Forall₂ R l m) (hmn : List.Forall₂ S m n) : List.Forall₂ T l n := by
  induction hlm generalizing n with
  | nil =>
    cases hmn
    exact .nil
  | cons hxy _ ih =>
    cases hmn with
    | cons hyz rest => exact .cons (trans _ _ _ hxy hyz) (ih rest)

theorem exists_mem_right {l m : List α} (h : List.Forall₂ R l m) {x : α} (mem : x ∈ l) :
    ∃ y ∈ m, R x y := by
  induction h with
  | nil => cases mem
  | cons hxy _ ih =>
    rcases List.mem_cons.1 mem with rfl | mem
    · exact ⟨_, List.mem_cons_self, hxy⟩
    · obtain ⟨y, hy, related⟩ := ih mem
      exact ⟨y, List.mem_cons_of_mem _ hy, related⟩

/-- Pieces of related items have the same lengths, so that equal concatenations have equal pieces. -/
theorem forall₂_of_flatMap_eq {pieces : α → List β} {l m : List α} (h : List.Forall₂ R l m)
    (lengths : ∀ x y, R x y → (pieces x).length = (pieces y).length)
    (same : l.flatMap pieces = m.flatMap pieces) :
    List.Forall₂ (fun x y => R x y ∧ pieces x = pieces y) l m := by
  induction h with
  | nil => exact .nil
  | cons hxy _ ih =>
    rw [List.flatMap_cons, List.flatMap_cons] at same
    obtain ⟨first, rest⟩ := List.append_inj same (lengths _ _ hxy)
    exact .cons ⟨hxy, first⟩ (ih rest)

end Forall₂

/-! ## Reordered collections -/

namespace NamedList

variable {α : Type} {inner : α → α → Prop} {a b c : NamedList α}

/-- Entries that are filed under the same name, with items that `inner` relates. -/
def Matches (inner : α → α → Prop) (x y : String × α) : Prop := x.1 = y.1 ∧ inner x.2 y.2

/-- The entries of `a`, in some order and with items replaced by related ones, are those of `b`. -/
def Reordered (inner : α → α → Prop) (a b : NamedList α) : Prop :=
  ∃ entries, a.entries.Perm entries ∧ List.Forall₂ (Matches inner) entries b.entries

/-- Replacing items and then permuting comes to the same as permuting first. -/
theorem reordered_of_replaced {entries : List (String × α)}
    (replaced : List.Forall₂ (Matches inner) a.entries entries) (perm : entries.Perm b.entries) :
    a.Reordered inner b := by
  have swapped := List.forall₂_comp_perm_eq_perm_comp_forall₂ (r := Matches inner)
  exact (congrFun (congrFun swapped a.entries) b.entries).mp ⟨entries, replaced, perm⟩

theorem reordered_equivalence (h : Equivalence inner) : Equivalence (Reordered inner) where
  refl a := ⟨a.entries, .refl _, List.forall₂_same.2 fun entry _ => ⟨rfl, h.refl entry.2⟩⟩
  symm := by
    rintro a b ⟨entries, perm, replaced⟩
    have restored : List.Forall₂ (Matches inner) b.entries entries :=
      (replaced.imp fun x y hxy => ⟨hxy.1.symm, h.symm hxy.2⟩).flip
    exact reordered_of_replaced restored perm.symm
  trans := by
    rintro a b c ⟨first, perm, replaced⟩ ⟨second, perm', replaced'⟩
    obtain ⟨between, moved, changed⟩ := reordered_of_replaced (a := ⟨first⟩) (b := ⟨second⟩)
      replaced perm'
    refine ⟨between, perm.trans moved, ?_⟩
    exact forall₂_trans (fun x y z hxy hyz => ⟨hxy.1.trans hyz.1, h.trans hxy.2 hyz.2⟩) changed
      replaced'

theorem map_fst_of_replaced {entries entries' : List (String × α)}
    (replaced : List.Forall₂ (Matches inner) entries entries') :
    entries.map Prod.fst = entries'.map Prod.fst := by
  induction replaced with
  | nil => rfl
  | cons matching _ ih => rw [List.map_cons, List.map_cons, matching.1, ih]

theorem Reordered.names_perm (h : a.Reordered inner b) : a.names.Perm b.names := by
  obtain ⟨entries, perm, replaced⟩ := h
  exact (perm.map _).trans (.of_eq (map_fst_of_replaced replaced))

theorem Reordered.length_eq (h : a.Reordered inner b) : a.length = b.length := by
  obtain ⟨entries, perm, replaced⟩ := h
  exact perm.length_eq.trans replaced.length_eq

/-! ## Looking up -/

/-- Where names are distinct, an entry is found by its name. -/
theorem get?_of_mem {l : NamedList α} (distinct : l.names.Nodup) {name : String} {item : α}
    (mem : (name, item) ∈ l.entries) : l.get? name = some item := by
  obtain ⟨before, after, split⟩ := List.mem_iff_append.1 mem
  refine List.lookup_eq_some_iff.2 ⟨before, after, split, fun entry h => bne_iff_ne.2 ?_⟩
  rw [names, split, List.map_append, List.nodup_append] at distinct
  exact (distinct.2.2 entry.1 (List.mem_map_of_mem h) name List.mem_cons_self).symm

theorem get?_eq_none_iff {l : NamedList α} {name : String} :
    l.get? name = none ↔ name ∉ l.names := by
  rw [← Option.not_isSome_iff_eq_none, get?, List.lookup_isSome_iff, names, List.mem_map]
  simp

/-- What is found under a name in one collection is related to what is found in the other. -/
theorem Reordered.get? (h : a.Reordered inner b) (hb : b.names.Nodup) (name : String) :
    Option.Rel inner (a.get? name) (b.get? name) := by
  cases found : a.get? name with
  | some item =>
    obtain ⟨entries, perm, replaced⟩ := h
    obtain ⟨⟨_, other⟩, mem, rfl, related⟩ :=
      exists_mem_right replaced (perm.mem_iff.1 (mem_of_get? found))
    rw [get?_of_mem hb mem]
    exact .some related
  | none =>
    have missing : name ∉ b.names := fun mem =>
      get?_eq_none_iff.1 found (h.names_perm.mem_iff.2 mem)
    rw [get?_eq_none_iff.2 missing]
    exact .none

/-- Collections with the same names in the same order are related item by item. -/
theorem Reordered.aligned (h : a.Reordered inner b) (ha : a.names.Nodup)
    (same : a.names = b.names) : List.Forall₂ (Matches inner) a.entries b.entries := by
  have hb : b.names.Nodup := same ▸ ha
  refine List.forall₂_iff_get.2 ⟨h.length_eq, fun i hi hj => ?_⟩
  have name : a.entries[i].1 = b.entries[i].1 := by
    have look : (a.entries[i]?).map Prod.fst = (b.entries[i]?).map Prod.fst := by
      rw [← List.getElem?_map, ← List.getElem?_map]
      exact congrArg (·[i]?) same
    rw [List.getElem?_eq_getElem hi, List.getElem?_eq_getElem hj] at look
    exact Option.some.inj look
  have left : a.get? a.entries[i].1 = some a.entries[i].2 := get?_of_mem ha (List.getElem_mem hi)
  have right : b.get? b.entries[i].1 = some b.entries[i].2 := get?_of_mem hb (List.getElem_mem hj)
  have related := h.get? hb a.entries[i].1
  rw [left, name, right] at related
  cases related with
  | some related => exact ⟨name, related⟩

/-! ## The comparison -/

theorem sameBy_eq_true_iff {same : α → α → Bool} :
    a.sameBy same b = true ↔ a.length = b.length ∧
      ∀ entry ∈ a.entries, ∃ other, b.get? entry.1 = some other ∧ same entry.2 other = true := by
  unfold sameBy
  rw [Bool.and_eq_true, beq_iff_eq, List.all_eq_true]
  refine and_congr_right fun _ => forall₂_congr fun entry _ => ?_
  obtain ⟨name, item⟩ := entry
  cases look : b.get? name <;> simp [look]

/-- The comparison finds a permutation, if there is one. -/
theorem sameBy_iff {same : α → α → Bool} (ha : a.names.Nodup) (hb : b.names.Nodup)
    (agree : ∀ x ∈ a.toList, ∀ y ∈ b.toList, same x y = true ↔ inner x y) :
    a.sameBy same b = true ↔ a.Reordered inner b := by
  rw [sameBy_eq_true_iff]
  constructor
  · rintro ⟨lengths, found⟩
    let partner (entry : String × α) := (entry.1, (b.get? entry.1).getD entry.2)
    have replaced : List.Forall₂ (Matches inner) a.entries (a.entries.map partner) := by
      refine List.forall₂_map_right_iff.2 (List.forall₂_same.2 fun entry mem => ⟨rfl, ?_⟩)
      obtain ⟨other, look, related⟩ := found entry mem
      simp only [partner, look, Option.getD_some]
      exact (agree _ (List.mem_map_of_mem mem) _ (mem_toList_of_get? look)).1 related
    have within : a.entries.map partner ⊆ b.entries := by
      intro _ replacing
      obtain ⟨entry, mem, rfl⟩ := List.mem_map.1 replacing
      obtain ⟨other, look, -⟩ := found entry mem
      simp only [partner, look, Option.getD_some]
      exact mem_of_get? look
    have distinct : (a.entries.map partner).Nodup :=
      List.Nodup.of_map Prod.fst (map_fst_of_replaced replaced ▸ ha)
    refine reordered_of_replaced replaced
      ((List.subperm_of_subset distinct within).perm_of_length_le ?_)
    rw [List.length_map]
    exact lengths.ge
  · intro h
    refine ⟨h.length_eq, fun entry mem => ?_⟩
    have related := h.get? hb entry.1
    rw [get?_of_mem ha mem] at related
    cases look : b.get? entry.1 with
    | none =>
      rw [look] at related
      cases related
    | some other =>
      rw [look] at related
      cases related with
      | some related =>
        exact ⟨other, rfl,
          (agree _ (List.mem_map_of_mem mem) _ (mem_toList_of_get? look)).2 related⟩

end NamedList

/-! ## Level by level -/

/-- A function whose parameters are declared in another order. -/
structure Function.Reordered (f g : Function) : Prop where
  name : f.name = g.name
  result : f.result = g.result
  parameters : f.parameters.Reordered Eq g.parameters

/-- An algorithm whose members of each sort are declared in another order, and their parameters
too. -/
structure Algorithm.Reordered (a b : Algorithm) : Prop where
  name : a.name = b.name
  data : a.data.Reordered Eq b.data
  callbacks : a.callbacks.Reordered Function.Reordered b.callbacks
  functions : a.functions.Reordered Function.Reordered b.functions

/-- An interface whose algorithms are declared in another order, and what is in them too. -/
structure Interface.Reordered (i j : Interface) : Prop where
  name : i.name = j.name
  algorithms : i.algorithms.Reordered Algorithm.Reordered j.algorithms

/-- A value whose collections are permuted, at every depth and independently of each other, and
that is otherwise the same. -/
inductive Value.Reordered : Value → Value → Prop
  | baseType (t : BaseType) : Reordered (.baseType t) (.baseType t)
  | extent (e : Extent) : Reordered (.extent e) (.extent e)
  | dimension (d : Dimension) : Reordered (.dimension d) (.dimension d)
  | variable (v : Variable) : Reordered (.variable v) (.variable v)
  | block {a b : Block} : NamedList.Reordered Eq a b → Reordered (.block a) (.block b)
  | function {f g : Function} : f.Reordered g → Reordered (.function f) (.function g)
  | algorithm {a b : Algorithm} : a.Reordered b → Reordered (.algorithm a) (.algorithm b)
  | interface {i j : Interface} : i.Reordered j → Reordered (.interface i) (.interface j)
  | variableList {l m : NamedList Variable} : l.Reordered Eq m →
      Reordered (.collection (.ofVariables l)) (.collection (.ofVariables m))
  | functionList {l m : NamedList Function} : l.Reordered Function.Reordered m →
      Reordered (.collection (.ofFunctions l)) (.collection (.ofFunctions m))
  | algorithmList {l m : NamedList Algorithm} : l.Reordered Algorithm.Reordered m →
      Reordered (.collection (.ofAlgorithms l)) (.collection (.ofAlgorithms m))

/-! ### An equivalence -/

theorem Block.reordered_equivalence : Equivalence (NamedList.Reordered (@Eq Variable)) :=
  NamedList.reordered_equivalence eq_equivalence

theorem Function.reordered_equivalence : Equivalence Function.Reordered where
  refl _ := ⟨rfl, rfl, Block.reordered_equivalence.refl _⟩
  symm h := ⟨h.name.symm, h.result.symm, Block.reordered_equivalence.symm h.parameters⟩
  trans h h' := ⟨h.name.trans h'.name, h.result.trans h'.result,
    Block.reordered_equivalence.trans h.parameters h'.parameters⟩

theorem NamedList.functions_equivalence : Equivalence (Reordered Function.Reordered) :=
  reordered_equivalence Function.reordered_equivalence

theorem Algorithm.reordered_equivalence : Equivalence Algorithm.Reordered where
  refl _ := ⟨rfl, Block.reordered_equivalence.refl _, NamedList.functions_equivalence.refl _,
    NamedList.functions_equivalence.refl _⟩
  symm h := ⟨h.name.symm, Block.reordered_equivalence.symm h.data,
    NamedList.functions_equivalence.symm h.callbacks,
    NamedList.functions_equivalence.symm h.functions⟩
  trans h h' := ⟨h.name.trans h'.name, Block.reordered_equivalence.trans h.data h'.data,
    NamedList.functions_equivalence.trans h.callbacks h'.callbacks,
    NamedList.functions_equivalence.trans h.functions h'.functions⟩

theorem NamedList.algorithms_equivalence : Equivalence (Reordered Algorithm.Reordered) :=
  reordered_equivalence Algorithm.reordered_equivalence

theorem Interface.reordered_equivalence : Equivalence Interface.Reordered where
  refl _ := ⟨rfl, NamedList.algorithms_equivalence.refl _⟩
  symm h := ⟨h.name.symm, NamedList.algorithms_equivalence.symm h.algorithms⟩
  trans h h' := ⟨h.name.trans h'.name,
    NamedList.algorithms_equivalence.trans h.algorithms h'.algorithms⟩

namespace Value

theorem reordered_refl (v : Value) : v.Reordered v := by
  cases v with
  | baseType t => exact .baseType t
  | extent e => exact .extent e
  | dimension d => exact .dimension d
  | «variable» v => exact .variable v
  | block b => exact .block (Block.reordered_equivalence.refl b)
  | function f => exact .function (Function.reordered_equivalence.refl f)
  | algorithm a => exact .algorithm (Algorithm.reordered_equivalence.refl a)
  | interface i => exact .interface (Interface.reordered_equivalence.refl i)
  | collection c =>
    cases c with
    | ofVariables l => exact .variableList (Block.reordered_equivalence.refl l)
    | ofFunctions l => exact .functionList (NamedList.functions_equivalence.refl l)
    | ofAlgorithms l => exact .algorithmList (NamedList.algorithms_equivalence.refl l)

theorem Reordered.symm {a b : Value} (h : a.Reordered b) : b.Reordered a := by
  cases h with
  | baseType t => exact .baseType t
  | extent e => exact .extent e
  | dimension d => exact .dimension d
  | «variable» v => exact .variable v
  | block h => exact .block (Block.reordered_equivalence.symm h)
  | function h => exact .function (Function.reordered_equivalence.symm h)
  | algorithm h => exact .algorithm (Algorithm.reordered_equivalence.symm h)
  | interface h => exact .interface (Interface.reordered_equivalence.symm h)
  | variableList h => exact .variableList (Block.reordered_equivalence.symm h)
  | functionList h => exact .functionList (NamedList.functions_equivalence.symm h)
  | algorithmList h => exact .algorithmList (NamedList.algorithms_equivalence.symm h)

theorem Reordered.trans {a b c : Value} (hab : a.Reordered b) (hbc : b.Reordered c) :
    a.Reordered c := by
  cases hab with
  | baseType | extent | dimension | «variable» => exact hbc
  | block h =>
    cases hbc with
    | block h' => exact .block (Block.reordered_equivalence.trans h h')
  | function h =>
    cases hbc with
    | function h' => exact .function (Function.reordered_equivalence.trans h h')
  | algorithm h =>
    cases hbc with
    | algorithm h' => exact .algorithm (Algorithm.reordered_equivalence.trans h h')
  | interface h =>
    cases hbc with
    | interface h' => exact .interface (Interface.reordered_equivalence.trans h h')
  | variableList h =>
    cases hbc with
    | variableList h' => exact .variableList (Block.reordered_equivalence.trans h h')
  | functionList h =>
    cases hbc with
    | functionList h' => exact .functionList (NamedList.functions_equivalence.trans h h')
  | algorithmList h =>
    cases hbc with
    | algorithmList h' => exact .algorithmList (NamedList.algorithms_equivalence.trans h h')

theorem reordered_equivalence : Equivalence Value.Reordered :=
  ⟨reordered_refl, Reordered.symm, Reordered.trans⟩

end Value

/-! ### What the comparison finds -/

theorem Block.same_iff {a b : Block} (ha : NamedList.Valid a) (hb : NamedList.Valid b) :
    Block.same a b = true ↔ NamedList.Reordered Eq a b :=
  NamedList.sameBy_iff ha.distinct hb.distinct fun _ _ _ _ => beq_iff_eq

theorem Function.same_iff {f g : Function} (hf : f.Valid) (hg : g.Valid) :
    f.same g = true ↔ f.Reordered g := by
  rw [Function.same, Bool.and_eq_true, Bool.and_eq_true, beq_iff_eq, beq_iff_eq,
    Block.same_iff hf hg]
  constructor
  · rintro ⟨⟨name, parameters⟩, result⟩
    exact ⟨name, result, parameters⟩
  · rintro ⟨name, result, parameters⟩
    exact ⟨⟨name, parameters⟩, result⟩

theorem NamedList.sameFunctions_iff {l m : NamedList Function} (hl : l.DeeplyValid Function.Valid)
    (hm : m.DeeplyValid Function.Valid) :
    l.sameBy Function.same m = true ↔ l.Reordered Function.Reordered m :=
  sameBy_iff hl.valid.distinct hm.valid.distinct fun f hf g hg =>
    Function.same_iff (hl.inside f hf) (hm.inside g hg)

theorem Algorithm.same_iff {a b : Algorithm} (ha : a.Valid) (hb : b.Valid) :
    a.same b = true ↔ a.Reordered b := by
  rw [Algorithm.same, Bool.and_eq_true, Bool.and_eq_true, Bool.and_eq_true, beq_iff_eq,
    Block.same_iff ha.data hb.data, NamedList.sameFunctions_iff ha.callbacks hb.callbacks,
    NamedList.sameFunctions_iff ha.functions hb.functions]
  constructor
  · rintro ⟨⟨⟨name, data⟩, callbacks⟩, functions⟩
    exact ⟨name, data, callbacks, functions⟩
  · rintro ⟨name, data, callbacks, functions⟩
    exact ⟨⟨⟨name, data⟩, callbacks⟩, functions⟩

theorem NamedList.sameAlgorithms_iff {l m : NamedList Algorithm}
    (hl : l.DeeplyValid Algorithm.Valid) (hm : m.DeeplyValid Algorithm.Valid) :
    l.sameBy Algorithm.same m = true ↔ l.Reordered Algorithm.Reordered m :=
  sameBy_iff hl.valid.distinct hm.valid.distinct fun a ha b hb =>
    Algorithm.same_iff (hl.inside a ha) (hm.inside b hb)

theorem Interface.same_iff {i j : Interface} (hi : i.Valid) (hj : j.Valid) :
    i.same j = true ↔ i.Reordered j := by
  rw [Interface.same, Bool.and_eq_true, beq_iff_eq, NamedList.sameAlgorithms_iff hi hj]
  exact ⟨fun h => ⟨h.1, h.2⟩, fun h => ⟨h.name, h.algorithms⟩⟩

/-- Valid values are the same for the comparison when one is the other reordered. -/
theorem Value.same_iff {a b : Value} (ha : a.Valid) (hb : b.Valid) :
    a.same b = true ↔ a.Reordered b := by
  constructor
  · intro h
    unfold Value.same at h
    split at h
    · exact eq_of_beq h ▸ .baseType _
    · exact eq_of_beq h ▸ .extent _
    · exact eq_of_beq h ▸ .dimension _
    · exact eq_of_beq h ▸ .variable _
    · exact .block ((Block.same_iff ha hb).1 h)
    · exact .function ((Function.same_iff ha hb).1 h)
    · exact .algorithm ((Algorithm.same_iff ha hb).1 h)
    · exact .interface ((Interface.same_iff ha hb).1 h)
    · exact .variableList ((Block.same_iff ha hb).1 h)
    · exact .functionList ((NamedList.sameFunctions_iff ha hb).1 h)
    · exact .algorithmList ((NamedList.sameAlgorithms_iff ha hb).1 h)
    · cases h
  · intro h
    cases h with
    | baseType | extent | dimension | «variable» => exact beq_self_eq_true _
    | block h => exact (Block.same_iff ha hb).2 h
    | function h => exact (Function.same_iff ha hb).2 h
    | algorithm h => exact (Algorithm.same_iff ha hb).2 h
    | interface h => exact (Interface.same_iff ha hb).2 h
    | variableList h => exact (Block.same_iff ha hb).2 h
    | functionList h => exact (NamedList.sameFunctions_iff ha hb).2 h
    | algorithmList h => exact (NamedList.sameAlgorithms_iff ha hb).2 h

/-! ## Looking up in the same values -/

/-- The item of a collection with the given name. -/
def Collection.find? : Collection → String → Option Value
  | .ofVariables l, name => (l.get? name).map .variable
  | .ofFunctions l, name => (l.get? name).map .function
  | .ofAlgorithms l, name => (l.get? name).map .algorithm

/-- The item with the given name in the collection at a place of a value. -/
def Value.find? (v : Value) (place : Place) (name : String) : Option Value :=
  (v.collection? place).bind (·.find? name)

theorem rel_map {α β : Type} {R : α → α → Prop} {S : β → β → Prop} {f : α → β}
    (imp : ∀ x y, R x y → S (f x) (f y)) {x y : Option α} (h : Option.Rel R x y) :
    Option.Rel S (x.map f) (y.map f) := by
  cases h with
  | none => exact .none
  | some h => exact .some (imp _ _ h)

theorem Collection.find?_valid {c : Collection} (hc : c.DeeplyValid) {name : String} {v : Value}
    (found : c.find? name = some v) : v.Valid := by
  cases c with
  | ofVariables l =>
    obtain ⟨_, _, rfl⟩ := Option.map_eq_some_iff.1 found
    trivial
  | ofFunctions l =>
    obtain ⟨f, look, rfl⟩ := Option.map_eq_some_iff.1 found
    exact hc.inside f (NamedList.mem_toList_of_get? look)
  | ofAlgorithms l =>
    obtain ⟨a, look, rfl⟩ := Option.map_eq_some_iff.1 found
    exact hc.inside a (NamedList.mem_toList_of_get? look)

theorem Value.find?_valid {v item : Value} (hv : v.Valid) {place : Place} {name : String}
    (found : v.find? place name = some item) : item.Valid := by
  obtain ⟨c, held, found⟩ := Option.bind_eq_some_iff.1 found
  exact Collection.find?_valid (hv.collection? held) found

/-- The collections at a place of two values are reordered when the values are. -/
theorem Value.Reordered.collection? {a b : Value} (h : a.Reordered b) (place : Place) :
    Option.Rel (fun c d => (Value.collection c).Reordered (.collection d)) (a.collection? place)
      (b.collection? place) := by
  cases h with
  | baseType | extent | dimension | «variable» => exact .none
  | block h =>
    cases place with
    | items => exact .some (.variableList h)
    | parameters | data | callbacks | functions | algorithms => exact .none
  | function h =>
    cases place with
    | parameters => exact .some (.variableList h.parameters)
    | items | data | callbacks | functions | algorithms => exact .none
  | algorithm h =>
    cases place with
    | data => exact .some (.variableList h.data)
    | callbacks => exact .some (.functionList h.callbacks)
    | functions => exact .some (.functionList h.functions)
    | items | parameters | algorithms => exact .none
  | interface h =>
    cases place with
    | algorithms => exact .some (.algorithmList h.algorithms)
    | items | parameters | data | callbacks | functions => exact .none
  | variableList h =>
    cases place with
    | items => exact .some (.variableList h)
    | parameters | data | callbacks | functions | algorithms => exact .none
  | functionList h =>
    cases place with
    | items => exact .some (.functionList h)
    | parameters | data | callbacks | functions | algorithms => exact .none
  | algorithmList h =>
    cases place with
    | items => exact .some (.algorithmList h)
    | parameters | data | callbacks | functions | algorithms => exact .none

theorem Collection.find?_reordered {c d : Collection} (hd : d.DeeplyValid)
    (h : (Value.collection c).Reordered (.collection d)) (name : String) :
    Option.Rel Value.Reordered (c.find? name) (d.find? name) := by
  cases h with
  | variableList h =>
    refine rel_map ?_ (h.get? (NamedList.Valid.distinct hd) name)
    rintro v _ rfl
    exact .variable v
  | functionList h => exact rel_map (fun _ _ => .function) (h.get? hd.valid.distinct name)
  | algorithmList h => exact rel_map (fun _ _ => .algorithm) (h.get? hd.valid.distinct name)

/-- Items that are found under the same name in values that are the same are the same. -/
theorem Value.Reordered.find?_same {a b : Value} (h : a.Reordered b) (ha : a.Valid) (hb : b.Valid)
    (place : Place) (name : String) :
    Option.Rel (fun x y => x.same y = true) (a.find? place name) (b.find? place name) := by
  have items : Option.Rel Value.Reordered (a.find? place name) (b.find? place name) := by
    have places := h.collection? place
    unfold Value.find?
    cases held : b.collection? place with
    | none =>
      rw [held] at places
      generalize a.collection? place = c at places
      cases places
      exact .none
    | some d =>
      rw [held] at places
      generalize a.collection? place = c at places
      cases places with
      | some reordered => exact Collection.find?_reordered (hb.collection? held) reordered name
  cases left : a.find? place name with
  | none =>
    rw [left] at items
    generalize b.find? place name = y at items
    cases items
    exact .none
  | some x =>
    cases right : b.find? place name with
    | none =>
      rw [left, right] at items
      cases items
    | some y =>
      rw [left, right] at items
      cases items with
      | some reordered =>
        exact .some ((Value.same_iff (find?_valid ha left) (find?_valid hb right)).2 reordered)

/-! ## The order of names -/

/-- The names of a collection, in order of declaration. -/
def Collection.names : Collection → List String
  | .ofVariables l => l.names
  | .ofFunctions l => l.names
  | .ofAlgorithms l => l.names

/-- The names in each of the collections of a value, at every depth. -/
def Value.orders (v : Value) : List (List String) := v.collections.map Collection.names

namespace NamedList

variable {α : Type} {inner : α → α → Prop} {a b : NamedList α}

theorem eq_of_aligned (h : List.Forall₂ (Matches Eq) a.entries b.entries) : a = b := by
  have same : List.Forall₂ Eq a.entries b.entries := h.imp fun _ _ h => Prod.ext h.1 h.2
  rw [List.forall₂_eq_eq_eq] at same
  exact congrArg NamedList.mk same

/-- Where names are in the same order and the items are determined by the orders within them, the
whole collection is. -/
theorem Reordered.eq_of_pieces {valid : α → Prop} {pieces : α → List (List String)}
    (h : a.Reordered inner b) (distinct : a.names.Nodup) (ha : ∀ item ∈ a.toList, valid item)
    (lengths : ∀ x y, inner x y → (pieces x).length = (pieces y).length)
    (determined : ∀ x y, valid x → inner x y → pieces x = pieces y → x = y)
    (names : a.names = b.names) (same : a.toList.flatMap pieces = b.toList.flatMap pieces) :
    a = b := by
  rw [toList, toList, List.flatMap_map, List.flatMap_map] at same
  have split := forall₂_of_flatMap_eq (h.aligned distinct names)
    (fun x y matching => lengths _ _ matching.2) same
  have inside : ∀ entry ∈ a.entries, valid entry.2 := fun entry mem =>
    ha _ (List.mem_map_of_mem mem)
  refine eq_of_aligned (((List.forall₂_and_left _ _).2 ⟨inside, split⟩).imp fun x y both => ?_)
  obtain ⟨hx, ⟨name, related⟩, piece⟩ := both
  exact ⟨name, determined _ _ hx related piece⟩

end NamedList

theorem Block.eq_of_names {a b : Block} (ha : NamedList.Valid a)
    (h : NamedList.Reordered Eq a b) (names : NamedList.names a = NamedList.names b) : a = b :=
  NamedList.eq_of_aligned (h.aligned ha.distinct names)

/-- The names in each of the collections of a function. -/
def Function.orders (f : Function) : List (List String) := f.collections.map Collection.names

/-- The names in each of the collections of an algorithm, at every depth. -/
def Algorithm.orders (a : Algorithm) : List (List String) := a.collections.map Collection.names

theorem Function.eq_of_orders {f g : Function} (hf : f.Valid) (h : f.Reordered g)
    (same : f.orders = g.orders) : f = g := by
  obtain ⟨name, parameters, result⟩ := f
  obtain ⟨name', parameters', result'⟩ := g
  obtain ⟨rfl, rfl, reordered⟩ := h
  have names : parameters.names = parameters'.names := List.head_eq_of_cons_eq same
  rw [show parameters = parameters' from Block.eq_of_names hf reordered names]

theorem NamedList.orders_withinFunctions (l : NamedList Function) :
    l.withinFunctions.map Collection.names = l.names :: l.toList.flatMap Function.orders := by
  rw [withinFunctions, List.map_cons, List.map_flatMap]
  rfl

theorem NamedList.eq_of_functionOrders {l m : NamedList Function}
    (hl : l.DeeplyValid Function.Valid) (h : l.Reordered Function.Reordered m)
    (same : l.withinFunctions.map Collection.names = m.withinFunctions.map Collection.names) :
    l = m := by
  rw [orders_withinFunctions, orders_withinFunctions] at same
  obtain ⟨names, rest⟩ := List.cons.inj same
  exact h.eq_of_pieces hl.valid.distinct hl.inside (fun _ _ _ => rfl)
    (fun _ _ => Function.eq_of_orders) names rest

theorem NamedList.length_withinFunctions (l : NamedList Function) :
    l.withinFunctions.length = l.length + 1 := by
  simp [withinFunctions, Function.collections, List.length_flatMap, toList, NamedList.length,
    Function.comp_def]

theorem Algorithm.orders_eq (a : Algorithm) :
    a.orders = a.data.names :: (a.callbacks.withinFunctions.map Collection.names ++
      a.functions.withinFunctions.map Collection.names) := by
  rw [Algorithm.orders, Algorithm.collections, List.map_cons, List.map_append]
  rfl

theorem Algorithm.Reordered.length_orders {a b : Algorithm} (h : a.Reordered b) :
    a.orders.length = b.orders.length := by
  simp only [Algorithm.orders_eq, List.length_cons, List.length_append, List.length_map,
    NamedList.length_withinFunctions, h.callbacks.length_eq, h.functions.length_eq]

theorem Algorithm.eq_of_orders {a b : Algorithm} (ha : a.Valid) (h : a.Reordered b)
    (same : a.orders = b.orders) : a = b := by
  rw [Algorithm.orders_eq, Algorithm.orders_eq] at same
  obtain ⟨names, rest⟩ := List.cons.inj same
  have lengths : (a.callbacks.withinFunctions.map Collection.names).length =
      (b.callbacks.withinFunctions.map Collection.names).length := by
    rw [List.length_map, List.length_map, NamedList.length_withinFunctions,
      NamedList.length_withinFunctions, h.callbacks.length_eq]
  obtain ⟨inCallbacks, inFunctions⟩ := List.append_inj rest lengths
  have data := Block.eq_of_names ha.data h.data names
  have callbacks := NamedList.eq_of_functionOrders ha.callbacks h.callbacks inCallbacks
  have functions := NamedList.eq_of_functionOrders ha.functions h.functions inFunctions
  obtain ⟨name, _, _, _⟩ := a
  obtain ⟨name', _, _, _⟩ := b
  obtain rfl : name = name' := h.name
  cases data
  cases callbacks
  cases functions
  rfl

theorem NamedList.eq_of_algorithmOrders {l m : NamedList Algorithm}
    (hl : l.DeeplyValid Algorithm.Valid) (h : l.Reordered Algorithm.Reordered m)
    (same : l.withinAlgorithms.map Collection.names = m.withinAlgorithms.map Collection.names) :
    l = m := by
  rw [withinAlgorithms, withinAlgorithms, List.map_cons, List.map_cons, List.map_flatMap,
    List.map_flatMap] at same
  obtain ⟨names, rest⟩ := List.cons.inj same
  exact h.eq_of_pieces hl.valid.distinct hl.inside (fun _ _ => Algorithm.Reordered.length_orders)
    (fun _ _ => Algorithm.eq_of_orders) names rest

/-- Values that are the same up to order are equal when the names are in the same order everywhere. -/
theorem Value.Reordered.eq_of_orders {a b : Value} (h : a.Reordered b) (ha : a.Valid)
    (same : a.orders = b.orders) : a = b := by
  cases h with
  | baseType | extent | dimension | «variable» => rfl
  | block h => rw [Block.eq_of_names ha h (List.head_eq_of_cons_eq same)]
  | function h => rw [Function.eq_of_orders ha h same]
  | algorithm h => rw [Algorithm.eq_of_orders ha h same]
  | @interface i j h =>
    obtain ⟨name, algorithms⟩ := i
    obtain ⟨name', algorithms'⟩ := j
    obtain ⟨rfl, reordered⟩ := h
    rw [show algorithms = algorithms' from NamedList.eq_of_algorithmOrders ha reordered same]
  | variableList h => rw [Block.eq_of_names ha h (List.head_eq_of_cons_eq same)]
  | functionList h => rw [NamedList.eq_of_functionOrders ha h same]
  | algorithmList h => rw [NamedList.eq_of_algorithmOrders ha h same]

/-! ## Values that operations make -/

/-- A value that some operations can make. -/
def Value.Reachable (v : Value) : Prop := ∃ held, History held ∧ v ∈ held

theorem Value.Reachable.valid {v : Value} (h : v.Reachable) : v.Valid := by
  obtain ⟨held, history, mem⟩ := h
  exact history.valid v mem

/-- **Sameness is equality up to order of declaration.**  For all values that operations can make:

* they are the same exactly when one is obtained from the other by permuting collections, at every
  depth independently, and by nothing else;
* this is an equivalence;
* what is found under a name in one of two that are the same is the same as what is found in the
  other, at every place;
* two that are the same and whose collections list their names in the same order, at every depth,
  have the same document. -/
theorem Value.same_iff_reordered :
    (∀ a b : Value, a.Reachable → b.Reachable → (a.same b = true ↔ a.Reordered b)) ∧
    Equivalence (fun a b : { v : Value // v.Reachable } => a.1.same b.1 = true) ∧
    (∀ a b : Value, a.Reachable → b.Reachable → a.same b = true → ∀ place name,
      Option.Rel (fun x y => x.same y = true) (a.find? place name) (b.find? place name)) ∧
    ∀ a b : Value, a.Reachable → b.Reachable → a.same b = true → a.orders = b.orders →
      a.dump = b.dump := by
  have iff (a b : Value) (ha : a.Reachable) (hb : b.Reachable) :
      a.same b = true ↔ a.Reordered b := Value.same_iff ha.valid hb.valid
  refine ⟨iff, ⟨fun a => ?_, fun {a b} h => ?_, fun {a b c} hab hbc => ?_⟩, ?_, ?_⟩
  · exact (iff a a a.2 a.2).2 (reordered_refl a)
  · exact (iff b a b.2 a.2).2 ((iff a b a.2 b.2).1 h).symm
  · exact (iff a c a.2 c.2).2 (((iff a b a.2 b.2).1 hab).trans ((iff b c b.2 c.2).1 hbc))
  · intro a b ha hb same
    exact ((iff a b ha hb).1 same).find?_same ha.valid hb.valid
  · intro a b ha hb same orders
    rw [((iff a b ha hb).1 same).eq_of_orders ha.valid orders]

namespace Sameness

/-- A scalar. -/
def scalar (name : String) : Variable := { name, baseType := .int }

/-- A function with two parameters, in either order. -/
def binary (first second : String) : Function :=
  { name := "f", parameters := ⟨[(first, scalar first), (second, scalar second)]⟩ }

/-- That function before another one. -/
def before : NamedList Function := ⟨[("f", binary "n" "m"), ("g", { name := "g" })]⟩

/-- That function with its parameters in the other order, behind the other one. -/
def behind : NamedList Function := ⟨[("g", { name := "g" }), ("f", binary "m" "n")]⟩

theorem history_binary {first second : String}
    (made : NamedList.ofList [scalar first, scalar second] =
      .ok ⟨[(first, scalar first), (second, scalar second)]⟩) {held : List Value}
    (history : History held) :
    ∃ more, History (.function (binary first second) :: more ++ held) := by
  have scalars := (history.then (.variable (scalar first))).then (.variable (scalar second))
  have parameters := scalars.then (.ofList (by simp [Item.value]) made)
  have empty := parameters.then (.function "f" none)
  have assigned : (Value.function { name := "f" }).assign? .parameters
      (.ofVariables ⟨[(first, scalar first), (second, scalar second)]⟩) =
        some (.function (binary first second)) := rfl
  exact ⟨[_, _, _, _], empty.then
    (.assign List.mem_cons_self (List.mem_cons_of_mem _ List.mem_cons_self) assigned)⟩

end Sameness

open Sameness in
/-- Two lists of functions that differ in the order of the functions and of their parameters. -/
theorem Value.same_iff_reordered_binary :
    (Value.collection (.ofFunctions before)).Reordered (.collection (.ofFunctions behind)) ∧
      (Value.collection (.ofFunctions behind)).same (.collection (.ofFunctions before)) = true ∧
      (Value.function (binary "n" "m")).same (.function (binary "m" "n")) = true := by
  have ordered : NamedList.ofList [scalar "n", scalar "m"] =
      .ok ⟨[("n", scalar "n"), ("m", scalar "m")]⟩ := by decide +kernel
  have turned : NamedList.ofList [scalar "m", scalar "n"] =
      .ok ⟨[("m", scalar "m"), ("n", scalar "n")]⟩ := by decide +kernel
  have listed : NamedList.ofList [binary "n" "m", { name := "g" }] = .ok before := by decide +kernel
  have moved : NamedList.ofList [{ name := "g" }, binary "m" "n"] = .ok behind := by decide +kernel
  obtain ⟨first, history⟩ := history_binary ordered .start
  obtain ⟨second, history⟩ := history_binary turned history
  have functions := history.then (.function "g" none)
  have one := functions.then (.ofList (by simp [Item.value]) listed)
  have all := one.then (.ofList (by simp [Item.value]) moved)
  have left : (Value.collection (.ofFunctions before)).Reachable := ⟨_, all, by simp [Item.collection]⟩
  have right : (Value.collection (.ofFunctions behind)).Reachable := ⟨_, all, List.mem_cons_self⟩
  have same : (Value.collection (.ofFunctions before)).same (.collection (.ofFunctions behind)) =
      true := by decide +kernel
  obtain ⟨iff, equivalence, find, -⟩ := Value.same_iff_reordered
  have back := @equivalence.symm ⟨_, left⟩ ⟨_, right⟩ same
  refine ⟨(iff _ _ left right).1 same, back, ?_⟩
  have found := find _ _ left right same .items "f"
  cases found with
  | some same => exact same

end AlgorithmDriver

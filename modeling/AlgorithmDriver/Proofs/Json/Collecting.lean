import AlgorithmDriver.Proofs.Json.RoundTrip
import AlgorithmDriver.Proofs.Model.Sequence

/-!
# Collections made of lists of items

A collection can be made of a list of items in three ways: by loading the list of their documents, at
once, or by inserting one item after the other.  It makes no difference which one is taken.

* `Sequence.Welcome` says that items may stand in a list together, and `Sequence.Offends` which item
  is the first one that may not stand after those before it.
* `NamedList.ofList_cases` — one of the two holds, and tells what the collection is or why there is
  none.
* `Json.Reader.fails_list` — a list is refused for the reason for which adding its elements is.
* `Value.load_collected` — the three ways agree, for all items that operations can make.
-/

namespace AlgorithmDriver

open Json

/-! ## The first item that is refused -/

namespace Sequence

variable {α : Type} [Named α] {before items : List α} {item : α} {others : List String}
  {e e' : ModelError}

/-- The items may stand in a list together. -/
structure Welcome (items : List α) : Prop where
  named : ∀ item ∈ items, checkName (Named.kind α) (Named.name item) = .ok ()
  checked : ∀ item ∈ items, Named.check item = .ok ()
  distinct : (names items).Nodup

/-- Some item may not stand after the ones before it, which are welcome, for the given reason. -/
def Offends (items : List α) (e : ModelError) : Prop :=
  ∃ before item after, items = before ++ item :: after ∧ Welcome before ∧
    objection? (names before) item = some e

theorem welcome_nil : Welcome ([] : List α) := ⟨nofun, nofun, List.nodup_nil⟩

theorem objection?_eq_none_iff : objection? others item = none ↔
    checkName (Named.kind α) (Named.name item) = .ok () ∧ Named.check item = .ok () ∧
      Named.name item ∉ others := by
  unfold objection? checkName
  by_cases blank : Named.name item = ""
  · simp [blank]
  · by_cases spelled : isIdentifier (Named.name item) = true
    · cases checked : Named.check item with
      | error e => simp [blank, spelled]
      | ok => by_cases known : Named.name item ∈ others <;> simp [blank, spelled, known]
    · simp [blank, spelled]

theorem Welcome.append_left {after : List α} (welcome : Welcome (before ++ after)) :
    Welcome before where
  named item mem := welcome.named item (List.mem_append_left _ mem)
  checked item mem := welcome.checked item (List.mem_append_left _ mem)
  distinct := by
    have distinct := welcome.distinct
    rw [names, List.map_append] at distinct
    exact (List.nodup_append.1 distinct).1

/-- An item is welcome after others when there is no objection to it. -/
theorem welcome_concat_iff : Welcome (before ++ [item]) ↔
    Welcome before ∧ objection? (names before) item = none := by
  rw [objection?_eq_none_iff]
  constructor
  · intro welcome
    have last : item ∈ before ++ [item] := List.mem_append_right _ (List.mem_singleton_self item)
    have distinct := welcome.distinct
    rw [names, List.map_append, List.map_singleton, List.nodup_append] at distinct
    refine ⟨welcome.append_left, welcome.named item last, welcome.checked item last, fun known => ?_⟩
    exact distinct.2.2 _ known _ (List.mem_singleton_self _) rfl
  · rintro ⟨welcome, named, checked, new⟩
    refine ⟨fun other mem => ?_, fun other mem => ?_, ?_⟩
    · rcases List.mem_append.1 mem with mem | mem
      · exact welcome.named other mem
      · obtain rfl := List.mem_singleton.1 mem
        exact named
    · rcases List.mem_append.1 mem with mem | mem
      · exact welcome.checked other mem
      · obtain rfl := List.mem_singleton.1 mem
        exact checked
    · rw [names, List.map_append, List.map_singleton, List.nodup_append]
      refine ⟨welcome.distinct, List.nodup_singleton _, fun name mem other here same => ?_⟩
      obtain rfl := List.mem_singleton.1 here
      exact new (same ▸ mem)

/-- Where all are welcome none offends. -/
theorem Welcome.not_offends (welcome : Welcome items) : ¬ Offends items e := by
  rintro ⟨before, item, after, rfl, _, objected⟩
  rw [List.append_cons] at welcome
  have accepted := (welcome_concat_iff.1 welcome.append_left).2
  cases accepted.symm.trans objected

/-- There is one first item that offends. -/
theorem Offends.unique (first : Offends items e) (second : Offends items e') : e = e' := by
  obtain ⟨before, item, after, rfl, welcome, objected⟩ := first
  obtain ⟨before', item', after', same, welcome', objected'⟩ := second
  have shorter {a b : List α} {x y : α} {rest rest' : List α} (welcome : Welcome b)
      (objection : objection? (names a) x = some e ∨ objection? (names a) x = some e')
      (split : a ++ x :: rest = b ++ y :: rest') : ¬ a.length < b.length := by
    intro short
    obtain ⟨more, rfl⟩ : ∃ more, b = a ++ x :: more := by
      rcases List.append_eq_append_iff.1 split with ⟨more, rfl, tail⟩ | ⟨more, rfl, _⟩
      · cases more with
        | nil => simp at short
        | cons y' more =>
          obtain ⟨rfl, _⟩ := List.cons.inj tail
          exact ⟨more, rfl⟩
      · simp at short
    rw [List.append_cons] at welcome
    have accepted := (welcome_concat_iff.1 welcome.append_left).2
    rcases objection with objection | objection <;> cases accepted.symm.trans objection
  have lengths : before.length = before'.length :=
    Nat.le_antisymm (Nat.not_lt.1 (shorter welcome (.inr objected') same.symm))
      (Nat.not_lt.1 (shorter welcome' (.inl objected) same))
  obtain ⟨rfl, tail⟩ := List.append_inj same lengths
  obtain ⟨rfl, _⟩ := List.cons.inj tail
  exact Option.some.inj (objected.symm.trans objected')

end Sequence

namespace NamedList

open Sequence

variable {α : Type} [Named α] {l : NamedList α} {before items : List α}

/-- An item is inserted unless there is an objection to it. -/
theorem Represents.insert_cases (represents : l.Represents before) (item : α) :
    (∃ e, objection? (Sequence.names before) item = some e ∧ l.insert item = .error e) ∨
      objection? (Sequence.names before) item = none ∧
        ∃ l', l.insert item = .ok l' ∧ l'.Represents (before ++ [item]) := by
  have performed := represents.perform (.insert item)
  simp only [NamedList.perform, Sequence.perform] at performed
  cases objected : objection? (Sequence.names before) item with
  | some e =>
    refine .inl ⟨e, rfl, ?_⟩
    rw [objected] at performed
    cases inserted : l.insert item with
    | error e' =>
      rw [inserted] at performed
      exact congrArg _ (Except.error.inj performed.2)
    | ok l' =>
      rw [inserted] at performed
      cases performed.2
  | none =>
    refine .inr ⟨rfl, ?_⟩
    rw [objected] at performed
    cases inserted : l.insert item with
    | error e' =>
      rw [inserted] at performed
      cases performed.2
    | ok l' =>
      rw [inserted] at performed
      exact ⟨l', rfl, performed.1⟩

theorem Represents.insertAll_cases (represents : l.Represents before) (welcome : Welcome before)
    (items : List α) :
    (∃ l', l.insertAll items = .ok l' ∧ l'.Represents (before ++ items) ∧
        Welcome (before ++ items)) ∨
      ∃ e, l.insertAll items = .error e ∧ Offends (before ++ items) e := by
  induction items generalizing l before with
  | nil =>
    rw [List.append_nil]
    exact .inl ⟨l, rfl, represents, welcome⟩
  | cons item items ih =>
    rw [insertAll]
    rcases represents.insert_cases item with ⟨e, objected, refused⟩ | ⟨accepted, l', inserted, next⟩
    · rw [refused]
      exact .inr ⟨e, rfl, before, item, items, rfl, welcome, objected⟩
    · rw [inserted, List.append_cons]
      exact ih next (welcome_concat_iff.2 ⟨welcome, accepted⟩)

/-- Items are collected in their order when all are welcome, and else the first one that offends is
the reason why they are not. -/
theorem ofList_cases (items : List α) :
    (∃ l : NamedList α, ofList items = .ok l ∧ l.toList = items ∧ Welcome items) ∨
      ∃ e, ofList items = .error e ∧ Offends items e := by
  rcases represents_empty.insertAll_cases welcome_nil items with ⟨l, made, represents, welcome⟩ | refused
  · exact .inl ⟨l, made, represents.toList, welcome⟩
  · exact .inr refused

theorem ofList_eq_ok_iff : (∃ l, ofList items = .ok l) ↔ Welcome items := by
  rcases ofList_cases items with ⟨l, made, _, welcome⟩ | ⟨e, refused, offends⟩
  · exact iff_of_true ⟨l, made⟩ welcome
  · refine iff_of_false ?_ fun welcome => welcome.not_offends offends
    rintro ⟨l, made⟩
    cases refused.symm.trans made

theorem ofList_eq_error_iff {e : ModelError} : ofList items = .error e ↔ Offends items e := by
  rcases ofList_cases items with ⟨l, made, _, welcome⟩ | ⟨e', refused, offends⟩
  · refine iff_of_false ?_ welcome.not_offends
    intro refused
    cases made.symm.trans refused
  · rw [refused]
    constructor
    · rintro ⟨⟩
      exact offends
    · intro other
      rw [offends.unique other]

theorem toList_of_ofList (made : ofList items = .ok l) : l.toList = items := by
  rcases ofList_cases items with ⟨l', made', ordered, _⟩ | ⟨e, refused, _⟩
  · cases made.symm.trans made'
    exact ordered
  · cases made.symm.trans refused

end NamedList

/-! ## Lists that are refused -/

namespace Json

variable {α β : Type} {item : Reader α} {add : β → α → Except ModelError β} {write : α → List Char}

theorem readElements_refused {first : Bool} {value : β} {a : α} {cs cs' rest : List Char}
    {e : ModelError} (next : nextElement first cs = .ok (some cs'))
    (read : item.read cs' = .ok (a, rest)) (refused : add value a = .error e) :
    readElements item add first value cs = .error (.content (.refused e) ⟨false, rest⟩) := by
  rw [readElements]
  split
  · rename_i found
    cases next.symm.trans found
  · rename_i found
    cases next.symm.trans found
  · rename_i found
    cases next.symm.trans found
    split
    · rename_i found
      cases read.symm.trans found
    · rename_i found
      cases read.symm.trans found
      simp only [refused]

/-- The elements after the first are added one by one, up to the first that is refused. -/
theorem readElements_commas_refused {as : List α} {value : β} {e : ModelError} (rest : List Char)
    (reads : ∀ a ∈ as, item.Reads (write a) a) (refused : as.foldlM add value = .error e) :
    ∃ place, readElements item add false value
        ((as.map write).flatMap (',' :: ·) ++ ']' :: rest) =
      .error (.content (.refused e) place) := by
  induction as generalizing value with
  | nil => cases refused
  | cons a as ih =>
    have first := reads a List.mem_cons_self
    have closed : Closed ((as.map write).flatMap (',' :: ·) ++ ']' :: rest) :=
      closed_commas rest (by decide)
    have read := first.read _ closed
    rw [List.foldlM_cons] at refused
    rw [List.map_cons, List.flatMap_cons, List.append_assoc, List.cons_append]
    cases added : add value a with
    | error e' =>
      rw [added] at refused
      cases refused
      exact ⟨_, readElements_refused first.nextElement_comma read added⟩
    | ok value' =>
      rw [added] at refused
      rw [readElements_item first.nextElement_comma read added]
      exact ih (fun b mem => reads b (List.mem_cons_of_mem a mem)) refused

/-- A list is refused for the reason for which adding its elements one by one is. -/
theorem Reader.fails_list {expected : String} {start : β} {as : List α} {e : ModelError}
    (reads : ∀ a ∈ as, item.Reads (write a) a) (refused : as.foldlM add start = .error e) :
    (Reader.list expected start add item).Fails (writeList (as.map write))
      (.content (.refused e)) := by
  intro rest _
  obtain ⟨place, elements⟩ : ∃ place, readElements item add true start
      (writeCommas (as.map write) ++ ']' :: rest) = .error (.content (.refused e) place) := by
    cases as with
    | nil => cases refused
    | cons a as =>
      have first := reads a List.mem_cons_self
      have closed : Closed ((as.map write).flatMap (',' :: ·) ++ ']' :: rest) :=
        closed_commas rest (by decide)
      have read := first.read _ closed
      rw [List.foldlM_cons] at refused
      rw [List.map_cons, writeCommas_cons, List.append_assoc]
      cases added : add start a with
      | error e' =>
        rw [added] at refused
        cases refused
        exact ⟨_, readElements_refused first.nextElement_first read added⟩
      | ok value =>
        rw [added] at refused
        rw [readElements_item first.nextElement_first read added]
        exact readElements_commas_refused rest (fun b mem => reads b (List.mem_cons_of_mem a mem)) refused
  refine ⟨.settle Bracket.list.leave (.content (.refused e) place), ?_, Failure.problem_settle _ _⟩
  show readList expected start add item (writeList (as.map write) ++ rest) = _
  rw [writeList, List.cons_append, List.append_assoc, List.singleton_append, readList,
    skipBlank_cons (by decide)]
  simp only [if_true, elements]

/-- Loading a list of documents comes to the same as adding what they hold. -/
theorem Reader.load_list {expected : String} {start : β} {as : List α}
    (reads : ∀ a ∈ as, item.Reads (write a) a) :
    (Reader.list expected start add item).load (String.ofList (writeList (as.map write))) =
      (as.foldlM add start).mapError fun e => .content (.refused e) := by
  cases added : as.foldlM add start with
  | error e => exact (Reader.fails_list reads added).load
  | ok result => exact (Reader.reads_list reads added).load

theorem Reader.load_map (r : Reader α) (f : α → β) (document : String) :
    (r.map f).load document = (r.load document).map f := by
  have all : (r.map f).readAll document.toList = (r.readAll document.toList).map f := by
    unfold Reader.readAll Reader.map readMapped
    dsimp only
    cases r.read document.toList with
    | error e => rfl
    | ok answer =>
      dsimp only [Except.map]
      split <;> rfl
  unfold Reader.load
  rw [all]
  cases r.readAll document.toList <;> rfl

end Json

/-! ## Three ways -/

open Sequence

/-- However a list of items is made into a collection, the outcome is the same.  `value` tells how an
item is written, and `embed` what a loaded collection is. -/
structure Collects {α : Type} [Named α] (shape : Shape) (embed : NamedList α → Value)
    (value : α → Value) (items : List α) : Prop where
  /-- The list of the documents of the items is loaded as the collection of the items, or refused
  for the same reason. -/
  load : Value.load shape (String.ofList (writeList (items.map fun item => (value item).write))) =
    ((NamedList.ofList items).map embed).mapError fun e => .content (.refused e)
  insert : items.foldlM NamedList.insert .empty = NamedList.ofList items
  order : ∀ l, NamedList.ofList items = .ok l → l.toList = items
  refused : ∀ e, NamedList.ofList items = .error e ↔ Offends items e
  accepted : (∃ l, NamedList.ofList items = .ok l) ↔ Welcome items
  message : ∀ e p, NamedList.ofList items = .error e →
    Value.load shape (String.ofList (writeList (items.map fun item => (value item).write))) = .error p →
      p.message = e.message

theorem Collects.of_reads {α : Type} [Named α] {item : Reader α} {write : α → List Char}
    {shape : Shape} {embed : NamedList α → Value} {value : α → Value} {items : List α}
    (reader : shape.reader = (NamedList.reader item).map embed)
    (written : ∀ a ∈ items, (value a).write = write a)
    (reads : ∀ a ∈ items, item.Reads (write a) a) : Collects shape embed value items := by
  have load : Value.load shape (String.ofList (writeList (items.map fun item => (value item).write))) =
      ((NamedList.ofList items).map embed).mapError fun e => .content (.refused e) := by
    rw [List.map_congr_left written, Value.load, reader, Reader.load_map, NamedList.reader,
      Reader.load_list reads, ← NamedList.insertAll_eq_foldlM]
    unfold NamedList.ofList
    cases NamedList.insertAll NamedList.empty items <;> rfl
  refine
    { load
      insert := (NamedList.insertAll_eq_foldlM _ _).symm
      order := fun l made => NamedList.toList_of_ofList made
      refused := fun e => NamedList.ofList_eq_error_iff
      accepted := NamedList.ofList_eq_ok_iff
      message := fun e p refused failed => ?_ }
  rw [load, refused] at failed
  cases failed
  rfl

/-- Loading the list of the documents of some items, making a collection of the items at once, and
inserting them one after the other into an empty collection all come to the same, for any items that
operations can make: a collection with the items in their order when all names are identifiers, all
items pass their checks and no two have the same name, and else the reason why the first item that
offends is refused. -/
theorem Value.load_collected {held : List Value} (history : History held) :
    (∀ items : List Variable, (∀ v ∈ items, .variable v ∈ held) →
      Collects .variableList (fun l => .collection (.ofVariables l)) .variable items ∧
        Collects .block .block .variable items) ∧
    (∀ items : List Function, (∀ f ∈ items, .function f ∈ held) →
      Collects .functionList (fun l => .collection (.ofFunctions l)) .function items) ∧
    ∀ items : List Algorithm, (∀ a ∈ items, .algorithm a ∈ held) →
      Collects .algorithmList (fun l => .collection (.ofAlgorithms l)) .algorithm items := by
  refine ⟨fun items known => ?_, fun items known => ?_, fun items known => ?_⟩
  · exact ⟨.of_reads rfl (fun _ _ => rfl) fun v _ => Variable.reads v,
      .of_reads rfl (fun _ _ => rfl) fun v _ => Variable.reads v⟩
  · exact .of_reads rfl (fun _ _ => rfl) fun f mem => Function.reads (history.valid _ (known f mem))
  · exact .of_reads rfl (fun _ _ => rfl) fun a mem => Algorithm.reads (history.valid _ (known a mem))

/-- Of three variables the second one has no elements, and is refused before the third one, which has
the name of the first. -/
theorem Value.load_collected_variables :
    History [.variable ⟨"x", .int, []⟩, .variable ⟨"y", .int, [⟨.fixed 0⟩]⟩] ∧
      Value.load .variableList (String.ofList (writeList (List.map
        (fun item => (Value.variable item).write)
        [⟨"x", .int, []⟩, ⟨"y", .int, [⟨.fixed 0⟩]⟩, ⟨"x", .int, []⟩]))) =
      .error (.content (.refused (.zeroExtent "y"))) := by
  have history : History [.variable ⟨"x", .int, []⟩, .variable ⟨"y", .int, [⟨.fixed 0⟩]⟩] :=
    .then (.then .start (.variable _)) (.variable _)
  have collects := ((load_collected history).1
    [⟨"x", .int, []⟩, ⟨"y", .int, [⟨.fixed 0⟩]⟩, ⟨"x", .int, []⟩] (by simp)).1
  refine ⟨history, ?_⟩
  rw [collects.load, (collects.refused (.zeroExtent "y")).2 ?_]
  · rfl
  · refine ⟨[⟨"x", .int, []⟩], ⟨"y", .int, [⟨.fixed 0⟩]⟩, [⟨"x", .int, []⟩], rfl, ?_, ?_⟩
    · exact welcome_concat_iff.2 ⟨welcome_nil, by decide +kernel⟩
    · decide +kernel

end AlgorithmDriver

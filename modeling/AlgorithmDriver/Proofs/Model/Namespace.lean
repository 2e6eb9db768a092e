import AlgorithmDriver.Proofs.Model.History

/-!
# The namespace of an algorithm

Data, callbacks and functions of an algorithm share one namespace.  An algorithm that stands alone may
use a name twice, since its parts can be filled without looking at each other; it is refused when it
enters an interface.

* `Algorithm.Separate` — no two parts of an algorithm use the same name.
* `Algorithm.FirstRepeat` — the first member that has the name of an earlier one.
* `History.shares_namespace` — the check of a whole algorithm and the check of a single function that is
  added agree on what a clash is, however the algorithm was made.
-/

namespace AlgorithmDriver

/-! ## Clashes -/

namespace Algorithm

variable {a : Algorithm} {f : Function} {name : String}

/-- No name is used in two of the parts. -/
structure Separate (a : Algorithm) : Prop where
  callbacks : a.data.names.Disjoint a.callbacks.names
  functions : a.data.names.Disjoint a.functions.names
  between : a.callbacks.names.Disjoint a.functions.names

/-- A name is used in one of the parts. -/
def Uses (a : Algorithm) (name : String) : Prop :=
  name ∈ a.data.names ∨ name ∈ a.callbacks.names ∨ name ∈ a.functions.names

/-- A member stands in a list, some earlier one has its name, and those before it have different
names. -/
def Repeats (members : List (String × String)) (kind name : String) : Prop :=
  ∃ before after, members = before ++ (kind, name) :: after ∧ (before.map Prod.snd).Nodup ∧
    name ∈ before.map Prod.snd

/-- The first member that has the name of an earlier one, in order of declaration: data, callbacks,
then functions. -/
def FirstRepeat (a : Algorithm) (kind name : String) : Prop := Repeats a.members kind name

/-- The search for a clash reports the first member whose name was seen before the search, or during
it. -/
theorem firstClash_eq_error_iff (members : List (String × String)) (seen : List String)
    (e : ModelError) :
    firstClash seen members = .error e ↔
      ∃ kind name before after, members = before ++ (kind, name) :: after ∧
        (before.map Prod.snd).Nodup ∧ (∀ earlier ∈ before.map Prod.snd, earlier ∉ seen) ∧
        (name ∈ seen ∨ name ∈ before.map Prod.snd) ∧ e = .duplicateName kind name := by
  induction members generalizing seen with
  | nil => simp [firstClash]
  | cons member rest ih =>
    obtain ⟨k, n⟩ := member
    rw [firstClash]
    by_cases known : seen.contains n = true
    · have old := List.contains_iff_mem.1 known
      rw [if_pos known]
      constructor
      · intro h
        exact ⟨k, n, [], rest, rfl, .nil, fun _ none => absurd none List.not_mem_nil, .inl old,
          (Except.error.inj h).symm⟩
      · rintro ⟨kind, name, before, after, split, -, unseen, -, rfl⟩
        cases before with
        | nil =>
          cases split
          rfl
        | cons first before =>
          cases split
          exact absurd old (unseen n List.mem_cons_self)
    · have new : n ∉ seen := fun old => known (List.contains_iff_mem.2 old)
      rw [if_neg known, ih]
      constructor
      · rintro ⟨kind, name, before, after, rfl, distinct, unseen, met, rfl⟩
        refine ⟨kind, name, (k, n) :: before, after, rfl, ?_, ?_, ?_, rfl⟩
        · exact List.nodup_cons.2 ⟨fun here => unseen n here List.mem_cons_self, distinct⟩
        · exact List.forall_mem_cons.2
            ⟨new, fun earlier here old => unseen earlier here (List.mem_cons_of_mem _ old)⟩
        · rcases met with old | here
          · rcases List.mem_cons.1 old with rfl | old
            · exact .inr List.mem_cons_self
            · exact .inl old
          · exact .inr (List.mem_cons_of_mem _ here)
      · rintro ⟨kind, name, before, after, split, distinct, unseen, met, rfl⟩
        cases before with
        | nil =>
          cases split
          rcases met with old | here
          · exact absurd old new
          · exact absurd here List.not_mem_nil
        | cons first before =>
          cases split
          obtain ⟨fresh, distinct⟩ := List.nodup_cons.1 distinct
          refine ⟨kind, name, before, after, rfl, distinct, fun earlier here old => ?_, ?_, rfl⟩
          · rcases List.mem_cons.1 old with rfl | old
            · exact fresh here
            · exact unseen earlier (List.mem_cons_of_mem _ here) old
          · rcases met with old | here
            · exact .inl (List.mem_cons_of_mem _ old)
            · rcases List.mem_cons.1 here with rfl | here
              · exact .inl List.mem_cons_self
              · exact .inr here

/-- An algorithm is refused for its first repeated name. -/
theorem check_eq_error_iff {e : ModelError} :
    a.check = .error e ↔ ∃ kind name, a.FirstRepeat kind name ∧ e = .duplicateName kind name := by
  rw [check, firstClash_eq_error_iff]
  constructor
  · rintro ⟨kind, name, before, after, split, distinct, -, met, rfl⟩
    exact ⟨kind, name, ⟨before, after, split, distinct, met.resolve_left List.not_mem_nil⟩, rfl⟩
  · rintro ⟨kind, name, ⟨before, after, split, distinct, here⟩, rfl⟩
    exact ⟨kind, name, before, after, split, distinct, fun _ _ => List.not_mem_nil, .inr here, rfl⟩

/-- Each part has distinct names, so names clash only between parts. -/
theorem distinctMembers_iff (valid : a.Valid) : a.DistinctMembers ↔ a.Separate := by
  have data := valid.data.distinct
  have callbacks := valid.callbacks.valid.distinct
  have functions := valid.functions.valid.distinct
  rw [DistinctMembers, List.nodup_append', List.nodup_append', List.disjoint_append_left]
  constructor
  · rintro ⟨⟨-, -, apart⟩, -, across, between⟩
    exact ⟨apart, across, between⟩
  · intro separate
    exact ⟨⟨data, callbacks, separate.callbacks⟩, functions, separate.functions, separate.between⟩

theorem check_eq_ok_iff_separate (valid : a.Valid) : a.check = .ok () ↔ a.Separate := by
  rw [check_eq_ok_iff, distinctMembers_iff valid]

/-- An item of two lists together stands in the second one, or in the first one with all that is before
it. -/
theorem mem_or_eq_of_append_eq {α : Type} {first second before after : List α} {item : α}
    (h : first ++ second = before ++ item :: after) :
    item ∈ second ∨ ∃ rest, first = before ++ item :: rest := by
  rcases List.append_eq_append_iff.1 h with ⟨between, -, rfl⟩ | ⟨rest, whole, others⟩
  · exact .inl (List.mem_append_right _ List.mem_cons_self)
  · cases rest with
    | nil =>
      rw [List.nil_append] at others
      exact .inl (others ▸ List.mem_cons_self)
    | cons other rest =>
      cases others
      exact .inr ⟨rest, whole⟩

/-- The first name that is repeated is never that of a variable: the variables have distinct names. -/
theorem FirstRepeat.kind_eq {kind : String} (valid : a.Valid) (first : a.FirstRepeat kind name) :
    kind = "callback" ∨ kind = "function" := by
  obtain ⟨before, after, split, -, here⟩ := first
  rw [members, List.append_assoc] at split
  rcases mem_or_eq_of_append_eq split with other | ⟨rest, data⟩
  · rcases List.mem_append.1 other with callback | function
    · obtain ⟨_, _, same⟩ := List.mem_map.1 callback
      exact .inl (Prod.mk.inj same).1.symm
    · obtain ⟨_, _, same⟩ := List.mem_map.1 function
      exact .inr (Prod.mk.inj same).1.symm
  · have names : a.data.names = before.map Prod.snd ++ name :: rest.map Prod.snd := by
      simpa [Function.comp_def] using congrArg (List.map Prod.snd) data
    have distinct := valid.data.distinct
    rw [names, List.nodup_append'] at distinct
    exact absurd List.mem_cons_self (distinct.2.2 here)

/-! ## Adding functions -/

/-- What a function is to an algorithm. -/
inductive Role where
  | callback
  | function
  deriving DecidableEq

/-- What a function is called in messages about its name. -/
def Role.kind : Role → String
  | callback => "callback"
  | function => "function"

/-- The part of an algorithm that holds the functions of a role. -/
def Role.part : Role → Place
  | callback => .callbacks
  | function => .functions

/-- Adds a function in a role, unless some member has its name. -/
def add (a : Algorithm) (role : Role) (f : Function) : Except ModelError Algorithm :=
  match role with
  | .callback => a.addCallback f
  | .function => a.addFunction f

/-- Adds a function to the part of its role.  The other parts are not looked at. -/
def place (a : Algorithm) (role : Role) (f : Function) : Except ModelError Algorithm :=
  match role with
  | .callback => (a.callbacks.insert f).map fun callbacks => { a with callbacks }
  | .function => (a.functions.insert f).map fun functions => { a with functions }

theorem declares_iff : a.declares name = true ↔ a.Uses name := by
  have data : (a.data.get? name).isSome = true ↔ name ∈ a.data.names := by
    rw [NamedList.get?, List.lookup_isSome_iff, NamedList.names, List.mem_map]
    constructor
    · rintro ⟨entry, here, same⟩
      exact ⟨entry, here, (eq_of_beq same).symm⟩
    · rintro ⟨entry, here, rfl⟩
      exact ⟨entry, here, beq_self_eq_true _⟩
  rw [declares, Uses, Bool.or_eq_true, Bool.or_eq_true, data, NamedList.contains,
    NamedList.contains, List.contains_iff_mem, List.contains_iff_mem, or_assoc]

theorem add_eq (a : Algorithm) (role : Role) (f : Function) :
    a.add role f =
      if a.declares f.name then .error (.duplicateName role.kind f.name) else a.place role f := by
  cases role <;> rfl

theorem add_of_uses (role : Role) (used : a.Uses f.name) :
    a.add role f = .error (.duplicateName role.kind f.name) := by
  rw [add_eq, if_pos (declares_iff.2 used)]

theorem add_of_not_uses (role : Role) (new : ¬ a.Uses f.name) : a.add role f = a.place role f := by
  rw [add_eq, if_neg (declares_iff.not.2 new)]

theorem checkName_ne_duplicate (sort checked kind name : String) :
    checkName sort checked ≠ .error (.duplicateName kind name) := by
  unfold checkName
  split
  · simp
  · split <;> simp

/-- A collection that does not have the name refuses an item for other reasons only. -/
theorem insert_ne_duplicate {l : NamedList Function} (new : f.name ∉ l.names) (kind name : String) :
    l.insert f ≠ .error (.duplicateName kind name) := by
  have absent : l.position? (Named.name f) = none := NamedList.position?_eq_none_iff.2 new
  rw [NamedList.insert, NamedList.vet, absent]
  cases checked : checkName (Named.kind Function) (Named.name f) with
  | error e =>
    intro refused
    cases refused
    exact checkName_ne_duplicate _ _ _ _ checked
  | ok => simp [Named.check]

/-- A name that is used is the only thing that is reported as a duplicate. -/
theorem add_eq_duplicate_iff {role : Role} {kind : String} :
    a.add role f = .error (.duplicateName kind name) ↔
      a.Uses f.name ∧ kind = role.kind ∧ name = f.name := by
  by_cases used : a.Uses f.name
  · rw [add_of_uses role used]
    simp [used, eq_comm]
  · rw [add_of_not_uses role used]
    simp only [used, false_and, iff_false]
    have new : f.name ∉ a.callbacks.names ∧ f.name ∉ a.functions.names :=
      ⟨fun here => used (.inr (.inl here)), fun here => used (.inr (.inr here))⟩
    cases role with
    | callback => exact fun h => insert_ne_duplicate new.1 kind name (Except.map_eq_error_iff.1 h)
    | function => exact fun h => insert_ne_duplicate new.2 kind name (Except.map_eq_error_iff.1 h)

/-- A function that was added brings its name and changes no other. -/
theorem names_of_place {a' : Algorithm} {role : Role} (h : a.place role f = .ok a') :
    (a'.data.names ++ a'.callbacks.names ++ a'.functions.names).Perm
      (f.name :: (a.data.names ++ a.callbacks.names ++ a.functions.names)) := by
  cases role with
  | callback =>
    obtain ⟨callbacks, inserted, rfl⟩ := Except.map_eq_ok_iff.1 h
    obtain ⟨-, -, -, rfl⟩ := NamedList.insert_eq_ok_iff.1 inserted
    simp only [NamedList.names, List.map_append, List.map_cons, List.map_nil, List.append_assoc,
      List.cons_append, List.nil_append]
    rw [← List.append_assoc]
    refine List.perm_middle.trans ?_
    rw [List.append_assoc]
    exact .refl _
  | function =>
    obtain ⟨functions, inserted, rfl⟩ := Except.map_eq_ok_iff.1 h
    obtain ⟨-, -, -, rfl⟩ := NamedList.insert_eq_ok_iff.1 inserted
    simp only [NamedList.names, List.map_append, List.map_cons, List.map_nil]
    rw [← List.append_assoc]
    exact List.perm_append_comm

/-- An algorithm without clashes has none after something was added to it, or refused. -/
theorem check_outcome_add {role : Role} (fine : a.check = .ok ()) :
    (Workbench.outcome a (a.add role f)).1.check = .ok () := by
  by_cases used : a.Uses f.name
  · rw [add_of_uses role used]
    exact fine
  · rw [add_of_not_uses role used]
    cases placed : a.place role f with
    | error e => exact fine
    | ok a' =>
      have distinct : a.DistinctMembers := (check_eq_ok_iff a).1 fine
      refine (check_eq_ok_iff a').2 ((names_of_place placed).nodup_iff.2 (List.nodup_cons.2 ⟨?_, distinct⟩))
      intro here
      rw [List.append_assoc, List.mem_append, List.mem_append] at here
      exact used here

/-- Adding a function to an algorithm that is worked on. -/
theorem editAlgorithm_add {bench : Workbench} {item : String}
    (found : bench.get? item = some (.function f)) (role : Role) (a : Algorithm) :
    bench.editAlgorithm (.add role.part item false) a = Workbench.outcome a (a.add role f) := by
  cases role <;> simp only [Workbench.editAlgorithm, Role.part, found] <;> rfl

/-- An interface takes an algorithm with a new name when its parts are separate. -/
theorem accepted_iff (valid : a.Valid) {i : Interface} (named : isIdentifier a.name = true)
    (new : a.name ∉ i.algorithms.names) :
    (∃ i', i.addAlgorithm a = .ok i') ↔ a.Separate := by
  rw [← distinctMembers_iff valid]
  constructor
  · rintro ⟨i', added⟩
    obtain ⟨algorithms, inserted, -⟩ := Except.map_eq_ok_iff.1 added
    exact (NamedList.insert_eq_ok_iff.1 inserted).2.1
  · intro distinct
    have inserted := NamedList.insert_eq_ok_iff.2 ⟨named, distinct, new, rfl⟩
    exact ⟨_, Except.map_eq_ok_iff.2 ⟨_, inserted, rfl⟩⟩

end Algorithm

/-! ## However an algorithm was made -/

/-- The check of a whole algorithm finds a clash when two of its parts use the same name, and reports
the first member that repeats one, which is a callback or a function.  Adding a callback or a function
fails for a duplicate when any part uses the name, is a plain insertion otherwise, and leaves the
algorithm alone when it fails; it never brings a clash into an algorithm without one.  An interface
takes an algorithm with a new name exactly when its parts are separate. -/
theorem History.shares_namespace {held : List Value} {a : Algorithm} (made : History held)
    (here : .algorithm a ∈ held) :
    (a.check = .ok () ↔ a.Separate) ∧
      (∀ e, a.check = .error e ↔
        ∃ kind name, a.FirstRepeat kind name ∧ e = .duplicateName kind name) ∧
      (∀ kind name, a.FirstRepeat kind name → kind = "callback" ∨ kind = "function") ∧
      (∀ (role : Algorithm.Role) (f : Function),
        (∀ kind name, a.add role f = .error (.duplicateName kind name) ↔
          a.Uses f.name ∧ kind = role.kind ∧ name = f.name) ∧
        (¬ a.Uses f.name → a.add role f = a.place role f) ∧
        ∀ (bench : Workbench) (item : String), bench.get? item = some (.function f) →
          ∃ after result, bench.editAlgorithm (.add role.part item false) a = (after, result) ∧
            ((result = .ok () ∧ a.add role f = .ok after) ∨
              ∃ e, result = .error e ∧ a.add role f = .error e ∧ after = a) ∧
            (a.check = .ok () → after.check = .ok ())) ∧
      ∀ i : Interface, isIdentifier a.name = true → a.name ∉ i.algorithms.names →
        ((∃ i', i.addAlgorithm a = .ok i') ↔ a.Separate) := by
  have valid : a.Valid := made.valid _ here
  refine ⟨Algorithm.check_eq_ok_iff_separate valid, fun e => Algorithm.check_eq_error_iff,
    fun kind name first => first.kind_eq valid, fun role f => ⟨fun kind name =>
      Algorithm.add_eq_duplicate_iff, Algorithm.add_of_not_uses role, fun bench item found => ?_⟩,
    fun i named new => Algorithm.accepted_iff valid named new⟩
  refine ⟨_, _, Algorithm.editAlgorithm_add found role a, ?_, Algorithm.check_outcome_add⟩
  cases added : a.add role f with
  | ok after => exact .inl ⟨rfl, rfl⟩
  | error e => exact .inr ⟨e, rfl, rfl, rfl⟩

/-- A variable, and a callback of its name that was put beside it without a look at it. -/
def Algorithm.clashing : Algorithm where
  name := "sum"
  data := ⟨[("n", { name := "n", baseType := .int })]⟩
  callbacks := ⟨[("n", { name := "n" })]⟩

theorem History.shares_namespace_clashing :
    Algorithm.clashing.check = .error (.duplicateName "callback" "n") ∧
      Algorithm.clashing.addFunction { name := "n" } = .error (.duplicateName "function" "n") := by
  have data : NamedList.ofList [({ name := "n", baseType := .int } : Variable)] =
      .ok Algorithm.clashing.data := by decide +kernel
  have callbacks : NamedList.ofList [({ name := "n" } : Function)] =
      .ok Algorithm.clashing.callbacks := by decide +kernel
  have parts := ((((History.start.then (.variable { name := "n", baseType := .int })).then
    (.ofList (by simp [Item.value]) data)).then (.function "n" none)).then
      (.ofList (by simp [Item.value]) callbacks)).then (.algorithm "sum")
  have filled := parts.then (@Gives.assign _ _
    (.algorithm { name := "sum", data := Algorithm.clashing.data }) .data
    (.ofVariables Algorithm.clashing.data) List.mem_cons_self (by simp [Item.collection]) rfl)
  have made := filled.then (@Gives.assign _ _ (.algorithm Algorithm.clashing) .callbacks
    (.ofFunctions Algorithm.clashing.callbacks) List.mem_cons_self (by simp [Item.collection]) rfl)
  have shared := made.shares_namespace List.mem_cons_self
  exact ⟨(shared.2.1 _).2 ⟨"callback", "n", ⟨[("variable", "n")], [], rfl, by decide, by decide⟩, rfl⟩,
    ((shared.2.2.2.1 .function { name := "n" }).1 "function" "n").2 ⟨.inl (by decide), rfl, rfl⟩⟩

end AlgorithmDriver

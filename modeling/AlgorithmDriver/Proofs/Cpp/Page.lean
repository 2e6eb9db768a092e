import AlgorithmDriver.Cpp.Declaration

/-!
# Lines of templates

What the templates of declarations give, told without a page: a namespace with nothing in it takes one
line, what is inside a namespace is indented, and algorithms have blank lines between them.

* `Cpp.Lays` — where a line is due, the steps give these lines.  `Cpp.Fills` is the same for steps that
  may give none.
* `Cpp.lays_algorithmSteps`, `Cpp.lays_interfaceSteps` — the lines of whole templates.
-/

namespace AlgorithmDriver.Cpp

/-! ## Lines -/

/-- Indents a line; blank lines stay blank. -/
def indent (line : String) : String := if line = "" then "" else "    " ++ line

/-- A namespace around the given lines. -/
def scope (name : String) (body : List String) : List String :=
  match body with
  | [] => ["namespace " ++ name ++ " \x7b\x7d"]
  | body => ["namespace " ++ name ++ " \x7b"] ++ body.map indent ++ ["\x7d"]

/-- Puts a blank line between blocks of lines. -/
def separated : List (List String) → List String
  | [] => []
  | [block] => block
  | block :: blocks => block ++ [""] ++ separated blocks

/-- The lines of a block of variables. -/
def blockLines (b : Block) : List String := b.toList.map declaration

/-- The lines of an algorithm: its data, its callbacks, then its functions. -/
def algorithmLines (a : Algorithm) : List String :=
  scope a.name
    (blockLines a.data ++ a.callbacks.toList.map prototype ++ a.functions.toList.map prototype)

/-- The lines of an interface. -/
def interfaceLines (i : Interface) : List String :=
  ["#pragma once", ""] ++ scope i.name (separated (i.algorithms.toList.map algorithmLines))

theorem scope_nil (name : String) : scope name [] = ["namespace " ++ name ++ " \x7b\x7d"] := rfl

theorem scope_of_filled {name : String} {body : List String} (filled : body ≠ []) :
    scope name body = ["namespace " ++ name ++ " \x7b"] ++ body.map indent ++ ["\x7d"] := by
  cases body with
  | nil => exact absurd rfl filled
  | cons line rest => rfl

theorem separated_cons_cons (block next : List String) (blocks : List (List String)) :
    separated (block :: next :: blocks) = block ++ [""] ++ separated (next :: blocks) := rfl

theorem algorithmLines_ne_nil (a : Algorithm) : algorithmLines a ≠ [] := by
  unfold algorithmLines
  generalize blockLines a.data ++ _ ++ _ = members
  cases members <;> simp [scope]

/-- No block is left out. -/
theorem separated_eq_nil_iff {as : List Algorithm} :
    separated (as.map algorithmLines) = [] ↔ as = [] := by
  cases as with
  | nil => simp [separated]
  | cons a as =>
    cases as with
    | nil => simpa [separated] using algorithmLines_ne_nil a
    | cons b as => simp [separated]

/-- A line that was moved to the right by some levels; blank lines stay blank. -/
def moved (depth : Nat) (line : String) : String := if line = "" then "" else padded depth line

theorem moved_zero (line : String) : moved 0 line = line := by
  unfold moved
  split
  · rename_i blank
    exact blank.symm
  · exact String.empty_append

theorem moved_of_ne {depth : Nat} {line : String} (filled : line ≠ "") :
    moved depth line = padded depth line := if_neg filled

/-- Indented lines are moved by one more level. -/
theorem moved_indent (depth : Nat) (line : String) :
    moved depth (indent line) = moved (depth + 1) line := by
  by_cases blank : line = ""
  · rw [blank]
    rfl
  · have filled : indent line ≠ "" := by
      rw [indent, if_neg blank]
      exact fun none => blank (String.append_eq_empty_iff.1 none).2
    rw [moved_of_ne filled, moved_of_ne blank, indent, if_neg blank]
    apply String.toList_inj.1
    have four : "    ".toList = List.replicate 4 ' ' := by decide
    simp only [padded, String.toList_append, String.toList_ofList, four]
    rw [← List.append_assoc, List.replicate_append_replicate, Nat.mul_succ]

/-! ## Pages -/

namespace Page

variable {p : Page} {depth : Nat} {s : String}

theorem run_append (p : Page) (first second : List Step) :
    p.run (first ++ second) = (p.run first).run second := List.foldl_append

/-- The next text begins a line at this depth. -/
structure Due (p : Page) (depth : Nat) : Prop where
  depth : (p.depth : Int) + p.change = depth
  breaks : p.here = none ∨ p.change ≠ 0 ∨ p.space ≠ .none

/-- The last line was begun at this depth, and the next text goes on with it. -/
structure Settled (p : Page) (depth : Nat) : Prop where
  begun : p.here.isSome
  depth : p.depth = depth
  space : p.space = .none
  change : p.change = 0

theorem Due.begin (due : p.Due depth) (filled : s ≠ "") : p.step (.text s) = p.begin s := by
  rw [step, if_neg filled, write]
  split
  · rfl
  · rename_i line begun
    refine if_neg ?_
    rintro ⟨still, together⟩
    rcases due.breaks with new | changes | breaks
    · cases new.symm.trans begun
    · exact changes still
    · exact breaks together

theorem Settled.push (settled : p.Settled depth) : (p.step .push).Due depth ∧
    (p.step .push).lines = p.lines ∧ (p.step .push).blanks = [] := by
  obtain ⟨begun, rfl, space, change⟩ := settled
  have step : p.step .push = { p with space := .push } := by
    rw [Page.step, if_neg (by rw [space]; decide)]
  rw [step]
  refine ⟨⟨?_, .inr (.inr Space.noConfusion)⟩, rfl, if_neg fun h => nomatch h.2⟩
  show (p.depth : Int) + p.change = p.depth
  rw [change, Int.add_zero]

theorem Settled.line (settled : p.Settled depth) : (p.step .line).Due depth ∧
    (p.step .line).lines = p.lines ∧ (p.step .line).blanks = [""] := by
  obtain ⟨begun, rfl, space, change⟩ := settled
  refine ⟨⟨?_, .inr (.inr Space.noConfusion)⟩, rfl, if_pos ⟨begun, rfl⟩⟩
  show (p.depth : Int) + p.change = p.depth
  rw [change, Int.add_zero]

end Page

open Page

/-- Where a line is due, the steps give these lines, moved to where it is due. -/
def Lays (steps : List Step) (ls : List String) : Prop :=
  ∀ (p : Page) (depth : Nat), p.Due depth →
    (p.run steps).Settled depth ∧ (p.run steps).lines = p.lines ++ p.blanks ++ ls.map (moved depth)

namespace Lays

variable {first second : List Step} {ls others : List String}

theorem text {s : String} (filled : s ≠ "") : Lays [.text s] [s] := by
  intro p depth due
  have written : p.run [.text s] = p.begin s := due.begin filled
  have place : (p.depth + p.change).toNat = depth := by
    rw [due.depth]
    rfl
  rw [written, Page.begin, place]
  refine ⟨⟨rfl, rfl, rfl, rfl⟩, ?_⟩
  rw [List.map_singleton, moved_of_ne filled]
  rfl

theorem push (h : Lays first ls) (h' : Lays second others) :
    Lays (first ++ .push :: second) (ls ++ others) := by
  intro p depth due
  obtain ⟨settled, written⟩ := h p depth due
  obtain ⟨next, lines, blanks⟩ := settled.push
  obtain ⟨done, all⟩ := h' _ depth next
  rw [run_append]
  refine ⟨done, all.trans ?_⟩
  rw [lines, blanks, written, List.map_append, List.append_nil, List.append_assoc]

theorem line (h : Lays first ls) (h' : Lays second others) :
    Lays (first ++ .line :: second) (ls ++ [""] ++ others) := by
  intro p depth due
  obtain ⟨settled, written⟩ := h p depth due
  obtain ⟨next, lines, blanks⟩ := settled.line
  obtain ⟨done, all⟩ := h' _ depth next
  rw [run_append]
  refine ⟨done, all.trans ?_⟩
  have blank : [moved depth ""] = [""] := rfl
  rw [lines, blanks, written, List.map_append, List.map_append, List.map_singleton, blank]
  simp only [List.append_assoc]

/-- A line for each text. -/
theorem each {α : Type} {spell : α → String} (filled : ∀ a, spell a ≠ "") {items : List α}
    (some : items ≠ []) :
    Lays (joined .push (items.map fun a => [.text (spell a)])) (items.map spell) := by
  induction items with
  | nil => exact absurd rfl some
  | cons a rest ih =>
    cases rest with
    | nil => exact text (filled a)
    | cons b rest => exact push (text (filled a)) (ih (List.cons_ne_nil _ _))

/-- Blocks with blank lines between them. -/
theorem separated {α : Type} {steps : α → List Step} {lines : α → List String}
    (each : ∀ a, Lays (steps a) (lines a)) {items : List α} (some : items ≠ []) :
    Lays (joined .line (items.map steps)) (separated (items.map lines)) := by
  induction items with
  | nil => exact absurd rfl some
  | cons a rest ih =>
    cases rest with
    | nil => exact each a
    | cons b rest => exact line (each a) (ih (List.cons_ne_nil _ _))

/-- What is laid out on a page of its own. -/
theorem layout (h : Lays first ls) : layout first = ls := by
  have due : Due {} 0 := ⟨rfl, .inl rfl⟩
  refine ((h {} 0 due).2).trans ?_
  have same : moved 0 = id := funext moved_zero
  rw [same, List.map_id]
  rfl

end Lays

/-- Where a line is due without a blank one before it, the steps give these lines, if any. -/
def Fills (steps : List Step) (ls : List String) : Prop :=
  ∀ (p : Page) (depth : Nat), p.Due depth → p.here.isSome → p.space ≠ .line →
    (p.run steps).here.isSome ∧ (p.run steps).space ≠ .line ∧
      (p.run steps).lines = p.lines ++ ls.map (moved depth) ∧
        if ls = [] then (p.run steps).depth = p.depth ∧ (p.run steps).change = p.change
        else (p.run steps).depth = depth ∧ (p.run steps).change = 0

namespace Fills

variable {first second : List Step} {ls others : List String}

theorem nil : Fills [] [] := fun p _ _ begun space =>
  ⟨begun, space, (List.append_nil p.lines).symm, rfl, rfl⟩

theorem of_lays (h : Lays first ls) (some : ls ≠ []) : Fills first ls := by
  intro p depth due begun space
  obtain ⟨settled, written⟩ := h p depth due
  have blanks : p.blanks = [] := if_neg fun h => space h.2
  rw [blanks, List.append_nil] at written
  refine ⟨settled.begun, ?_, written, ?_⟩
  · rw [settled.space]
    decide
  · rw [if_neg some]
    exact ⟨settled.depth, settled.change⟩

/-- A line for each text, if there is any. -/
theorem each {α : Type} {spell : α → String} (filled : ∀ a, spell a ≠ "") (items : List α) :
    Fills (joined .push (items.map fun a => [.text (spell a)])) (items.map spell) := by
  cases items with
  | nil => exact nil
  | cons a rest => exact of_lays (.each filled (List.cons_ne_nil _ _)) (List.cons_ne_nil _ _)

/-- After some lines or none, a line is due wherever it was. -/
theorem push (h : Fills first ls) (h' : Fills second others) :
    Fills (first ++ .push :: second) (ls ++ others) := by
  intro p depth due begun space
  obtain ⟨begun, space, written, place⟩ := h p depth due begun space
  rw [run_append]
  generalize p.run first = q at *
  have step : q.step .push = { q with space := .push } := if_neg space
  have place' : (q.depth : Int) + q.change = depth := by
    split at place
    · rw [place.1, place.2, due.depth]
    · rw [place.1, place.2, Int.add_zero]
  have next : (q.step .push).Due depth := by
    rw [step]
    exact ⟨place', .inr (.inr Space.noConfusion)⟩
  have lines : (q.step .push).lines = q.lines := by
    rw [step]
    rfl
  obtain ⟨begun', space', written', last⟩ := h' _ depth next (by rwa [step])
    (by rw [step]; exact Space.noConfusion)
  refine ⟨begun', space', ?_, ?_⟩
  · refine written'.trans ?_
    rw [lines, written, List.map_append, List.append_assoc]
  · show if ls ++ others = [] then ((q.step .push).run second).depth = p.depth ∧
      ((q.step .push).run second).change = p.change
      else ((q.step .push).run second).depth = depth ∧ ((q.step .push).run second).change = 0
    rw [step] at last ⊢
    by_cases none : others = []
    · rw [if_pos none] at last
      rw [none, List.append_nil, last.1, last.2]
      exact place
    · rw [if_neg none] at last
      rwa [if_neg (List.append_ne_nil_of_right_ne_nil ls none)]

end Fills

/-! ## Templates -/

namespace Page

variable {p : Page} {depth : Nat}

theorem Due.begin_eq (due : p.Due depth) (s : String) :
    p.begin s = { above := p.lines ++ p.blanks, here := some (padded depth s), depth } := by
  have place : (p.depth + p.change).toNat = depth := by
    rw [due.depth]
    rfl
  rw [Page.begin, place]

/-- Lines are moved back after there were some. -/
theorem due_shift_back (place : p.depth = depth + 1 ∧ p.change = 0) :
    (p.step (.shift (-1))).Due depth ∧ (p.step (.shift (-1))).lines = p.lines ∧
      (p.step (.shift (-1))).blanks = [] := by
  have changes : (p.step (.shift (-1))).change = -1 := by
    show p.change + -1 = -1
    rw [place.2]
    rfl
  refine ⟨⟨?_, .inr (.inl (by rw [changes]; decide))⟩, rfl, if_neg fun h => nomatch h.2⟩
  rw [changes]
  show (p.depth : Int) + -1 = depth
  rw [place.1]
  omega

/-- A text goes on with the last line when lines are moved back at once. -/
theorem write_shift_back {above : List String} {line s : String} (begun : p.here.isSome)
    (lines : p.lines = above ++ [line]) (change : p.change = 1) (filled : s ≠ "") :
    p.run [.shift (-1), .text s] = { p with above, here := some (line ++ s), space := .none, change := 0 }
    := by
  obtain ⟨last, here⟩ := Option.isSome_iff_exists.1 begun
  have parts : p.above ++ [last] = above ++ [line] := by
    rw [← lines, Page.lines, here]
    rfl
  obtain ⟨rfl, same⟩ := List.append_inj' parts rfl
  obtain rfl : last = line := List.singleton_inj.1 same
  have still : p.change + -1 = 0 := by omega
  show (p.step (.shift (-1))).step (.text s) = _
  rw [Page.step, if_neg filled]
  show write { p with space := .none, change := p.change + -1 } s = _
  rw [write, here, still]
  rfl

end Page

/-- A namespace with nothing in it is a single line, since it is moved to the right and back again at
once. -/
theorem Lays.scope {body : List Step} {ls : List String} (h : Fills body ls) (name : String) :
    Lays (scopeSteps name body) (scope name ls) := by
  intro p depth due
  have filled (ending : String) (marked : ending ≠ "") : "namespace " ++ name ++ ending ≠ "" :=
    fun none => marked (String.append_eq_empty_iff.1 none).2
  let head := "namespace " ++ name ++ " \x7b"
  have headed : head ≠ "" := filled " \x7b" (by decide)
  let opened : Page :=
    { above := p.lines ++ p.blanks, here := some (padded depth head), depth, change := 1 }
  have run : p.run (scopeSteps name body) = (opened.run body).run [.shift (-1), .text "\x7d"] := by
    have opens : p.run [.text head, .shift 1] = opened := by
      show (p.step (.text head)).step (.shift 1) = _
      rw [due.begin headed, due.begin_eq]
      rfl
    rw [scopeSteps, run_append, run_append, opens]
  have inside : opened.Due (depth + 1) := ⟨rfl, .inr (.inl (fun none => nomatch none))⟩
  obtain ⟨begun, _, written, place⟩ := h opened (depth + 1) inside rfl Space.noConfusion
  have first : opened.lines = p.lines ++ p.blanks ++ [padded depth head] := rfl
  rw [run]
  generalize opened.run body = q at *
  by_cases none : ls = []
  · rw [if_pos none] at place
    rw [none, List.map_nil, List.append_nil, first] at written
    have together := write_shift_back begun written place.2 (show "\x7d" ≠ "" by decide)
    have line : padded depth head ++ "\x7d" =
        moved depth ("namespace " ++ name ++ " \x7b\x7d") := by
      rw [moved_of_ne (filled _ (by decide)), padded, padded, String.append_assoc]
      congr 1
      exact String.append_assoc
    rw [together, none, line]
    exact ⟨⟨rfl, place.1, rfl, rfl⟩, rfl⟩
  · rw [if_neg none] at place
    obtain ⟨back, lines, blanks⟩ := due_shift_back place
    obtain ⟨settled, last⟩ := Lays.text (show "\x7d" ≠ "" by decide) _ depth back
    refine ⟨settled, last.trans ?_⟩
    have inner : (ls.map indent).map (moved depth) = ls.map (moved (depth + 1)) := by
      rw [List.map_map]
      exact List.map_congr_left fun line _ => moved_indent depth line
    rw [lines, blanks, written, first, scope_of_filled none, List.map_append, List.map_append, inner,
      ← moved_of_ne headed]
    simp only [List.append_assoc, List.append_nil, List.map_singleton]
    rfl

theorem declaration_ne_empty (v : Variable) : declaration v ≠ "" := by
  unfold declaration
  split <;> exact fun none => absurd (String.append_eq_empty_iff.1 none).2 (by decide)

theorem prototype_ne_empty (f : Function) : prototype f ≠ "" :=
  fun none => absurd (String.append_eq_empty_iff.1 none).2 (by decide)

/-- The lines of an algorithm, as the template gives them. -/
theorem lays_algorithmSteps (a : Algorithm) : Lays (algorithmSteps a) (algorithmLines a) := by
  have data : Fills (blockSteps a.data) (blockLines a.data) := .each declaration_ne_empty _
  have functions (fs : NamedList Function) : Fills (functionSteps fs) (fs.toList.map prototype) :=
    .each prototype_ne_empty _
  rw [algorithmLines, List.append_assoc]
  exact .scope (data.push ((functions a.callbacks).push (functions a.functions))) a.name

theorem renderAlgorithm_eq_text (a : Algorithm) : renderAlgorithm a = text (algorithmLines a) :=
  congrArg text (lays_algorithmSteps a).layout

/-- The lines of an interface, as the template gives them. -/
theorem lays_interfaceSteps (i : Interface) : Lays (interfaceSteps i) (interfaceLines i) := by
  have inside : Fills (joined .line (i.algorithms.toList.map algorithmSteps))
      (separated (i.algorithms.toList.map algorithmLines)) := by
    cases i.algorithms.toList with
    | nil => exact .nil
    | cons a rest =>
      exact .of_lays (.separated lays_algorithmSteps (List.cons_ne_nil _ _))
        fun none => List.cons_ne_nil _ _ (separated_eq_nil_iff.1 none)
  have pragma : Lays [.text "#pragma once"] ["#pragma once"] := .text (by decide)
  exact pragma.line (.scope inside i.name)

theorem renderInterface_eq_text (i : Interface) : renderInterface i = text (interfaceLines i) :=
  congrArg text (lays_interfaceSteps i).layout

theorem renderBlock_eq_text (b : Block) : renderBlock b = text (blockLines b) := by
  refine congrArg text ?_
  rw [blockSteps, blockLines]
  cases b.toList with
  | nil => rfl
  | cons v rest => exact (Lays.each declaration_ne_empty (List.cons_ne_nil v rest)).layout

theorem renderFunction_eq_text (f : Function) : renderFunction f = text [prototype f] :=
  congrArg text (Lays.text (prototype_ne_empty f)).layout

end AlgorithmDriver.Cpp

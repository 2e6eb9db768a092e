import AlgorithmDriver.Proofs.Cpp.Grammar

/-!
# Texts made of texts

The text of an interface is made of the texts of its algorithms, and that of an algorithm of the texts
of its members.

* `Cpp.lines` and `Cpp.indented` read a text again: its lines, and the text with blanks before each.
* `Cpp.IsLine` — what can stand in a text as a line that is not blank.
* `Cpp.rendering_composes` — how the whole texts are put together, and which of their lines are blank.
-/

namespace AlgorithmDriver.Cpp

/-! ## Lines of a text -/

/-- The lines of characters, without their ends.  What follows the last end counts as a line if there
is anything. -/
def splitLines : List Char → List (List Char)
  | [] => []
  | c :: cs =>
    if c = '\n' then [] :: splitLines cs
    else
      match splitLines cs with
      | [] => [[c]]
      | line :: rest => (c :: line) :: rest

/-- The lines of a text. -/
def lines (text : String) : List String := (splitLines text.toList).map String.ofList

/-- A line with its end. -/
def ended (line : String) : String := line ++ "\n"

/-- A text with four blanks before each line. -/
def indented (text : String) : String :=
  String.join ((lines text).map fun line => ended ("    " ++ line))

/-- The text ends with exactly one end of a line. -/
def EndsOnce (text : String) : Prop :=
  ∃ body, text = body ++ "\n" ∧ body ≠ "" ∧ body.toList.getLast? ≠ some '\n'

/-- There is no end of a line in the text. -/
def Inline (text : String) : Prop := '\n' ∉ text.toList

instance (text : String) : Decidable (Inline text) := inferInstanceAs (Decidable ('\n' ∉ text.toList))

theorem splitLines_append {line : List Char} (inline : '\n' ∉ line) (rest : List Char) :
    splitLines (line ++ '\n' :: rest) = line :: splitLines rest := by
  induction line with
  | nil => rfl
  | cons c cs ih =>
    have other : c ≠ '\n' := fun same => inline (same ▸ List.mem_cons_self)
    have later : '\n' ∉ cs := fun here => inline (List.mem_cons_of_mem _ here)
    rw [List.cons_append, splitLines, if_neg other, ih later]

/-- A text of lines has these lines. -/
theorem lines_join {ls : List String} (inline : ∀ line ∈ ls, Inline line) :
    lines (String.join (ls.map ended)) = ls := by
  induction ls with
  | nil => rfl
  | cons line ls ih =>
    obtain ⟨first, others⟩ := List.forall_mem_cons.1 inline
    have split : (String.join ((line :: ls).map ended)).toList =
        line.toList ++ '\n' :: (String.join (ls.map ended)).toList := by
      simp [ended]
    rw [lines, split, splitLines_append first, List.map_cons, String.ofList_toList]
    exact congrArg (line :: ·) (ih others)

theorem text_eq_join {ls : List String} (filled : ls ≠ []) :
    text ls = String.join (ls.map ended) := by
  apply String.toList_inj.1
  rw [toList_text filled, String.toList_join, List.flatMap_map]
  simp [ended]

theorem lines_text {ls : List String} (filled : ls ≠ []) (inline : ∀ line ∈ ls, Inline line) :
    lines (text ls) = ls := by
  rw [text_eq_join filled, lines_join inline]

theorem indented_text {ls : List String} (filled : ls ≠ []) (inline : ∀ line ∈ ls, Inline line) :
    indented (text ls) = String.join (ls.map fun line => ended ("    " ++ line)) := by
  rw [indented, lines_text filled inline]

/-! ## What stands on a line -/

namespace Inline

theorem append {a b : String} (first : Inline a) (second : Inline b) : Inline (a ++ b) := by
  rw [Inline, String.toList_append, List.mem_append]
  exact fun here => here.elim first second

theorem join {parts : List String} (all : ∀ part ∈ parts, Inline part) :
    Inline (String.join parts) := by
  rw [Inline, String.toList_join, List.mem_flatMap]
  rintro ⟨part, here, end_⟩
  exact all part here end_

theorem intercalate {separator : String} {parts : List String} (between : Inline separator)
    (all : ∀ part ∈ parts, Inline part) : Inline (separator.intercalate parts) := by
  induction parts with
  | nil => simp [Inline]
  | cons part parts ih =>
    obtain ⟨first, others⟩ := List.forall_mem_cons.1 all
    cases parts with
    | nil => simpa using first
    | cons next parts =>
      rw [String.intercalate_cons_cons]
      exact (first.append between).append (ih others)

theorem of_isIdentifier {name : String} (h : isIdentifier name = true) : Inline name := by
  have word := isWord_of_isIdentifier h
  intro here
  cases chars : name.toList with
  | nil =>
    rw [chars] at here
    cases here
  | cons c cs =>
    rw [chars] at here word
    obtain ⟨start, parts⟩ := Bool.and_eq_true_iff.1 word
    rcases List.mem_cons.1 here with rfl | later
    · revert start
      decide
    · exact absurd (List.all_eq_true.1 parts _ later) (by decide)

theorem number (n : Nat) : Inline (Decimal.text n) := by
  rw [Inline, Decimal.text, String.toList_ofList]
  intro here
  exact absurd (Decimal.isDigit_of_mem_digits n _ here) (by decide)

theorem pointerType (v : Variable) : Inline (pointerType v) := by
  rw [Inline, toList_pointerType, List.mem_append, List.mem_replicate]
  rintro (here | ⟨-, star⟩)
  · revert here
    decide
  · revert star
    decide

theorem parameter {v : Variable} (named : isIdentifier v.name = true) : Inline (parameter v) := by
  rw [Cpp.parameter, if_neg (ne_empty_of_isIdentifier named)]
  exact ((Inline.pointerType v).append (by decide)).append (of_isIdentifier named)

theorem bracketed (size : UInt64) : Inline (bracketed size) :=
  (append (by decide) (number _)).append (by decide)

end Inline

/-- A text that can stand on a line, which is not blank then. -/
structure IsLine (line : String) : Prop where
  inline : Inline line
  filled : line ≠ ""

namespace IsLine

/-- A line that ends with a mark. -/
theorem closed {before mark : String} (inline : Inline before) (marked : IsLine mark) :
    IsLine (before ++ mark) :=
  ⟨inline.append marked.inline, fun blank => marked.filled (String.append_eq_empty_iff.1 blank).2⟩

theorem declaration {v : Variable} (named : isIdentifier v.name = true) :
    IsLine (declaration v) := by
  have base : Inline (baseType v.baseType) := by
    cases v.baseType
    decide
  have name := Inline.of_isIdentifier named
  have blank : Inline " " := by decide
  unfold Cpp.declaration
  split
  · refine closed (((base.append blank).append name).append (Inline.join ?_)) ⟨by decide, by decide⟩
    intro part here
    obtain ⟨size, -, rfl⟩ := List.mem_map.1 here
    exact Inline.bracketed size
  · exact closed (((Inline.pointerType v).append blank).append name) ⟨by decide, by decide⟩

theorem prototype {f : Function} (named : isIdentifier f.name = true)
    (parameters : ∀ v ∈ f.parameters.toList, isIdentifier v.name = true) :
    IsLine (prototype f) := by
  have result : Inline (resultType f.result) := by
    cases f.result with
    | none => decide
    | some type =>
      cases type
      decide
  have listed : Inline (", ".intercalate (f.parameters.toList.map parameter)) := by
    refine Inline.intercalate (by decide) fun part here => ?_
    obtain ⟨v, among, rfl⟩ := List.mem_map.1 here
    exact Inline.parameter (parameters v among)
  have blank : Inline " " := by decide
  have opening : Inline "(" := by decide
  exact closed ((((result.append blank).append (Inline.of_isIdentifier named)).append opening).append
    listed) ⟨by decide, by decide⟩

theorem header {name ending : String} (named : isIdentifier name = true) (marked : IsLine ending) :
    IsLine ("namespace " ++ name ++ ending) :=
  closed ((by decide : Inline "namespace ").append (Inline.of_isIdentifier named)) marked

theorem indent {line : String} (h : IsLine line) : IsLine (indent line) := by
  rw [Cpp.indent, if_neg h.filled]
  exact closed (by decide) h

end IsLine

/-! ## Lines of a namespace -/

/-- The members of an algorithm, a line for each. -/
def memberLines (a : Algorithm) : List String :=
  blockLines a.data ++ a.callbacks.toList.map prototype ++ a.functions.toList.map prototype

theorem isLine_of_mem_memberLines {a : Algorithm} (valid : a.Valid) :
    ∀ line ∈ memberLines a, IsLine line := by
  have functions {l : NamedList Function} (valid : l.DeeplyValid Function.Valid) :
      ∀ line ∈ l.toList.map prototype, IsLine line := by
    intro line here
    obtain ⟨f, among, rfl⟩ := List.mem_map.1 here
    exact .prototype (valid.valid.isIdentifier_name among) fun v parameter =>
      NamedList.Valid.isIdentifier_name (valid.inside f among) parameter
  intro line here
  rcases List.mem_append.1 here with here | function
  · rcases List.mem_append.1 here with data | callback
    · obtain ⟨v, among, rfl⟩ := List.mem_map.1 data
      exact .declaration (valid.data.isIdentifier_name among)
    · exact functions valid.callbacks line callback
  · exact functions valid.functions line function

theorem isLine_of_mem_algorithmLines {a : Algorithm} (named : isIdentifier a.name = true)
    (valid : a.Valid) : ∀ line ∈ algorithmLines a, IsLine line := by
  have members := isLine_of_mem_memberLines valid
  show ∀ line ∈ scope a.name (memberLines a), IsLine line
  intro line here
  by_cases filled : memberLines a = []
  · rw [filled, scope_nil, List.mem_singleton] at here
    subst here
    exact .header named ⟨by decide, by decide⟩
  · rw [scope_of_filled filled] at here
    rcases List.mem_append.1 here with here | last
    · rcases List.mem_append.1 here with first | inner
      · rw [List.mem_singleton.1 first]
        exact .header named ⟨by decide, by decide⟩
      · obtain ⟨member, among, rfl⟩ := List.mem_map.1 inner
        exact (members member among).indent
    · rw [List.mem_singleton.1 last]
      exact ⟨by decide, by decide⟩

/-- Lines that are not blank, with their ends and blanks before them. -/
theorem map_indent {ls : List String} (h : ∀ line ∈ ls, IsLine line) :
    (ls.map indent).map ended = ls.map fun line => ended ("    " ++ line) := by
  rw [List.map_map]
  refine List.map_congr_left fun line here => ?_
  rw [Function.comp_apply, indent, if_neg (h line here).filled]

/-- Blocks with blank lines between them, as a text. -/
theorem join_separated (blocks : List (List String)) :
    String.join (((separated blocks).map indent).map ended) =
      "\n".intercalate (blocks.map fun block => String.join ((block.map indent).map ended)) := by
  induction blocks with
  | nil => rfl
  | cons block blocks ih =>
    cases blocks with
    | nil => rw [List.map_cons, List.map_nil, String.intercalate_singleton, separated]
    | cons next blocks =>
      simp only [separated_cons_cons, List.map_append, String.join_append, ih, List.map_cons,
        List.map_nil, String.intercalate_cons_cons]
      rfl

/-- The lines of blocks and the blank lines between them. -/
theorem of_mem_separated {blocks : List (List String)} {line : String}
    (here : line ∈ separated blocks) : line = "" ∨ ∃ block ∈ blocks, line ∈ block := by
  induction blocks with
  | nil => cases here
  | cons block blocks ih =>
    cases blocks with
    | nil => exact .inr ⟨block, List.mem_cons_self, here⟩
    | cons next blocks =>
      rw [separated_cons_cons, List.mem_append, List.mem_append] at here
      rcases here with (first | blank) | later
      · exact .inr ⟨block, List.mem_cons_self, first⟩
      · exact .inl (List.mem_singleton.1 blank)
      · rcases ih later with blank | ⟨other, among, inside⟩
        · exact .inl blank
        · exact .inr ⟨other, List.mem_cons_of_mem _ among, inside⟩

theorem count_blank {ls : List String} (h : ∀ line ∈ ls, IsLine line) :
    (ls.map indent).count "" = 0 := by
  refine List.count_eq_zero.2 fun here => ?_
  obtain ⟨line, among, blank⟩ := List.mem_map.1 here
  exact (h line among).indent.filled blank

/-- There is one blank line less than there are blocks. -/
theorem count_separated {blocks : List (List String)}
    (h : ∀ block ∈ blocks, ∀ line ∈ block, IsLine line) :
    ((separated blocks).map indent).count "" = blocks.length - 1 := by
  induction blocks with
  | nil => rfl
  | cons block blocks ih =>
    obtain ⟨first, others⟩ := List.forall_mem_cons.1 h
    cases blocks with
    | nil => exact count_blank first
    | cons next blocks =>
      rw [separated_cons_cons, List.map_append, List.map_append, List.count_append,
        List.count_append, count_blank first, ih others]
      simp [indent, Nat.add_comm]

/-! ## Ends of texts -/

theorem endsOnce_text {ls : List String} {line : String} (h : IsLine line) :
    EndsOnce (text (ls ++ [line])) := by
  refine ⟨String.join (ls.map ended) ++ line, ?_, ?_, ?_⟩
  · rw [text_eq_join (by simp), List.map_append, String.join_append]
    simp [ended, String.append_assoc]
  · exact fun blank => h.filled (String.append_eq_empty_iff.1 blank).2
  · rw [String.toList_append, List.getLast?_append]
    cases last : line.toList.getLast? with
    | none =>
      have empty : line.toList = [] := List.getLast?_eq_none_iff.1 last
      exact absurd (String.toList_inj.1 (empty.trans rfl)) h.filled
    | some c =>
      intro newline
      exact h.inline (Option.some.inj newline ▸ List.mem_of_getLast? last)

/-- A namespace ends with a line that is not blank. -/
theorem scope_ends {name : String} (named : isIdentifier name = true) (body : List String) :
    ∃ ls line, scope name body = ls ++ [line] ∧ IsLine line := by
  by_cases filled : body = []
  · rw [filled]
    exact ⟨[], _, rfl, .header named ⟨by decide, by decide⟩⟩
  · exact ⟨_, _, scope_of_filled filled, by decide, by decide⟩

/-! ## Whole texts -/

/-- The texts of functions alone, each of which is one line, and with blanks before them. -/
theorem join_indented_functions {fs : List Function} (h : ∀ f ∈ fs, IsLine (prototype f)) :
    String.join (fs.map fun f => indented (renderFunction f)) =
      String.join ((fs.map prototype).map fun line => ended ("    " ++ line)) := by
  rw [List.map_map]
  refine congrArg String.join (List.map_congr_left fun f here => ?_)
  have inline : ∀ line ∈ [prototype f], Inline line := by
    intro line single
    rw [List.mem_singleton.1 single]
    exact (h f here).inline
  rw [renderFunction_eq_text, indented_text (List.cons_ne_nil _ _) inline, List.map_cons,
    List.map_nil, String.join_cons, String.join_nil, String.append_empty]
  rfl

/-- The text of the data with blanks before it.  Without data there is none, although the text of an
empty block is a blank line. -/
def indentedData (b : Block) : String := if b.isEmpty then "" else indented (renderBlock b)

theorem join_indentedData {b : Block} (h : ∀ line ∈ blockLines b, IsLine line) :
    indentedData b = String.join ((blockLines b).map fun line => ended ("    " ++ line)) := by
  unfold indentedData
  split
  · rename_i empty
    have entries := List.isEmpty_iff.1 empty
    rw [blockLines, NamedList.toList, entries]
    rfl
  · rename_i filled
    rw [renderBlock_eq_text]
    refine indented_text (fun none => filled ?_) fun line here => (h line here).inline
    rw [blockLines, NamedList.toList, List.map_map, List.map_eq_nil_iff] at none
    exact List.isEmpty_iff.2 none

theorem memberLines_eq_nil_iff (a : Algorithm) : memberLines a = [] ↔ a.members = [] := by
  simp [memberLines, blockLines, Algorithm.members, NamedList.toList, NamedList.names]

/-- The text of an algorithm is that of its data, then those of its callbacks and functions. -/
theorem renderAlgorithm_eq {a : Algorithm} (valid : a.Valid) (filled : a.members ≠ []) :
    renderAlgorithm a =
      "namespace " ++ a.name ++ " \x7b\n" ++ indentedData a.data ++
        String.join ((a.callbacks.toList ++ a.functions.toList).map fun f =>
          indented (renderFunction f)) ++ "\x7d\n" := by
  have members := isLine_of_mem_memberLines valid
  have lines : memberLines a ≠ [] := (memberLines_eq_nil_iff a).not.2 filled
  have data : ∀ line ∈ blockLines a.data, IsLine line := fun line here =>
    members line (List.mem_append_left _ (List.mem_append_left _ here))
  have functions : ∀ f ∈ a.callbacks.toList ++ a.functions.toList, IsLine (prototype f) := by
    intro f here
    refine members _ ?_
    rw [memberLines, List.append_assoc, ← List.map_append]
    exact List.mem_append_right _ (List.mem_map_of_mem here)
  have whole : algorithmLines a =
      ["namespace " ++ a.name ++ " \x7b"] ++ (memberLines a).map indent ++ ["\x7d"] :=
    scope_of_filled lines
  rw [renderAlgorithm_eq_text, text_eq_join (algorithmLines_ne_nil a), whole,
    List.map_append, List.map_append, String.join_append, String.join_append, map_indent members, memberLines,
    List.append_assoc (blockLines a.data), ← List.map_append, List.map_append, String.join_append,
    join_indentedData data, join_indented_functions functions]
  simp [ended, String.append_assoc]

theorem interfaceLines_inline {i : Interface} (named : isIdentifier i.name = true) (valid : i.Valid) :
    ∀ line ∈ interfaceLines i, Inline line := by
  have blocks : ∀ line ∈ separated (i.algorithms.toList.map algorithmLines), Inline (indent line) := by
    intro line here
    rcases of_mem_separated here with rfl | ⟨block, among, inside⟩
    · decide
    · obtain ⟨a, member, rfl⟩ := List.mem_map.1 among
      exact (isLine_of_mem_algorithmLines (valid.valid.isIdentifier_name member)
        (valid.inside a member) line inside).indent.inline
  have header (ending : String) (marked : IsLine ending) :
      Inline ("namespace " ++ i.name ++ ending) := (IsLine.header named marked).inline
  intro line here
  rcases List.mem_append.1 here with first | body
  · have pragma : ∀ line ∈ ["#pragma once", ""], Inline line := by decide
    exact pragma line first
  · by_cases filled : separated (i.algorithms.toList.map algorithmLines) = []
    · rw [filled, scope_nil, List.mem_singleton] at body
      rw [body]
      exact header _ ⟨by decide, by decide⟩
    · rw [scope_of_filled filled, List.mem_append, List.mem_append] at body
      rcases body with (first | inner) | last
      · rw [List.mem_singleton.1 first]
        exact header _ ⟨by decide, by decide⟩
      · obtain ⟨member, among, rfl⟩ := List.mem_map.1 inner
        exact blocks member among
      · rw [List.mem_singleton.1 last]
        decide

/-- The text of an interface is that of its algorithms, with blank lines between them. -/
theorem renderInterface_eq {i : Interface} (valid : i.Valid) (filled : i.algorithms.toList ≠ []) :
    renderInterface i =
      "#pragma once\n\nnamespace " ++ i.name ++ " \x7b\n" ++
        "\n".intercalate (i.algorithms.toList.map fun a => indented (renderAlgorithm a)) ++
          "\x7d\n" := by
  have blocks : (i.algorithms.toList.map algorithmLines).map
      (fun block => String.join ((block.map indent).map ended)) =
        i.algorithms.toList.map fun a => indented (renderAlgorithm a) := by
    rw [List.map_map]
    refine List.map_congr_left fun a here => ?_
    have lines := isLine_of_mem_algorithmLines (valid.valid.isIdentifier_name here)
      (valid.inside a here)
    rw [Function.comp_apply, map_indent lines, renderAlgorithm_eq_text,
      indented_text (algorithmLines_ne_nil a) fun line inside => (lines line inside).inline]
  have whole : interfaceLines i = ["#pragma once", ""] ++ (["namespace " ++ i.name ++ " \x7b"] ++
      (separated (i.algorithms.toList.map algorithmLines)).map indent ++ ["\x7d"]) := by
    rw [interfaceLines, scope_of_filled (separated_eq_nil_iff.not.2 filled)]
  rw [renderInterface_eq_text, text_eq_join (by rw [whole]; simp), whole, List.map_append,
    List.map_append, List.map_append, String.join_append, String.join_append, String.join_append, join_separated,
    blocks]
  apply String.toList_inj.1
  simp [ended]

theorem count_interfaceLines {i : Interface} (named : isIdentifier i.name = true) (valid : i.Valid) :
    (interfaceLines i).count "" = 1 + (i.algorithms.toList.length - 1) := by
  have blocks : ∀ block ∈ i.algorithms.toList.map algorithmLines, ∀ line ∈ block, IsLine line := by
    intro block here
    obtain ⟨a, member, rfl⟩ := List.mem_map.1 here
    exact isLine_of_mem_algorithmLines (valid.valid.isIdentifier_name member) (valid.inside a member)
  have header (ending : String) (marked : IsLine ending) :
      ["namespace " ++ i.name ++ ending].count "" = 0 :=
    List.count_eq_zero.2 fun here =>
      (IsLine.header named marked).filled (List.mem_singleton.1 here).symm
  rw [interfaceLines, List.count_append]
  by_cases filled : i.algorithms.toList = []
  · rw [filled, List.map_nil, separated, scope_nil, header _ ⟨by decide, by decide⟩]
    rfl
  · rw [scope_of_filled (separated_eq_nil_iff.not.2 filled), List.count_append, List.count_append,
      header _ ⟨by decide, by decide⟩, count_separated blocks, List.length_map]
    simp

/-- Rendering is compositional.  The text of an algorithm with members is a namespace around the text of
its data, which is left out when there is none, and those of its callbacks and functions, each of which
is one line.  The text of an interface with algorithms is a namespace around their texts, with a blank
line between them.  What stands inside has four blanks before each line.  A namespace with nothing in it
is a single line.  All these texts end with one end of a line, and no lines are blank but those between
algorithms and the one that follows the pragma. -/
theorem rendering_composes :
    (∀ a : Algorithm, isIdentifier a.name = true → a.Valid →
      (a.members = [] → renderAlgorithm a = "namespace " ++ a.name ++ " \x7b\x7d\n") ∧
      (a.members ≠ [] → renderAlgorithm a =
        "namespace " ++ a.name ++ " \x7b\n" ++
          (if a.data.isEmpty then "" else indented (renderBlock a.data)) ++
          String.join ((a.callbacks.toList ++ a.functions.toList).map fun f =>
            indented (renderFunction f)) ++ "\x7d\n") ∧
      (∀ f ∈ a.callbacks.toList ++ a.functions.toList, lines (renderFunction f) = [prototype f]) ∧
      EndsOnce (renderAlgorithm a) ∧ "" ∉ lines (renderAlgorithm a)) ∧
    (∀ i : Interface, isIdentifier i.name = true → i.Valid →
      (i.algorithms.toList = [] →
        renderInterface i = "#pragma once\n\nnamespace " ++ i.name ++ " \x7b\x7d\n") ∧
      (i.algorithms.toList ≠ [] → renderInterface i =
        "#pragma once\n\nnamespace " ++ i.name ++ " \x7b\n" ++
          "\n".intercalate (i.algorithms.toList.map fun a => indented (renderAlgorithm a)) ++
          "\x7d\n") ∧
      EndsOnce (renderInterface i) ∧
      (lines (renderInterface i)).count "" = 1 + (i.algorithms.toList.length - 1)) := by
  refine ⟨fun a named valid => ⟨fun none => ?_, renderAlgorithm_eq valid, fun f here => ?_, ?_, ?_⟩,
    fun i named valid => ⟨fun none => ?_, renderInterface_eq valid, ?_, ?_⟩⟩
  · have whole : algorithmLines a = scope a.name (memberLines a) := rfl
    rw [renderAlgorithm_eq_text, whole, (memberLines_eq_nil_iff a).2 none, scope_nil,
      text_eq_join (by simp)]
    simp [ended, String.append_assoc]
  · have line : IsLine (prototype f) := by
      refine isLine_of_mem_memberLines valid _ ?_
      rw [memberLines, List.append_assoc, ← List.map_append]
      exact List.mem_append_right _ (List.mem_map_of_mem here)
    rw [renderFunction_eq_text]
    refine lines_text (List.cons_ne_nil _ _) fun other single => ?_
    rw [List.mem_singleton.1 single]
    exact line.inline
  · obtain ⟨ls, line, whole, last⟩ := scope_ends named (memberLines a)
    rw [renderAlgorithm_eq_text, show algorithmLines a = ls ++ [line] from whole]
    exact endsOnce_text last
  · have all := isLine_of_mem_algorithmLines named valid
    rw [renderAlgorithm_eq_text,
      lines_text (algorithmLines_ne_nil a) fun line here => (all line here).inline]
    exact fun blank => (all "" blank).filled rfl
  · rw [renderInterface_eq_text, interfaceLines, none, List.map_nil, separated, scope_nil,
      text_eq_join (by simp)]
    apply String.toList_inj.1
    simp [ended]
  · obtain ⟨ls, line, whole, last⟩ :=
      scope_ends named (separated (i.algorithms.toList.map algorithmLines))
    rw [renderInterface_eq_text, interfaceLines, whole, ← List.append_assoc]
    exact endsOnce_text last
  · rw [renderInterface_eq_text,
      lines_text (by simp [interfaceLines]) (interfaceLines_inline named valid)]
    exact count_interfaceLines named valid

/-- A table, an algorithm on it and one without members. -/
def sorting : Interface where
  name := "sorting"
  algorithms := ⟨[
    ("sort", {
      name := "sort"
      data := ⟨[("items", { name := "items", baseType := .int, dimensions := [⟨.fixed 9⟩] })]⟩
      functions := ⟨[("run", { name := "run" })]⟩ }),
    ("none", { name := "none" })]⟩

theorem rendering_composes_sorting :
    renderInterface sorting =
      "#pragma once\n\nnamespace sorting \x7b\n    namespace sort \x7b\n        int items[9];\n" ++
        "        void run();\n    \x7d\n\n    namespace none \x7b\x7d\n\x7d\n" := by
  have items : NamedList.empty.insert
      ({ name := "items", baseType := .int, dimensions := [⟨.fixed 9⟩] } : Variable) =
      .ok ⟨[("items", { name := "items", baseType := .int, dimensions := [⟨.fixed 9⟩] })]⟩ := by
    decide +kernel
  have run : NamedList.empty.insert ({ name := "run" } : Function) =
      .ok ⟨[("run", { name := "run" })]⟩ := by decide +kernel
  have added : NamedList.ofList sorting.algorithms.toList = .ok sorting.algorithms := by
    decide +kernel
  have valid : sorting.Valid := by
    refine NamedList.deeplyValid_ofList (fun a here => ?_) added
    rcases List.mem_cons.1 here with rfl | here
    · exact ⟨NamedList.valid_empty.insert items, NamedList.deeplyValid_empty,
        NamedList.deeplyValid_empty.insert Function.valid_new run⟩
    · rw [List.mem_singleton.1 here]
      exact Algorithm.valid_new
  have named : isIdentifier sorting.name = true := by decide +kernel
  rw [((rendering_composes.2 sorting named valid).2.1 (by decide))]
  decide +kernel

end AlgorithmDriver.Cpp

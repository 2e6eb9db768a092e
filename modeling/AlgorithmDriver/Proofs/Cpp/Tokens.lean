import AlgorithmDriver.Model.Name
import AlgorithmDriver.Proofs.Cpp.Page
import AlgorithmDriver.Proofs.Number.Decimal
import Mathlib.Data.List.Forall2

/-!
# Tokens of C++ texts

Splitting a C++ text into tokens, each as long as possible: directives, which take the rest of their
line, words, numbers, and the marks that declarations need.  A text with any other character, such
as a quote or an operator, is not split at all.

A text *spells* tokens when it is split into them whatever text comes next.

* `lex_word`, `lex_number`, `lex_mark` — how a text that begins with a token is split.
* `Spells.append`, `spells_text` — texts and lines one after another.
-/

namespace AlgorithmDriver.Cpp

/-! ## Splitting -/

/-- A token. -/
inductive Token where
  /-- What follows the number sign, to the end of the line. -/
  | directive (text : String)
  | word (text : String)
  | number (text : String)
  | mark (c : Char)
  deriving DecidableEq, Repr

/-- A character between tokens. -/
def isSpace (c : Char) : Bool := c == ' ' || c == '\n' || c == '\t'

/-- A character that can continue a number.  This includes letters, so that a number and a word need
something between them. -/
def isNumberPart (c : Char) : Bool := isNamePart c || c == '.'

/-- The marks of declarations. -/
def isMark (c : Char) : Bool := ['\x7b', '\x7d', '(', ')', '[', ']', ';', ',', '*'].contains c

/-- A character that a directive goes on with. -/
def isInLine (c : Char) : Bool := c != '\n'

/-- What remains after leaving out characters is no longer than it was. -/
theorem length_dropWhile_lt (p : Char → Bool) (cs : List Char) :
    (cs.dropWhile p).length < cs.length + 1 :=
  Nat.lt_succ_of_le (List.dropWhile_sublist p).length_le

/-- The tokens of a text. -/
def lex (cs : List Char) : Option (List Token) :=
  match cs with
  | [] => some []
  | c :: rest =>
    if isSpace c then lex rest
    else if c = '#' then
      (lex (rest.dropWhile isInLine)).map
        (.directive (String.ofList (rest.takeWhile isInLine)) :: ·)
    else if isNameStart c then
      (lex (rest.dropWhile isNamePart)).map
        (.word (String.ofList (c :: rest.takeWhile isNamePart)) :: ·)
    else if Decimal.isDigit c then
      (lex (rest.dropWhile isNumberPart)).map
        (.number (String.ofList (c :: rest.takeWhile isNumberPart)) :: ·)
    else if isMark c then (lex rest).map (.mark c :: ·)
    else none
termination_by cs.length
decreasing_by
  · exact Nat.lt_succ_self _
  · exact length_dropWhile_lt isInLine rest
  · exact length_dropWhile_lt isNamePart rest
  · exact length_dropWhile_lt isNumberPart rest
  · exact Nat.lt_succ_self _

/-- What follows does not continue a word or a number. -/
def Apart (rest : List Char) : Prop := ∀ c cs, rest = c :: cs → isNumberPart c = false

theorem apart_cons {c : Char} {cs : List Char} (h : isNumberPart c = false) : Apart (c :: cs) := by
  rintro _ _ ⟨⟩
  exact h

@[simp] theorem lex_nil : lex [] = some [] := by rw [lex]

/-- Characters between tokens do not matter. -/
theorem lex_space {c : Char} (h : isSpace c = true) (rest : List Char) :
    lex (c :: rest) = lex rest := by
  rw [lex, if_pos h]

theorem lex_mark {c : Char} (h : isMark c = true) {rest : List Char} {ts : List Token}
    (hr : lex rest = some ts) : lex (c :: rest) = some (.mark c :: ts) := by
  have hm := h
  simp only [isMark, List.contains_eq_mem, List.mem_cons, List.not_mem_nil, or_false,
    decide_eq_true_eq] at hm
  rw [lex]
  rcases hm with rfl | rfl | rfl | rfl | rfl | rfl | rfl | rfl | rfl <;>
    rw [if_neg (by decide), if_neg (by decide), if_neg (by decide), if_neg (by decide), if_pos h,
      hr] <;> rfl

/-- Everything up to a character that does not belong to a token. -/
theorem takeWhile_append_apart {p : Char → Bool} {w rest : List Char} (hw : ∀ c ∈ w, p c = true)
    (hr : ∀ c cs, rest = c :: cs → p c = false) :
    (w ++ rest).takeWhile p = w ∧ (w ++ rest).dropWhile p = rest := by
  rw [List.takeWhile_append_of_pos hw, List.dropWhile_append_of_pos hw]
  cases rest with
  | nil => simp
  | cons c cs => simp [hr c cs rfl]

theorem isNamePart_of_apart {rest : List Char} (h : Apart rest) :
    ∀ c cs, rest = c :: cs → isNamePart c = false := by
  intro c cs he
  have hc := h c cs he
  rw [isNumberPart, Bool.or_eq_false_iff] at hc
  exact hc.1

theorem not_isSpace_of_isNameStart {c : Char} (h : isNameStart c = true) :
    isSpace c = false ∧ c ≠ '#' := by
  constructor
  · refine Bool.eq_false_iff.2 ?_
    intro hs
    simp only [isSpace, Bool.or_eq_true, beq_iff_eq] at hs
    rcases hs with (rfl | rfl) | rfl <;> exact absurd h (by decide)
  · rintro rfl
    exact absurd h (by decide)

theorem lex_word {w : String} (hw : isWord w.toList = true) {rest : List Char} (ha : Apart rest)
    {ts : List Token} (hr : lex rest = some ts) :
    lex (w.toList ++ rest) = some (.word w :: ts) := by
  cases hc : w.toList with
  | nil => rw [hc] at hw; exact absurd hw (by decide)
  | cons c cs =>
    rw [hc, isWord, Bool.and_eq_true, List.all_eq_true] at hw
    obtain ⟨hstart, hparts⟩ := hw
    obtain ⟨hs, hh⟩ := not_isSpace_of_isNameStart hstart
    obtain ⟨ht, hd⟩ := takeWhile_append_apart hparts (isNamePart_of_apart ha)
    rw [List.cons_append, lex, if_neg (by simp [hs]), if_neg hh, if_pos hstart, ht, hd, hr, ← hc,
      String.ofList_toList]
    rfl

theorem isNameStart_of_isDigit {c : Char} (h : Decimal.isDigit c = true) :
    isNameStart c = false ∧ isSpace c = false ∧ c ≠ '#' := by
  simp only [Decimal.isDigit, Bool.and_eq_true, decide_eq_true_eq] at h
  refine ⟨Bool.eq_false_iff.2 fun hs => ?_, Bool.eq_false_iff.2 fun hs => ?_, ?_⟩
  · have hle : c.val ≤ 57 := h.2
    simp only [isNameStart, Bool.or_eq_true, beq_iff_eq] at hs
    rcases hs with hs | rfl
    · have hcase : c.isUpper = true ∨ c.isLower = true := Bool.or_eq_true_iff.1 hs
      rcases hcase with hupper | hlower
      · have hge : 65 ≤ c.val := (of_decide_eq_true hupper).1
        exact absurd (UInt32.le_trans hge hle) (by decide)
      · have hge : 97 ≤ c.val := of_decide_eq_true (Bool.and_eq_true_iff.1 hlower).1
        exact absurd (UInt32.le_trans hge hle) (by decide)
    · exact absurd h.2 (by decide)
  · simp only [isSpace, Bool.or_eq_true, beq_iff_eq] at hs
    rcases hs with (rfl | rfl) | rfl <;> exact absurd h.1 (by decide)
  · rintro rfl
    exact absurd h.1 (by decide)

theorem isNumberPart_of_isDigit {c : Char} (h : Decimal.isDigit c = true) :
    isNumberPart c = true := by
  have hd : c.isDigit = true := h
  simp [isNumberPart, isNamePart, Char.isAlphanum, hd]

/-- The numeral of a number is one token. -/
theorem lex_number (n : Nat) {rest : List Char} (ha : Apart rest) {ts : List Token}
    (hr : lex rest = some ts) :
    lex ((Decimal.text n).toList ++ rest) = some (.number (Decimal.text n) :: ts) := by
  obtain ⟨c, cs, hc⟩ := List.exists_cons_of_ne_nil (Decimal.digits_ne_nil n)
  have hdigits : ∀ d ∈ c :: cs, Decimal.isDigit d = true :=
    hc ▸ Decimal.isDigit_of_mem_digits n
  obtain ⟨hn, hs, hh⟩ := isNameStart_of_isDigit (hdigits c List.mem_cons_self)
  obtain ⟨ht, hd⟩ := takeWhile_append_apart
    (fun d hm => isNumberPart_of_isDigit (hdigits d (List.mem_cons_of_mem c hm))) ha
  rw [Decimal.text, String.toList_ofList, hc, List.cons_append, lex, if_neg (by simp [hs]),
    if_neg hh, if_neg (by simp [hn]), if_pos (hdigits c List.mem_cons_self), ht, hd, hr]
  rfl

/-- A directive takes the rest of its line. -/
theorem lex_directive (text : String) (ht : ∀ c ∈ text.toList, isInLine c = true)
    {rest : List Char} {ts : List Token} (hr : lex rest = some ts) :
    lex ('#' :: (text.toList ++ '\n' :: rest)) = some (.directive text :: ts) := by
  have hstop : ∀ c cs, '\n' :: rest = c :: cs → isInLine c = false := by
    rintro _ _ ⟨⟩
    rfl
  obtain ⟨htake, hdrop⟩ := takeWhile_append_apart ht hstop
  rw [lex, if_neg (by decide), if_pos rfl, htake, hdrop, String.ofList_toList,
    lex_space (by decide), hr]
  rfl

/-! ## Texts and lines -/

/-- The text is split into the tokens, whatever text comes next. -/
def Spells (text : List Char) (ts : List Token) : Prop :=
  ∀ rest us, lex rest = some us → lex (text ++ rest) = some (ts ++ us)

theorem spells_nil : Spells [] [] := fun _ _ h => h

theorem Spells.append {text text' : List Char} {ts ts' : List Token} (h : Spells text ts)
    (h' : Spells text' ts') : Spells (text ++ text') (ts ++ ts') := by
  intro rest us hr
  rw [List.append_assoc, List.append_assoc]
  exact h _ _ (h' rest us hr)

theorem Spells.lex_eq {text : List Char} {ts : List Token} (h : Spells text ts) :
    lex text = some ts := by
  have hn := h [] [] lex_nil
  rwa [List.append_nil, List.append_nil] at hn

theorem spells_space {c : Char} (h : isSpace c = true) : Spells [c] [] := by
  intro rest us hr
  rw [List.singleton_append, lex_space h]
  exact hr

theorem spells_mark {c : Char} (h : isMark c = true) : Spells [c] [.mark c] :=
  fun _ _ hr => lex_mark h hr

/-- A word in front of a text that does not continue it. -/
theorem Spells.word {w : String} (hw : isWord w.toList = true) {text : List Char} {ts : List Token}
    (hb : ∃ c cs, text = c :: cs ∧ isNumberPart c = false) (h : Spells text ts) :
    Spells (w.toList ++ text) (.word w :: ts) := by
  obtain ⟨c, cs, rfl, hc⟩ := hb
  intro rest us hr
  rw [List.append_assoc]
  exact lex_word hw (apart_cons hc) (h rest us hr)

/-- A numeral in front of a text that does not continue it. -/
theorem Spells.number (n : Nat) {text : List Char} {ts : List Token}
    (hb : ∃ c cs, text = c :: cs ∧ isNumberPart c = false) (h : Spells text ts) :
    Spells ((Decimal.text n).toList ++ text) (.number (Decimal.text n) :: ts) := by
  obtain ⟨c, cs, rfl, hc⟩ := hb
  intro rest us hr
  rw [List.append_assoc]
  exact lex_number n (apart_cons hc) (h rest us hr)

theorem Spells.mark {c : Char} (hc : isMark c = true) {text : List Char} {ts : List Token}
    (h : Spells text ts) : Spells (c :: text) (.mark c :: ts) :=
  (spells_mark hc).append h

theorem Spells.space {c : Char} (hc : isSpace c = true) {text : List Char} {ts : List Token}
    (h : Spells text ts) : Spells (c :: text) ts :=
  (spells_space hc).append h

/-- Every line of a text spells tokens of its own. -/
def LinesSpell (lines : List String) (tss : List (List Token)) : Prop :=
  List.Forall₂ (fun line ts => Spells line.toList ts) lines tss

theorem LinesSpell.append {lines lines' : List String} {tss tss' : List (List Token)}
    (h : LinesSpell lines tss) (h' : LinesSpell lines' tss') :
    LinesSpell (lines ++ lines') (tss ++ tss') := by
  induction h with
  | nil => exact h'
  | cons hl _ ih => exact .cons hl ih

/-- Lines that are made of items, one of each. -/
theorem linesSpell_map {α : Type} {items : List α} {line : α → String} {tokens : α → List Token}
    (h : ∀ item ∈ items, Spells (line item).toList (tokens item)) :
    LinesSpell (items.map line) (items.map tokens) :=
  List.forall₂_map_left_iff.2 (List.forall₂_map_right_iff.2 (List.forall₂_same.2 h))

theorem spells_indent {line : String} {ts : List Token} (h : Spells line.toList ts) :
    Spells (indent line).toList ts := by
  unfold indent
  split
  · rename_i he
    rw [he] at h
    exact h
  · have hblank : Spells "    ".toList [] := by
      intro rest us hr
      have hs : isSpace ' ' = true := by decide
      show lex (' ' :: ' ' :: ' ' :: ' ' :: rest) = _
      rw [lex_space hs, lex_space hs, lex_space hs, lex_space hs]
      exact hr
    rw [String.toList_append]
    exact hblank.append h

theorem LinesSpell.indent {lines : List String} {tss : List (List Token)}
    (h : LinesSpell lines tss) : LinesSpell (lines.map indent) tss := by
  induction h with
  | nil => exact .nil
  | cons hl _ ih => exact .cons (spells_indent hl) ih

/-- Blocks with blank lines between them spell what the blocks spell. -/
theorem separated_spell {blocks : List (List String)} {tss : List (List Token)}
    (h : List.Forall₂ (fun lines ts => ∃ lss, LinesSpell lines lss ∧ lss.flatten = ts) blocks tss) :
    ∃ lss, LinesSpell (separated blocks) lss ∧ lss.flatten = tss.flatten := by
  induction h with
  | nil => exact ⟨[], .nil, rfl⟩
  | @cons block ts blocks tss hb hr ih =>
    obtain ⟨lss, hl, rfl⟩ := hb
    obtain ⟨rss, hrest, hflat⟩ := ih
    cases hr with
    | nil => exact ⟨lss, hl, by simp⟩
    | cons hnext htail =>
      have blank : LinesSpell [""] [[]] := .cons spells_nil .nil
      refine ⟨lss ++ [[]] ++ rss, (hl.append blank).append hrest, ?_⟩
      simp [hflat]

/-- A text is its lines, each with its end. -/
theorem toList_text {lines : List String} (h : lines ≠ []) :
    (text lines).toList = lines.flatMap fun line => line.toList ++ ['\n'] := by
  induction lines with
  | nil => exact absurd rfl h
  | cons line lines ih =>
    cases lines with
    | nil => simp [text]
    | cons next lines =>
      have hnext := ih (by simp)
      rw [text] at hnext ⊢
      rw [String.intercalate_cons_cons, List.flatMap_cons, ← hnext]
      simp

theorem spells_text {lines : List String} {tss : List (List Token)} (hne : lines ≠ [])
    (h : LinesSpell lines tss) : Spells (text lines).toList tss.flatten := by
  rw [toList_text hne]
  clear hne
  induction h with
  | nil => exact spells_nil
  | cons hl _ ih =>
    rw [List.flatMap_cons, List.flatten_cons]
    have hend := hl.append (spells_space (by decide : isSpace '\n' = true))
    rw [List.append_nil] at hend
    exact hend.append ih

end AlgorithmDriver.Cpp

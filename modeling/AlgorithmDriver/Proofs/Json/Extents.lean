import AlgorithmDriver.Proofs.Cpp.Page
import AlgorithmDriver.Proofs.Json.Collecting
import AlgorithmDriver.Proofs.Json.Format
import Mathlib.Data.List.Induction
import Mathlib.Data.Set.List

/-!
# Sizes from documents to declarations

The size of a dimension comes as digits and goes as digits.  In between it is an integer of 64 bits,
which does not show: what is declared has the digits that the document had, and a size that would
not fit is refused.

* `Draft` is a variable as a document spells it, with sizes of any length; `Draft.Text` are its
  texts, in all their forms.
* `Draft.text_draft_iff` — a text spells a draft whose sizes fit exactly when it is a text of the
  variable.
* `Draft.load_variable_iff`, `Draft.Spells.load_block_iff` — what is loaded is what is spelled.
* `Draft.Spells.load_block_refused` — a block is refused for the reason for which its variables are.
* `Draft.sizes_survive` is the result for whole documents.
-/

namespace AlgorithmDriver

open Json

/-! ## Digits -/

namespace Decimal

theorem digitChar_digitValue {c : Char} (h : isDigit c = true) : digitChar (digitValue c) = c := by
  have lower : 48 ≤ c.toNat := of_decide_eq_true (Bool.and_eq_true_iff.1 h).1
  rw [digitChar, digitValue, Nat.add_sub_cancel' lower, Char.ofNat_toNat]

theorem digitValue_lt {c : Char} (h : isDigit c = true) : digitValue c < 10 := by
  have upper : c.toNat ≤ 57 := of_decide_eq_true (Bool.and_eq_true_iff.1 h).2
  rw [digitValue]
  omega

/-- Digits without a leading zero are those of the number that they stand for. -/
theorem digits_value {ds : List Char} (h : Numeral ds) : digits (value ds) = ds := by
  induction ds using List.reverseRecOn with
  | nil => exact absurd rfl h.1.1
  | append_singleton ds d ih =>
    obtain ⟨⟨-, digit⟩, leading⟩ := h
    have last := digit d (by simp)
    by_cases single : ds = []
    · subst single
      have small := digitValue_lt last
      rw [List.nil_append, value, List.foldl_cons, List.foldl_nil, Nat.zero_mul, Nat.zero_add,
        digits_of_lt small, digitChar_digitValue last]
    · have nonzero : ∀ cs, ds ≠ '0' :: cs := by
        rintro cs rfl
        simpa using leading (cs ++ [d]) rfl
      have rest := ih ⟨⟨single, fun c mem => digit c (by simp [mem])⟩, fun cs he => absurd he (nonzero cs)⟩
      have positive : value ds ≠ 0 := by
        intro zero
        rw [zero] at rest
        exact nonzero [] (rest.symm.trans (digits_of_lt (by decide)))
      have small := digitValue_lt last
      rw [value_append_singleton, digits_of_le (by omega)]
      have tens : (value ds * 10 + digitValue d) / 10 = value ds := by omega
      have ones : (value ds * 10 + digitValue d) % 10 = digitValue d := by omega
      rw [tens, ones, rest, digitChar_digitValue last]

theorem numeral_digits (n : Nat) : Numeral (digits n) := by
  refine ⟨⟨digits_ne_nil n, isDigit_of_mem_digits n⟩, fun cs he => ?_⟩
  rcases Nat.eq_zero_or_pos n with rfl | positive
  · rw [digits_of_lt (by decide)] at he
    exact (List.cons.inj he).2.symm
  · obtain ⟨c, cs', split, nonzero⟩ := digits_head positive
    rw [split] at he
    exact absurd (List.cons.inj he).1 nonzero

end Decimal

namespace Json

/-- The one text of a size is its digits. -/
theorem sizeText_iff {text : List Char} {n : UInt64} :
    SizeText text n ↔ text = Decimal.digits n.toNat := by
  constructor
  · rintro ⟨numeral, value⟩
    rw [← value, Decimal.digits_value numeral]
  · rintro rfl
    exact ⟨Decimal.numeral_digits _, Decimal.value_digits _⟩

/-! ## Texts that readers accept -/

section Accepts

variable {α β : Type} {r : Reader α} {Text : List Char → α → Prop}

/-- A text that is accepted stands for one thing only. -/
theorem Reader.Accepts.unique (h : r.Accepts Text) {text : List Char} {a b : α} (ha : Text text a)
    (hb : Text text b) : a = b := by
  have read := ((h.reads ha).read [] closed_nil).symm.trans ((h.reads hb).read [] closed_nil)
  exact (Prod.mk.inj (Except.ok.inj read)).1

/-- A problem that the text of a document makes is the problem of the document. -/
theorem Reader.Accepts.load_fails (h : r.Accepts Text) {p : Padded} {document : String}
    {problem : Problem} (fails : r.Fails p.text problem) (opens : skipBlank p.text = p.text)
    (nonempty : p.text ≠ []) (spelled : document.toList = p.all) :
    r.load document = .error problem := by
  have blanks : skipBlank document.toList = p.text ++ p.after := by
    have all := p.skipBlank_all_append opens nonempty []
    rwa [List.append_nil, List.append_nil, ← spelled] at all
  have closed : Closed p.after := by
    have closed := closed_nil.append p.blanks_after
    rwa [List.append_nil] at closed
  obtain ⟨failure, read, rfl⟩ := fails p.after closed
  exact Reader.load_of_error (by rw [← h.skips, blanks, read])

section Elements

variable {item : Reader α} {Item : List Char → α → Prop} {add : β → α → Except ModelError β}
  {e : ModelError} (hi : item.Accepts Item)

include hi

theorem readElements_of_refused {first : Bool} {value : β} {items : List Padded} {as : List α}
    {cs rest : List Char} (spelled : List.Forall₂ (fun (p : Padded) a => Item p.text a) items as)
    (refused : as.foldlM add value = .error e)
    (left : PartsLeft first (items.map Padded.all) cs (']' :: rest)) :
    ∃ place, readElements item add first value cs = .error (.content (.refused e) place) := by
  induction spelled generalizing first value cs with
  | nil => cases refused
  | @cons p a items as text _ ih =>
    obtain ⟨next, separated, blanks⟩ := left.separated
    have closed : Closed ((items.map Padded.all).flatMap (',' :: ·) ++ ']' :: rest) :=
      closed_commas rest (by decide)
    have read := hi.read_all text blanks closed
    obtain ⟨c, cs', opens, notEnd⟩ := hi.exists_cons text blanks
    rw [← hi.skips, opens] at read
    have found := nextElement_separated separated opens notEnd
    rw [List.foldlM_cons] at refused
    cases added : add value a with
    | error e' =>
      rw [added] at refused
      cases refused
      exact ⟨_, readElements_refused found read added⟩
    | ok value' =>
      rw [added] at refused
      rw [readElements_item found read added]
      exact ih refused (.after .list p.blanks_after _ rest)

/-- However its elements are spelled, a list is refused for the reason for which adding them one by
one is. -/
theorem Reader.Accepts.fails_list {expected : String} {start : β} {text : List Char} {as : List α}
    (spelled : ListText Item text as) (refused : as.foldlM add start = .error e) :
    (Reader.list expected start add item).Fails text (.content (.refused e)) := by
  obtain ⟨blanks, items, hb, texts, rfl⟩ := spelled
  intro rest _
  have left : PartsLeft true (items.map Padded.all)
      (blanks ++ (writeCommas (items.map Padded.all) ++ ']' :: rest)) (']' :: rest) :=
    ⟨blanks, hb, rfl⟩
  obtain ⟨place, elements⟩ := readElements_of_refused hi texts refused left
  refine ⟨.settle Bracket.list.leave (.content (.refused e) place), ?_, Failure.problem_settle _ _⟩
  show readList expected start add item (bracketed '[' ']' blanks _ ++ rest) = _
  rw [bracketed_append, readList, skipBlank_cons (by decide)]
  simp only [if_true, elements]

end Elements

/-- A text of one structure is a text of another when each part of the one is a part of the other. -/
theorem StructText.imp {a : α} {b : β} {text : List Char} (pairs : List (Part α × Part β))
    (name : ∀ pair ∈ pairs, pair.1.name = pair.2.name)
    (texts : ∀ pair ∈ pairs, ∀ text, pair.1.Text text a → pair.2.Text text b)
    (omissible : ∀ pair ∈ pairs, pair.1.Omissible a → pair.2.Omissible b)
    (h : StructText (pairs.map Prod.fst) text a) : StructText (pairs.map Prod.snd) text b := by
  generalize split : pairs.map Prod.fst = parts at h
  cases h with
  | @object blanks entries _ hb entered =>
    subst split
    refine .object hb ⟨?_, ?_, ?_, ?_⟩
    · refine List.forall_mem_map.2 fun pair mem e he key => texts pair mem _ ?_
      exact entered.known _ (List.mem_map_of_mem mem) e he (key.trans (name pair mem).symm)
    · refine fun e he other => entered.unknown e he (List.forall_mem_map.2 fun pair mem key => ?_)
      exact other _ (List.mem_map_of_mem mem) (key.trans (name pair mem))
    · refine List.forall_mem_map.2 fun pair mem => ?_
      exact name pair mem ▸ entered.once _ (List.mem_map_of_mem mem)
    · refine List.forall_mem_map.2 fun pair mem missing => omissible pair mem ?_
      exact entered.omitted _ (List.mem_map_of_mem mem) fun e he => name pair mem ▸ missing e he
  | @list blanks items given omitted _ hb parted spelled left =>
    subst parted
    obtain ⟨first, second, rfl, rfl, rfl⟩ := List.map_eq_append_iff.1 split
    have each : ∀ pair ∈ first, ∀ text, pair.1.Text text a → pair.2.Text text b :=
      fun pair mem => texts pair (List.mem_append_left _ mem)
    have paired := (List.forall₂_and_left _ _).2 ⟨each, (List.forall₂_map_right_iff.1 spelled).flip⟩
    refine .list hb List.map_append (List.forall₂_map_right_iff.2 ?_) ?_
    · exact (paired.imp fun pair item both => both.1 _ both.2).flip
    · refine List.forall_mem_map.2 fun pair mem => omissible pair (List.mem_append_right _ mem) ?_
      exact left _ (List.mem_map_of_mem mem)

theorem StructText.congr {a : α} {b : β} {text : List Char} (pairs : List (Part α × Part β))
    (name : ∀ pair ∈ pairs, pair.1.name = pair.2.name)
    (texts : ∀ pair ∈ pairs, ∀ text, pair.1.Text text a ↔ pair.2.Text text b)
    (omissible : ∀ pair ∈ pairs, pair.1.Omissible a ↔ pair.2.Omissible b) :
    StructText (pairs.map Prod.fst) text a ↔ StructText (pairs.map Prod.snd) text b := by
  constructor
  · exact StructText.imp pairs name (fun pair mem text => (texts pair mem text).1)
      fun pair mem => (omissible pair mem).1
  · intro h
    have swapped : StructText ((pairs.map Prod.swap).map Prod.fst) text b := by
      rw [List.map_map]
      exact h
    have back := StructText.imp (pairs.map Prod.swap)
      (List.forall_mem_map.2 fun pair mem => (name pair mem).symm)
      (List.forall_mem_map.2 fun pair mem text => (texts pair mem text).2)
      (List.forall_mem_map.2 fun pair mem => (omissible pair mem).2) swapped
    rw [List.map_map] at back
    exact back

theorem ListText.map_iff {Item : List Char → α → Prop} {Item' : List Char → β → Prop} {f : α → β}
    (same : ∀ text a, Item' text (f a) ↔ Item text a) {text : List Char} {as : List α} :
    ListText Item' text (as.map f) ↔ ListText Item text as := by
  simp only [ListText, List.forall₂_map_right_iff, same]

end Accepts

/-! ## Numbers of any size -/

/-- Reads digits, however many they are. -/
def readNatural (cs : List Char) : Except Failure (Nat × List Char) :=
  let (ds, rest) := spanDigits (skipBlank cs)
  if ds = Decimal.digits (Decimal.value ds) then .ok (Decimal.value ds, rest)
  else .error (.unfinished .value)

theorem readNatural_eq_ok {cs rest : List Char} {n : Nat} (h : readNatural cs = .ok (n, rest)) :
    skipBlank cs = Decimal.digits n ++ rest := by
  unfold readNatural at h
  generalize spanned : spanDigits (skipBlank cs) = span at h
  obtain ⟨ds, rest'⟩ := span
  obtain ⟨split, -⟩ := spanDigits_eq spanned
  dsimp only at h
  split_ifs at h with canonical
  cases h
  rw [split, ← canonical]

/-- Reads a natural number of any size. -/
def Reader.natural : Reader Nat where
  read := readNatural
  shrinks {cs n rest} h := by
    have split := congrArg List.length (readNatural_eq_ok h)
    have shorter := length_skipBlank_le cs
    have nonempty := List.length_pos_iff.2 (Decimal.digits_ne_nil n)
    rw [List.length_append] at split
    omega

theorem Reader.accepts_natural : Reader.natural.Accepts fun text n => text = Decimal.digits n where
  skips cs := by
    show readNatural (skipBlank cs) = readNatural cs
    rw [readNatural, readNatural, skipBlank_skipBlank]
  reads := by
    rintro _ n rfl
    obtain ⟨c, cs, split⟩ := List.exists_cons_of_ne_nil (Decimal.digits_ne_nil n)
    have digits := Decimal.isDigit_of_mem_digits n
    have digit := digits c (split ▸ List.mem_cons_self)
    have notBlank := isBlank_of_isDigit digit
    refine ⟨⟨c, cs, split, notBlank, ?_⟩, fun rest closed => ?_⟩
    · rintro rfl
      exact absurd digit (by decide)
    · have opens : skipBlank (Decimal.digits n ++ rest) = Decimal.digits n ++ rest := by
        rw [split]
        exact skipBlank_cons notBlank
      show readNatural (Decimal.digits n ++ rest) = _
      rw [readNatural, opens, spanDigits_append digits closed.not_digit]
      simp only [Decimal.value_digits, if_true]
  spelled h := ⟨_, readNatural_eq_ok h, rfl⟩

end Json

/-! ## Drafts -/

/-- A variable as a document spells it.  The size of a dimension can be any number; without one the
dimension is unbounded. -/
structure Draft where
  name : String
  baseType : BaseType
  sizes : List (Option Nat) := []

namespace Draft

/-! ### Their texts -/

/-- The texts of an extent. -/
def ExtentText (text : List Char) : Option Nat → Prop
  | none => AloneText "unbounded" text
  | some n => WithContentText "fixed" (· = Decimal.digits n) text

/-- The parts of a dimension. -/
def dimensionParts : List (Json.Part (Option Nat)) := [.of "extent" ExtentText id (some none)]

/-- The parts of a draft. -/
def parts : List (Json.Part Draft) :=
  [.of "name" StringText Draft.name none,
   .of "base_type" BaseType.Text Draft.baseType none,
   .of "array_specifications" (ListText (StructText dimensionParts)) Draft.sizes (some [])]

/-- The texts of a draft. -/
def Text : List Char → Draft → Prop := StructText parts

/-- The document spells the drafts, as a list. -/
def Spells (document : String) (drafts : List Draft) : Prop :=
  ∃ p : Padded, document.toList = p.all ∧ ListText Text p.text drafts

/-! ### Reading them -/

/-- The alternatives for an extent. -/
def choices : List (Choice (Option Nat)) :=
  [⟨"unbounded", some none, Reader.null.map fun () => none⟩,
   ⟨"fixed", none, Reader.natural.map some⟩]

/-- The contents of these alternatives. -/
def Content (choice : Choice (Option Nat)) (text : List Char) (size : Option Nat) : Prop :=
  match choice.plain? with
  | some a => text = writeNull ∧ a = size
  | none => ∃ n, text = Decimal.digits n ∧ some n = size

theorem accepts_extent : (Reader.oneOf choices).Accepts ExtentText := by
  have hcontent : ∀ choice ∈ choices, choice.content.Accepts (Content choice) := by
    simp only [choices, List.forall_mem_cons, List.not_mem_nil, IsEmpty.forall_iff, implies_true,
      and_true]
    exact ⟨accepts_alone none, Reader.accepts_natural.map some⟩
  refine (Reader.accepts_oneOf (by decide) hcontent).congr fun text size => ?_
  cases size with
  | none => simp [choices, Content, ExtentText, AloneText, WithContentText]
  | some n => simp [choices, Content, ExtentText, WithContentText]

/-- How a dimension is read. -/
def dimensionLayout : Layout (Option Nat) where
  title := "struct ArraySpecification"
  blank := none
  fields := [⟨"extent", false, (Reader.oneOf choices).map fun size _ => size⟩]

theorem accepts_dimension : dimensionLayout.reader.Accepts (StructText dimensionParts) := by
  have slots : Slots dimensionLayout
      [.of "extent" (some none) accepts_extent id (fun size _ => size) fun _ _ => rfl] := by
    refine ⟨rfl, by decide, ?_, ?_, ?_⟩
    · simp [Slot.of, dimensionLayout]
    · simp [Slot.of]
    · intro v w h
      simpa [Slot.of] using h
  exact slots.accepts

/-- How a draft is read. -/
def layout : Layout Draft where
  title := "struct Variable"
  blank := { name := "", baseType := .int }
  fields :=
    [⟨"name", true, Reader.string.map fun name d => { d with name }⟩,
     ⟨"base_type", true, BaseType.reader.map fun baseType d => { d with baseType }⟩,
     ⟨"array_specifications", false,
       (Reader.map List.reverse
         (.list "a sequence" [] (fun ds d => .ok (d :: ds)) dimensionLayout.reader)).map
           fun sizes d => { d with sizes }⟩]

theorem accepts : layout.reader.Accepts Text := by
  have slots : Slots layout
      [.of "name" none Reader.accepts_string Draft.name
         (fun name d => { d with name }) fun _ _ => rfl,
       .of "base_type" none BaseType.accepts Draft.baseType
         (fun baseType d => { d with baseType }) fun _ _ => rfl,
       .of "array_specifications" (some []) accepts_dimension.sequence Draft.sizes
         (fun sizes d => { d with sizes }) fun _ _ => rfl] := by
    refine ⟨rfl, by decide, ?_, ?_, ?_⟩
    · simp [Slot.of, layout]
    · simp [Slot.of]
    · rintro ⟨_, _, _⟩ ⟨_, _, _⟩ h
      simpa [Slot.of] using h
  exact slots.accepts

/-- A document spells one list of drafts only. -/
theorem Spells.unique {document : String} {drafts drafts' : List Draft}
    (h : Spells document drafts) (h' : Spells document drafts') : drafts = drafts' := by
  have load := accepts.sequence.load_iff.2 h
  exact Except.ok.inj (load.symm.trans (accepts.sequence.load_iff.2 h'))

/-! ### Writing them -/

/-- The document of an extent. -/
def writeExtent : Option Nat → List Char
  | none => writeString "unbounded"
  | some n => writeObject [("fixed", Decimal.digits n)]

/-- The document of a draft, in which sizes have just their digits. -/
def write (d : Draft) : List Char :=
  writeObject
    [("name", writeString d.name),
     ("base_type", d.baseType.write),
     ("array_specifications",
       writeList (d.sizes.map fun size => writeObject [("extent", writeExtent size)]))]

theorem reads (d : Draft) : layout.reader.Reads d.write d := by
  have natural (n : Nat) : Reader.natural.Reads (Decimal.digits n) n :=
    Reader.accepts_natural.reads rfl
  have extent (size : Option Nat) : (Reader.oneOf choices).Reads (writeExtent size) size := by
    cases size with
    | none => exact Reader.reads_plain "unbounded" rfl rfl
    | some n => exact Reader.reads_choice "fixed" rfl (natural n).map
  have dimension (size : Option Nat) :
      dimensionLayout.reader.Reads (writeObject [("extent", writeExtent size)]) size :=
    Layout.reads dimensionLayout [.mapped (extent size)] rfl (by decide)
  have sizes : (Reader.list "a sequence" [] (fun ds d => .ok (d :: ds)) dimensionLayout.reader).Reads
      (writeList (d.sizes.map fun size => writeObject [("extent", writeExtent size)]))
      (d.sizes.reverse ++ []) :=
    Reader.reads_list (fun size _ => dimension size) (collect_reverse d.sizes [])
  have reversed := Reader.Reads.map (f := List.reverse) sizes
  rw [List.append_nil, List.reverse_reverse] at reversed
  exact Layout.reads layout
    [.mapped (Reader.reads_string d.name), .mapped (BaseType.reads d.baseType), .mapped reversed]
    rfl (by decide)

/-- Every list of drafts is spelled by some document, whatever the sizes. -/
theorem spells_write (drafts : List Draft) :
    Spells (String.ofList (writeList (drafts.map write))) drafts := by
  have list : (Reader.list "a sequence" [] (fun ds d => .ok (d :: ds)) layout.reader).Reads
      (writeList (drafts.map write)) (drafts.reverse ++ []) :=
    Reader.reads_list (fun d _ => reads d) (collect_reverse drafts [])
  have reversed := Reader.Reads.map (f := List.reverse) list
  rw [List.append_nil, List.reverse_reverse] at reversed
  exact accepts.sequence.load_iff.1 reversed.load

end Draft

/-! ## Variables as drafts -/

/-- The size of a dimension, as a number of any size. -/
def Dimension.draft (d : Dimension) : Option Nat := d.size?.map UInt64.toNat

/-- How a variable is spelled. -/
def Variable.draft (v : Variable) : Draft where
  name := v.name
  baseType := v.baseType
  sizes := v.dimensions.map Dimension.draft

namespace Draft

/-- All sizes can be held by 64 bits. -/
def Fits (d : Draft) : Prop := ∀ n, some n ∈ d.sizes → n < 2 ^ 64

end Draft

theorem Dimension.draft_injective : Function.Injective Dimension.draft := by
  rintro ⟨_ | n⟩ ⟨_ | m⟩ same
  · rfl
  · cases same
  · cases same
  · have sizes : n.toNat = m.toNat := Option.some.inj same
    rw [UInt64.toNat_inj.1 sizes]

theorem Variable.draft_injective : Function.Injective Variable.draft := by
  rintro ⟨name, type, dimensions⟩ ⟨name', type', dimensions'⟩ same
  obtain ⟨names, types, sizes⟩ := Draft.mk.inj same
  exact Variable.mk.injEq .. ▸ ⟨names, types, Dimension.draft_injective.list_map sizes⟩

/-- The drafts of variables are those whose sizes fit. -/
theorem Draft.fits_iff (d : Draft) : d.Fits ↔ ∃ v : Variable, v.draft = d := by
  constructor
  · intro fits
    have dimension (size : Option Nat) (mem : size ∈ d.sizes) :
        (Dimension.mk (size.elim .unbounded fun n => .fixed (UInt64.ofNat n))).draft = size := by
      cases size with
      | none => rfl
      | some n => exact congrArg some (UInt64.toNat_ofNat_of_lt' (fits n mem))
    refine ⟨⟨d.name, d.baseType,
      d.sizes.map fun size => ⟨size.elim .unbounded fun n => .fixed (UInt64.ofNat n)⟩⟩, ?_⟩
    rw [Variable.draft, List.map_map]
    have sizes := (List.map_congr_left (g := id) dimension).trans (List.map_id d.sizes)
    exact congrArg (Draft.mk d.name d.baseType) sizes
  · rintro ⟨v, rfl⟩ n mem
    obtain ⟨⟨_ | size⟩, -, same⟩ := List.mem_map.1 mem
    · cases same
    · cases same
      exact size.toNat_lt

/-! ### Their texts -/

theorem Dimension.text_draft_iff {text : List Char} (d : Dimension) :
    StructText Draft.dimensionParts text d.draft ↔ StructText Dimension.parts text d := by
  refine StructText.congr [(_, _)] (List.forall_mem_singleton.2 rfl)
    (List.forall_mem_singleton.2 fun text => ?_) (List.forall_mem_singleton.2 ?_)
  · obtain ⟨_ | size⟩ := d
    · exact Iff.rfl
    · show WithContentText "fixed" (· = Decimal.digits size.toNat) text ↔
        WithContentText "fixed" (SizeText · size) text
      simp only [sizeText_iff]
  · obtain ⟨_ | size⟩ := d
    · exact iff_of_true rfl rfl
    · exact iff_of_false nofun nofun

/-- A text spells the draft of a variable exactly when it is a text of the variable. -/
theorem Variable.text_draft_iff {text : List Char} (v : Variable) :
    Draft.Text text v.draft ↔ StructText Variable.parts text v := by
  have sizes (text : List Char) : ListText (StructText Draft.dimensionParts) text v.draft.sizes ↔
      ListText (StructText Dimension.parts) text v.dimensions :=
    ListText.map_iff fun text d => Dimension.text_draft_iff d
  have scalar : some [] = some v.draft.sizes ↔ some [] = some v.dimensions := by
    simp [Variable.draft, eq_comm]
  have each {P : Json.Part Draft × Json.Part Variable → Prop}
      {a b c : Json.Part Draft × Json.Part Variable}
      (ha : P a) (hb : P b) (hc : P c) : ∀ pair ∈ [a, b, c], P pair :=
    List.forall_mem_cons.2 ⟨ha, List.forall_mem_cons.2 ⟨hb, List.forall_mem_singleton.2 hc⟩⟩
  exact StructText.congr [(_, _), (_, _), (_, _)] (each rfl rfl rfl)
    (each (fun _ => Iff.rfl) (fun _ => Iff.rfl) sizes) (each Iff.rfl Iff.rfl scalar)

namespace Draft

variable {document : String} {drafts : List Draft} {vs : List Variable}

/-- Documents that spell the drafts of variables are those that hold lists of these variables. -/
theorem spells_iff : Spells document (vs.map Variable.draft) ↔
    ∃ p : Padded, document.toList = p.all ∧ ListText (StructText Variable.parts) p.text vs := by
  simp only [Spells, ListText.map_iff fun text v => Variable.text_draft_iff v]

/-! ## Loading -/

/-- A variable that stands for itself is loaded when its sizes fit, whatever else they are. -/
theorem load_variable_iff {d : Draft} {p : Padded} (document_eq : document.toList = p.all)
    (text : Text p.text d) {value : Value} :
    Value.load .variable document = .ok value ↔ ∃ v : Variable, v.draft = d ∧ value = .variable v := by
  rw [Value.load_eq_ok_iff]
  constructor
  · rintro ⟨p', document_eq', v, text', rfl⟩
    have read := accepts.load_iff.2 ⟨p', document_eq', (Variable.text_draft_iff v).2 text'⟩
    have same := accepts.load_iff.2 ⟨p, document_eq, text⟩
    exact ⟨v, Except.ok.inj (read.symm.trans same), rfl⟩
  · rintro ⟨v, rfl, rfl⟩
    exact ⟨p, document_eq, v, (Variable.text_draft_iff v).1 text, rfl⟩

/-- A block is loaded when the sizes of its variables fit and the variables may stand together. -/
theorem Spells.load_block_iff (spells : Spells document drafts) {value : Value} :
    Value.load .block document = .ok value ↔
      ∃ vs, vs.map Variable.draft = drafts ∧ ∃ b, NamedList.ofList vs = .ok b ∧ value = .block b := by
  rw [Value.load_eq_ok_iff]
  constructor
  · rintro ⟨p, document_eq, b, ⟨vs, listed, collected⟩, rfl⟩
    exact ⟨vs, (spells_iff.2 ⟨p, document_eq, listed⟩).unique spells, b, collected, rfl⟩
  · rintro ⟨vs, rfl, b, collected, rfl⟩
    obtain ⟨p, document_eq, listed⟩ := spells_iff.1 spells
    exact ⟨p, document_eq, b, ⟨vs, listed, collected⟩, rfl⟩

/-- A block whose sizes fit is refused for the reason for which its variables are. -/
theorem Spells.load_block_refused (spells : Spells document (vs.map Variable.draft)) {e : ModelError}
    (refused : NamedList.ofList vs = .error e) :
    Value.load .block document = .error (.content (.refused e)) := by
  obtain ⟨p, document_eq, listed⟩ := spells_iff.1 spells
  rw [NamedList.ofList, NamedList.insertAll_eq_foldlM] at refused
  have fails : Block.reader.Fails p.text (.content (.refused e)) :=
    Variable.accepts.fails_list listed refused
  obtain ⟨blanks, items, -, -, text⟩ := listed
  have opens : skipBlank p.text = p.text := text ▸ skipBlank_cons (by decide)
  have nonempty : p.text ≠ [] := text ▸ List.cons_ne_nil _ _
  have load := Block.accepts.load_fails fails opens nonempty document_eq
  exact (Reader.load_map Block.reader Value.block document).trans (by rw [load]; rfl)

/-! ## Declaring -/

/-- How a draft is declared: the sizes have the digits that they have in documents. -/
def declaration (d : Draft) : String :=
  match d.sizes.mapM id with
  | some ns =>
    Cpp.baseType d.baseType ++ " " ++ d.name ++
      String.join (ns.map fun n => "[" ++ String.ofList (Decimal.digits n) ++ "]") ++ ";"
  | none =>
    Cpp.baseType d.baseType ++ String.ofList (List.replicate d.sizes.length '*') ++ " " ++ d.name ++ ";"

theorem declaration_of_fixed {d : Draft} {ns : List Nat} (fixed : d.sizes = ns.map some) :
    d.declaration = Cpp.baseType d.baseType ++ " " ++ d.name ++
      String.join (ns.map fun n => "[" ++ String.ofList (Decimal.digits n) ++ "]") ++ ";" := by
  have known (ns : List Nat) : (ns.map some).mapM id = some ns := by
    induction ns with
    | nil => rfl
    | cons n ns ih =>
      rw [List.map_cons, List.mapM_cons, ih]
      rfl
  rw [declaration, fixed, known]

end Draft

theorem Variable.fixedSizes?_draft (v : Variable) :
    v.draft.sizes.mapM id = v.fixedSizes?.map (List.map UInt64.toNat) := by
  obtain ⟨name, type, dimensions⟩ := v
  simp only [Variable.draft, Variable.fixedSizes?]
  induction dimensions with
  | nil => rfl
  | cons d ds ih =>
    rw [List.map_cons, List.mapM_cons, List.mapM_cons, ih, Dimension.draft, id]
    cases d.size? with
    | none => rfl
    | some size => cases ds.mapM Dimension.size? <;> rfl

theorem Variable.declaration_draft (v : Variable) : v.draft.declaration = Cpp.declaration v := by
  rw [Draft.declaration, Variable.fixedSizes?_draft, Cpp.declaration]
  cases v.fixedSizes? with
  | some sizes =>
    simp only [Option.map_some, List.map_map]
    rfl
  | none =>
    simp only [Option.map_none, Variable.draft, List.length_map]
    rfl

/-! ## Sizes of zero -/

section Zero

open Sequence

variable {v : Variable} (named : checkName "variable" v.name = .ok ()) (zero : some 0 ∈ v.draft.sizes)

include zero

theorem Variable.check_of_zero : v.check = .error (.zeroExtent v.name) := by
  refine if_pos (List.any_eq_true.2 ?_)
  obtain ⟨d, mem, size⟩ := List.mem_map.1 zero
  obtain ⟨n, found, same⟩ := Option.map_eq_some_iff.1 size
  refine ⟨d, mem, ?_⟩
  rw [found, UInt64.toNat_inj.1 (same.trans UInt64.toNat_zero.symm)]
  rfl

include named

/-- A variable with a dimension of no elements enters no collection. -/
theorem NamedList.vet_of_zero (l : Block) (place : Option Nat) :
    l.vet v place = .error (.zeroExtent v.name) := by
  have name : checkName (Named.kind Variable) (Named.name v) = .ok () := named
  have check : Named.check v = .error (.zeroExtent v.name) := v.check_of_zero zero
  rw [vet, name, check]

theorem NamedList.insert_of_zero (l : Block) : l.insert v = .error (.zeroExtent v.name) := by
  rw [insert, vet_of_zero named zero]

theorem NamedList.update_of_zero {l : Block} {name : String} {item : Variable}
    {change : Variable → Variable} (found : l.get? name = some item) (changed : change item = v) :
    l.update name change = .error (.zeroExtent v.name) := by
  obtain ⟨place, position⟩ : ∃ place, l.position? name = some place :=
    Option.ne_none_iff_exists'.1 fun missing =>
      position?_eq_none_iff.1 missing (List.mem_map.2 ⟨_, mem_of_get? found, rfl⟩)
  rw [update, position, found]
  simp only [changed, vet_of_zero named zero]

theorem NamedList.ofList_of_zero {before after : List Variable} (fine : ∃ l, ofList before = .ok l) :
    ofList (before ++ v :: after) = .error (.zeroExtent v.name) := by
  refine ofList_eq_error_iff.2 ⟨before, v, after, rfl, ofList_eq_ok_iff.1 fine, ?_⟩
  have spelled : isIdentifier (Named.name v) = true := checkName_eq_ok_iff.1 named
  have nonempty : Named.name v ≠ "" := by
    intro empty
    rw [empty] at spelled
    exact absurd spelled (by decide)
  have check : Named.check v = .error (.zeroExtent v.name) := v.check_of_zero zero
  rw [objection?, if_neg nonempty, if_neg (by simp [spelled]), check]

end Zero

/-! ## From documents to declarations -/

namespace Draft

variable {document : String} {drafts : List Draft}

/-- Variables with usable and distinct names may stand together when no size is zero. -/
theorem collects_iff {vs : List Variable} (drawn : vs.map Variable.draft = drafts)
    (named : ∀ d ∈ drafts, checkName "variable" d.name = .ok ())
    (distinct : (drafts.map Draft.name).Nodup) :
    (∃ b : Block, NamedList.ofList vs = .ok b) ↔ ∀ d ∈ drafts, some 0 ∉ d.sizes := by
  subst drawn
  rw [NamedList.ofList_eq_ok_iff]
  constructor
  · intro welcome
    refine List.forall_mem_map.2 fun v mem zero => ?_
    cases (welcome.checked v mem).symm.trans (v.check_of_zero zero)
  · intro positive
    refine ⟨fun v mem => named _ (List.mem_map_of_mem mem), fun v mem => ?_, ?_⟩
    · refine v.check_eq_ok_iff.2 fun d within fixed => positive _ (List.mem_map_of_mem mem) ?_
      exact List.mem_map.2 ⟨d, within, by rw [Dimension.draft, Dimension.size?, fixed]; rfl⟩
    · rw [List.map_map] at distinct
      exact distinct

/-- Lists of variables are spelled by the lists of drafts whose sizes fit. -/
theorem fits_all_iff :
    (∀ d ∈ drafts, d.Fits) ↔ ∃ vs : List Variable, vs.map Variable.draft = drafts := by
  have ranges := Set.range_list_map Variable.draft
  simp only [fits_iff]
  exact (Set.ext_iff.1 ranges drafts).symm

/-- The document of a draft whose sizes fit is loaded, and written as it was. -/
theorem load_write {d : Draft} (fits : d.Fits) : ∃ v : Variable, v.draft = d ∧
    Value.load .variable (String.ofList d.write) = .ok (.variable v) ∧
      (Value.variable v).dump = String.ofList d.write := by
  obtain ⟨v, rfl⟩ := d.fits_iff.1 fits
  have write : v.draft.write = v.write := by
    have dimension (d : Dimension) : writeObject [("extent", writeExtent d.draft)] = d.write := by
      obtain ⟨_ | size⟩ := d <;> rfl
    have dimensions : (v.dimensions.map Dimension.draft).map
        (fun size => writeObject [("extent", writeExtent size)]) = v.dimensions.map Dimension.write := by
      rw [List.map_map]
      exact List.map_congr_left fun d _ => dimension d
    rw [Draft.write, Variable.write, ← dimensions]
    rfl
  rw [write]
  exact ⟨v, rfl, ((Variable.reads v).map (f := Value.variable)).load, rfl⟩

/-- What becomes of the sizes in a document that lists variables, each with its dimensions.  The sizes
are numbers without any bound. -/
structure Outcome (document : String) (drafts : List Draft) : Prop where
  /-- With names that are usable and distinct, exactly sizes from 1 to `2 ^ 64 - 1` are loaded. -/
  loads_iff : (∀ d ∈ drafts, checkName "variable" d.name = .ok ()) → (drafts.map Draft.name).Nodup →
    ((∃ value, Value.load .block document = .ok value) ↔
      ∀ d ∈ drafts, ∀ n, some n ∈ d.sizes → 1 ≤ n ∧ n < 2 ^ 64)
  /-- What is loaded has the sizes of the document, and is declared with their digits. -/
  declares : ∀ value, Value.load .block document = .ok value → ∃ b : Block, value = .block b ∧
    b.toList.map Variable.draft = drafts ∧ Cpp.renderBlock b = Cpp.text (drafts.map declaration) ∧
    ∀ v ∈ b.toList, ∀ ns : List Nat, v.draft.sizes = ns.map some → Cpp.declaration v =
      Cpp.baseType v.baseType ++ " " ++ v.name ++
        String.join (ns.map fun n => "[" ++ String.ofList (Decimal.digits n) ++ "]") ++ ";"
  /-- A size that does not fit is refused, whatever the names are. -/
  refuses_large : ∀ d ∈ drafts, ∀ n, some n ∈ d.sizes → 2 ^ 64 ≤ n →
    ∃ p, Value.load .block document = .error p
  /-- Otherwise the first size of zero is, by the name of its variable. -/
  refuses_zero : (∀ d ∈ drafts, d.Fits) → ∀ before d after, drafts = before ++ d :: after →
    (∀ d ∈ before, checkName "variable" d.name = .ok () ∧ some 0 ∉ d.sizes) →
    (before.map Draft.name).Nodup → checkName "variable" d.name = .ok () → some 0 ∈ d.sizes →
    Value.load .block document = .error (.content (.refused (.zeroExtent d.name)))

theorem Spells.outcome (spells : Spells document drafts) : Outcome document drafts where
  loads_iff named distinct := by
    have split : (∀ d ∈ drafts, ∀ n, some n ∈ d.sizes → 1 ≤ n ∧ n < 2 ^ 64) ↔
        (∀ d ∈ drafts, some 0 ∉ d.sizes) ∧ ∀ d ∈ drafts, d.Fits := by
      constructor
      · intro each
        refine ⟨fun d mem zero => ?_, fun d mem n size => (each d mem n size).2⟩
        exact absurd (each d mem 0 zero).1 (by decide)
      · rintro ⟨positive, fits⟩ d mem n size
        refine ⟨Nat.one_le_iff_ne_zero.2 ?_, fits d mem n size⟩
        rintro rfl
        exact positive d mem size
    rw [split]
    constructor
    · rintro ⟨value, load⟩
      obtain ⟨vs, drawn, b, collected, -⟩ := spells.load_block_iff.1 load
      exact ⟨(collects_iff drawn named distinct).1 ⟨b, collected⟩, fits_all_iff.2 ⟨vs, drawn⟩⟩
    · rintro ⟨positive, fits⟩
      obtain ⟨vs, drawn⟩ := fits_all_iff.1 fits
      obtain ⟨b, collected⟩ := (collects_iff drawn named distinct).2 positive
      exact ⟨.block b, spells.load_block_iff.2 ⟨vs, drawn, b, collected, rfl⟩⟩
  declares value load := by
    obtain ⟨vs, drawn, b, collected, rfl⟩ := spells.load_block_iff.1 load
    rw [← NamedList.toList_of_ofList collected] at drawn
    refine ⟨b, rfl, drawn, ?_, fun v _ ns fixed => ?_⟩
    · rw [Cpp.renderBlock_eq_text, Cpp.blockLines, ← drawn, List.map_map]
      exact congrArg Cpp.text (List.map_congr_left fun v _ => v.declaration_draft.symm)
    · exact v.declaration_draft.symm.trans (declaration_of_fixed fixed)
  refuses_large d mem n size large := by
    cases load : Value.load .block document with
    | error p => exact ⟨p, rfl⟩
    | ok value =>
      obtain ⟨vs, drawn, -⟩ := spells.load_block_iff.1 load
      exact absurd (fits_all_iff.2 ⟨vs, drawn⟩ d mem n size) (Nat.not_lt.2 large)
  refuses_zero fits before d after split fine distinct named zero := by
    obtain ⟨vs, drawn⟩ := fits_all_iff.1 fits
    subst drawn
    obtain ⟨first, second, rfl, rfl, tail⟩ := List.map_eq_append_iff.1 split
    obtain ⟨v, rest, rfl, rfl, rfl⟩ := List.map_eq_cons_iff.1 tail
    have collected : ∃ b : Block, NamedList.ofList first = .ok b :=
      (collects_iff rfl (fun d mem => (fine d mem).1) distinct).2 fun d mem => (fine d mem).2
    exact spells.load_block_refused (NamedList.ofList_of_zero named zero collected)

end Draft

/-- Sizes go unchanged from documents to declarations, or not at all.  Each list of variables is
spelled by a document, whatever the sizes of its dimensions are, and `Outcome` tells what becomes of
every such document, in any spelling.  No variable with a size of zero can be inserted into a
collection, be made out of an item of one, or be listed after items that are fine.  A variable that
stands for itself is loaded when its sizes fit, with a size of zero too, and written as it was. -/
theorem Draft.sizes_survive :
    (∀ drafts, Spells (String.ofList (writeList (drafts.map write))) drafts) ∧
    (∀ document drafts, Spells document drafts → Outcome document drafts) ∧
    (∀ v : Variable, checkName "variable" v.name = .ok () → some 0 ∈ v.draft.sizes →
      (∀ l : Block, l.insert v = .error (.zeroExtent v.name)) ∧
      (∀ (l : Block) name item change, l.get? name = some item → change item = v →
        l.update name change = .error (.zeroExtent v.name)) ∧
      ∀ before after, (∃ l, NamedList.ofList before = .ok l) →
        NamedList.ofList (before ++ v :: after) = .error (.zeroExtent v.name)) ∧
    ∀ d : Draft, (d.Fits → ∃ v : Variable, v.draft = d ∧
        Value.load .variable (String.ofList d.write) = .ok (.variable v) ∧
        (Value.variable v).dump = String.ofList d.write) ∧
      (¬d.Fits → ∃ p, Value.load .variable (String.ofList d.write) = .error p) := by
  refine ⟨spells_write, fun document drafts spells => spells.outcome, ?_, ?_⟩
  · intro v named zero
    exact ⟨NamedList.insert_of_zero named zero,
      fun l name item change found changed => NamedList.update_of_zero named zero found changed,
      fun before after fine => NamedList.ofList_of_zero named zero fine⟩
  · refine fun d => ⟨load_write, fun large => ?_⟩
    cases load : Value.load .variable (String.ofList d.write) with
    | error p => exact ⟨p, rfl⟩
    | ok value =>
      obtain ⟨p, document_eq, text⟩ := accepts.load_iff.1 (reads d).load
      obtain ⟨v, drawn, -⟩ := (load_variable_iff document_eq text).1 load
      exact absurd (d.fits_iff.2 ⟨v, drawn⟩) large

namespace Extents

/-- An array of the given sizes. -/
def grid (sizes : List Nat) : Draft := { name := "grid", baseType := .int, sizes := sizes.map some }

/-- The document of a block with that array only. -/
def document (sizes : List Nat) : String := String.ofList (writeList ([grid sizes].map Draft.write))

end Extents

open Extents in
/-- The greatest size that fits is loaded and declared, the next one is not, and zero is neither of
them but a reason of its own. -/
theorem Draft.sizes_survive_grid :
    (∃ b : Block, Value.load .block (document [3, 18446744073709551615]) = .ok (.block b) ∧
      Cpp.renderBlock b = "int grid[3][18446744073709551615];\n") ∧
    (∃ p, Value.load .block (document [3, 18446744073709551616]) = .error p) ∧
    Value.load .block (document [3, 0]) = .error (.content (.refused (.zeroExtent "grid"))) ∧
    (NamedList.empty : Block).insert ⟨"grid", .int, [⟨.fixed 0⟩]⟩ = .error (.zeroExtent "grid") ∧
    ∃ v : Variable, Value.load .variable (String.ofList (grid [3, 0]).write) = .ok (.variable v) ∧
      (Value.variable v).dump = String.ofList (grid [3, 0]).write := by
  obtain ⟨spelled, outcome, refused, standing⟩ := Draft.sizes_survive
  have named (sizes : List Nat) : ∀ d ∈ [grid sizes], checkName "variable" d.name = .ok () := by
    refine List.forall_mem_singleton.2 ?_
    show checkName "variable" "grid" = .ok ()
    decide +kernel
  refine ⟨?_, ?_, ?_, ?_, ?_⟩
  · have known := outcome _ _ (spelled [grid [3, 18446744073709551615]])
    obtain ⟨value, load⟩ := (known.loads_iff (named _) (List.nodup_singleton _)).2
      (by simp [grid])
    obtain ⟨b, rfl, -, rendered, -⟩ := known.declares value load
    exact ⟨b, load, rendered.trans (by decide +kernel)⟩
  · have known := outcome _ _ (spelled [grid [3, 18446744073709551616]])
    exact known.refuses_large _ List.mem_cons_self 18446744073709551616 (by simp [grid]) (by decide)
  · have known := outcome _ _ (spelled [grid [3, 0]])
    exact known.refuses_zero (by simp [grid, Draft.Fits]) [] _ [] rfl (by simp) List.nodup_nil
      (named _ _ List.mem_cons_self) (by simp [grid])
  · exact (refused ⟨"grid", .int, [⟨.fixed 0⟩]⟩ (by decide +kernel) (by decide)).1 .empty
  · obtain ⟨v, -, load, dump⟩ := (standing (grid [3, 0])).1 (by simp [grid, Draft.Fits])
    exact ⟨v, load, dump⟩

end AlgorithmDriver

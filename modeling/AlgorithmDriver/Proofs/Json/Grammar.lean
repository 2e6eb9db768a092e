import AlgorithmDriver.Json.Lexer
import AlgorithmDriver.Json.Writer
import Mathlib.Data.List.Forall2

/-!
# The grammar of documents

Which texts stand for a value in a document, said without reading them.  A text is a list of
characters without blanks around it; where blanks may stand it is `Padded`.

* `WellFormed` — any value at all: words, numbers of any size, strings, lists and objects to any
  depth.
* `StringText` — the texts of a string, with any of its characters escaped in any way.
* `SizeText` — the texts of an integer of 64 bits.
* `ListText`, `StructText`, `AloneText`, `WithContentText` — the texts of lists, of structures in
  either form and of alternatives, given the texts of their parts.
-/

namespace AlgorithmDriver.Json

variable {α β : Type}

/-! ## Blanks and brackets -/

/-- Any number of blank characters. -/
def Blanks (cs : List Char) : Prop := ∀ c ∈ cs, isBlank c = true

/-- A text with blanks on both sides. -/
structure Padded where
  /-- The blanks in front. -/
  before : List Char
  /-- What stands between the blanks. -/
  text : List Char
  /-- The blanks behind. -/
  after : List Char
  blanks_before : Blanks before
  blanks_after : Blanks after

/-- The text together with its blanks. -/
def Padded.all (p : Padded) : List Char := p.before ++ (p.text ++ p.after)

/-- A member of an object. -/
structure Member where
  /-- Its key, as it is written. -/
  key : Padded
  /-- Its value. -/
  value : Padded

/-- The key and the value with a colon between them. -/
def Member.all (m : Member) : List Char := m.key.all ++ ':' :: m.value.all

/-- Parts between two brackets, with commas between them.  Blanks may stand between the brackets
even when there is no part. -/
def bracketed (opening closing : Char) (blanks : List Char) (parts : List (List Char)) :
    List Char :=
  opening :: (blanks ++ (writeCommas parts ++ [closing]))

theorem bracketed_append {opening closing : Char} {blanks : List Char} {parts : List (List Char)}
    (rest : List Char) : bracketed opening closing blanks parts ++ rest =
      opening :: (blanks ++ (writeCommas parts ++ closing :: rest)) := by
  simp [bracketed]

/-! ## Strings -/

/-- One element of a string, with the number that it stands for: a character that is written as it
is, or one that is escaped. -/
inductive CodeUnit : List Char → Nat → Prop
  | plain {c : Char} : c ≠ '"' → c ≠ '\\' → ¬c < ' ' → CodeUnit [c] c.toNat
  | letter {l c : Char} : simpleEscape? l = some c → CodeUnit ['\\', l] c.toNat
  | number {a b c d : Char} {w x y z : Nat} : Decimal.hexValue? a = some w →
      Decimal.hexValue? b = some x → Decimal.hexValue? c = some y →
      Decimal.hexValue? d = some z →
      CodeUnit ['\\', 'u', a, b, c, d] (((w * 16 + x) * 16 + y) * 16 + z)

/-- A character of a string: one element, or two that are a pair of surrogates. -/
inductive CharText : List Char → Char → Prop
  | one {text : List Char} {c : Char} : CodeUnit text c.toNat → CharText text c
  | pair {first second : List Char} {high low : Nat} {c : Char} : CodeUnit first high →
      CodeUnit second low → 0xD800 ≤ high → high ≤ 0xDBFF → 0xDC00 ≤ low → low ≤ 0xDFFF →
      c.toNat = 0x10000 + (high - 0xD800) * 0x400 + (low - 0xDC00) →
      CharText (first ++ second) c

/-- Elements of a string between quotes. -/
def quoted (parts : List (List Char)) : List Char := '"' :: (parts.flatten ++ ['"'])

/-- The texts of a string. -/
def StringText (text : List Char) (s : String) : Prop :=
  ∃ parts, List.Forall₂ CharText parts s.toList ∧ text = quoted parts

/-- The texts of a string when nobody asks which characters it has: escapes need not make them up. -/
def RawString (text : List Char) : Prop :=
  ∃ parts, (∀ part ∈ parts, ∃ n, CodeUnit part n) ∧ text = quoted parts

/-! ## Numbers -/

/-- One digit or more. -/
def Digits (ds : List Char) : Prop := ds ≠ [] ∧ ∀ c ∈ ds, Decimal.isDigit c = true

/-- Digits that do not begin with a zero, unless that is all. -/
def Numeral (ds : List Char) : Prop := Digits ds ∧ ∀ cs, ds = '0' :: cs → cs = []

/-- The fraction of a number, which may be missing. -/
inductive Fraction : List Char → Prop
  | missing : Fraction []
  | digits {ds : List Char} : Digits ds → Fraction ('.' :: ds)

/-- The exponent of a number, which may be missing. -/
inductive Exponent : List Char → Prop
  | missing : Exponent []
  | digits {letter : Char} {sign ds : List Char} : letter ∈ ['e', 'E'] →
      sign ∈ [[], ['+'], ['-']] → Digits ds → Exponent (letter :: (sign ++ ds))

/-- A number, without its minus sign if it has one. -/
def Magnitude (text : List Char) : Prop :=
  ∃ whole fraction exponent, Numeral whole ∧ Fraction fraction ∧ Exponent exponent ∧
    text = whole ++ (fraction ++ exponent)

/-- The texts of an integer of 64 bits: decimal, without sign, fraction, exponent or leading zero. -/
def SizeText (text : List Char) (n : UInt64) : Prop :=
  Numeral text ∧ Decimal.value text = n.toNat

/-! ## Values of any sort -/

/-- The texts that stand for some value, whatever it is. -/
inductive WellFormed : List Char → Prop
  | word {w : String} : w ∈ ["null", "true", "false"] → WellFormed w.toList
  | number {text : List Char} : Magnitude text → WellFormed text
  | negative {text : List Char} : Magnitude text → WellFormed ('-' :: text)
  | string {text : List Char} : RawString text → WellFormed text
  | list {blanks : List Char} {items : List Padded} : Blanks blanks →
      (∀ item ∈ items, WellFormed item.text) →
      WellFormed (bracketed '[' ']' blanks (items.map Padded.all))
  | object {blanks : List Char} {members : List Member} : Blanks blanks →
      (∀ m ∈ members, RawString m.key.text) → (∀ m ∈ members, WellFormed m.value.text) →
      WellFormed (bracketed '\x7b' '\x7d' blanks (members.map Member.all))

/-! ## Lists -/

/-- The texts of a list, given those of its elements. -/
def ListText (Item : List Char → α → Prop) (text : List Char) (as : List α) : Prop :=
  ∃ blanks items, Blanks blanks ∧ List.Forall₂ (fun item a => Item item.text a) items as ∧
    text = bracketed '[' ']' blanks (items.map Padded.all)

/-! ## Structures and alternatives -/

/-- A member whose key is a string. -/
structure Entry extends Member where
  /-- The string that the key stands for. -/
  name : String
  spelled : StringText key.text name

/-- A part of a structure. -/
structure Part (α : Type) where
  /-- Its key. -/
  name : String
  /-- The texts that stand for the part, in a given structure. -/
  Text : List Char → α → Prop
  /-- Whether the part can be left out, in a given structure. -/
  Omissible : α → Prop

/-- The part with the given texts and, if it can be left out, the given default. -/
def Part.of (name : String) (Text : List Char → β → Prop) (get : α → β) (default? : Option β) :
    Part α where
  name
  Text text value := Text text (get value)
  Omissible value := default? = some (get value)

/-- The members of an object are those of a structure: each part is there at most once, and once
if it cannot be left out; whatever else is there is some value. -/
structure Entries (parts : List (Part α)) (entries : List Entry) (value : α) : Prop where
  known : ∀ part ∈ parts, ∀ e ∈ entries, e.name = part.name → part.Text e.value.text value
  unknown : ∀ e ∈ entries, (∀ part ∈ parts, e.name ≠ part.name) → WellFormed e.value.text
  once : ∀ part ∈ parts, (entries.map Entry.name).count part.name ≤ 1
  omitted : ∀ part ∈ parts, (∀ e ∈ entries, e.name ≠ part.name) → part.Omissible value

/-- The texts of a structure: an object with its parts in any order, or a list of its parts in
order, of which the last ones may be left out. -/
inductive StructText (parts : List (Part α)) : List Char → α → Prop
  | object {blanks : List Char} {entries : List Entry} {value : α} : Blanks blanks →
      Entries parts entries value →
      StructText parts (bracketed '\x7b' '\x7d' blanks (entries.map (·.all))) value
  | list {blanks : List Char} {items : List Padded} {given omitted : List (Part α)} {value : α} :
      Blanks blanks → parts = given ++ omitted →
      List.Forall₂ (fun item part => part.Text item.text value) items given →
      (∀ part ∈ omitted, part.Omissible value) →
      StructText parts (bracketed '[' ']' blanks (items.map Padded.all)) value

/-- The texts of an alternative with content: an object whose only member is called `name`. -/
def WithContentText (name : String) (Content : List Char → Prop) (text : List Char) : Prop :=
  ∃ e : Entry, e.name = name ∧ Content e.value.text ∧
    text = bracketed '\x7b' '\x7d' [] [e.all]

/-- The texts of an alternative without content: its name, or an object with the name and `null`. -/
def AloneText (name : String) (text : List Char) : Prop :=
  StringText text name ∨ WithContentText name (· = writeNull) text

/-- The texts of a value that may be missing. -/
def OptionText (Text : List Char → α → Prop) (text : List Char) : Option α → Prop
  | none => text = writeNull
  | some a => Text text a

end AlgorithmDriver.Json

/-!
# Bytes

What files, pipes and arguments are made of, and how bytes and texts are turned into one another.
-/

namespace AlgorithmDriver

/-- A sequence of bytes. -/
abbrev Bytes := List UInt8

namespace Bytes

/-- The bytes of a text in UTF-8. -/
def ofText (text : String) : Bytes := text.toUTF8.data.toList

/-- The text that the bytes spell in UTF-8, if they do. -/
def text? (bytes : Bytes) : Option String := String.fromUTF8? ⟨bytes.toArray⟩

/-- The bytes seen as characters, one for each byte. -/
def toChars (bytes : Bytes) : List Char := bytes.map fun b => Char.ofNat b.toNat

/-- The bytes of characters that stand for one byte each. -/
def ofChars (chars : List Char) : Bytes := chars.map fun c => UInt8.ofNat c.toNat

/-- The bytes of a literal that holds only ASCII characters. -/
def ofAscii (text : String) : Bytes := ofChars text.toList

/-- The text that characters for one byte each spell: in UTF-8 when they do, else one character for
each byte. -/
def textOfChars (chars : List Char) : String :=
  (text? (ofChars chars)).getD (String.ofList chars)

/-- The characters for one byte each that spell a text. -/
def charsOfText (text : String) : List Char := toChars (ofText text)

/-- Whether a sequence comes before another one, or is the same: the first bytes that differ
decide, and a sequence comes after its beginnings. -/
def precedesOrEqual : Bytes → Bytes → Bool
  | [], _ => true
  | _ :: _, [] => false
  | a :: as, b :: bs =>
    decide (a.toNat < b.toNat) || (decide (a.toNat = b.toNat) && precedesOrEqual as bs)

/-- The sum of sizes. -/
def total (sizes : List Nat) : Nat := sizes.foldl Nat.add 0

end Bytes

end AlgorithmDriver

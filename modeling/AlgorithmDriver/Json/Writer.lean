import AlgorithmDriver.Number.Decimal

/-!
# Writing documents

The compact form of a document: no blanks, members in a fixed order, and only those characters of a
string escaped that have to be.
-/

namespace AlgorithmDriver.Json

/-- How one character of a string is written. -/
def escapeChar (c : Char) : List Char :=
  if c = '"' then ['\\', '"']
  else if c = '\\' then ['\\', '\\']
  else if c = '\x08' then ['\\', 'b']
  else if c = '\t' then ['\\', 't']
  else if c = '\n' then ['\\', 'n']
  else if c = '\x0c' then ['\\', 'f']
  else if c = '\r' then ['\\', 'r']
  else if c < ' ' then
    ['\\', 'u', '0', '0', Decimal.hexChar (c.toNat / 16), Decimal.hexChar (c.toNat % 16)]
  else [c]

/-- Writes a string. -/
def writeString (s : String) : List Char :=
  '"' :: (s.toList.flatMap escapeChar ++ ['"'])

/-- Writes parts with commas between them. -/
def writeCommas : List (List Char) → List Char
  | [] => []
  | [part] => part
  | part :: parts => part ++ ',' :: writeCommas parts

/-- Writes a list, given its elements as they are written. -/
def writeList (elements : List (List Char)) : List Char :=
  '[' :: (writeCommas elements ++ [']'])

/-- Writes an object, given its keys and its values as they are written. -/
def writeObject (members : List (String × List Char)) : List Char :=
  '\x7b' ::
    (writeCommas (members.map fun (key, value) => writeString key ++ ':' :: value) ++ ['\x7d'])

/-- The word that stands for no value. -/
def writeNull : List Char := ['n', 'u', 'l', 'l']

end AlgorithmDriver.Json

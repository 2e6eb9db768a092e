import AlgorithmDriver.Shell.Arithmetic
import AlgorithmDriver.Shell.State

/-!
# Expansion

How a word becomes fields.  Parameters, outputs of commands and arithmetic are replaced by their
values; values that are not quoted are split at separators; and a field that is a pattern is
replaced by the names of the files that it stands for.
-/

namespace AlgorithmDriver.Shell.Expansion

/-- A piece of an expanded word. -/
inductive Piece where
  /-- Characters, and whether they are quoted. -/
  | fixed (chars : List Char) (quoted : Bool)
  /-- A value that is to be split. -/
  | loose (chars : List Char)
  /-- The end of a field. -/
  | boundary
  deriving DecidableEq, Repr

/-- Runs a statement and returns what it prints. -/
abbrev Substitute := Statement → Run (List Char)

/-- The text of pieces that are not split. -/
def flatten (pieces : List Piece) : List Char :=
  pieces.flatMap fun
    | .fixed chars _ => chars
    | .loose chars => chars
    | .boundary => [' ']

/-- The text of pieces as a pattern. -/
def toPattern (pieces : List Piece) : List Marked :=
  pieces.flatMap fun
    | .fixed chars quoted => chars.map fun c => (c, quoted)
    | .loose chars => chars.map fun c => (c, false)
    | .boundary => [(' ', true)]

/-- A value as a piece. -/
def piece (chars : List Char) (quoted : Bool) : Piece :=
  if quoted then .fixed chars true else .loose chars

/-! ## Parameters -/

/-- The value of a parameter other than `@` and `*`. -/
def parameterValue (s : State) (name : List Char) : Option (List Char) :=
  match name with
  | ['#'] => some (Nat.toDigits 10 s.parameters.length)
  | ['?'] => some (Nat.toDigits 10 s.status)
  | ['$'] => some (Run.processText s.process)
  | ['!'] => s.background.map Run.processText
  | ['-'] => some ((if s.exitOnError then ['e'] else []) ++ if s.refuseUnset then ['u'] else [])
  | ['0'] => some s.name
  | c :: _ =>
    if c.isDigit then
      match Arithmetic.natOf 10 name with
      | some (n + 1) => s.parameters[n]?
      | _ => some s.name
    else s.bindings.lookup name
  | [] => none

/-- All parameters: one field each when `@` is quoted or nothing is, joined by the first separator
when `*` is quoted. -/
def allParameters (parameters : List (List Char)) (separators name : List Char) (quoted : Bool) :
    List Piece :=
  if quoted && name = ['*'] then
    let joined :=
      match separators.head? with
      | some c => [c].intercalate parameters
      | none => parameters.flatten
    [.fixed joined true]
  else (parameters.map fun p => [piece p quoted]).intersperse [Piece.boundary] |>.flatten

/-! ## Parts -/

mutual

/-- The pieces of a word.  `fuel` bounds the depth of words in words. -/
def expandParts (substitute : Substitute) : (fuel : Nat) → List Part → Run (List Piece)
  | 0, _ => return []
  | _, [] => return []
  | fuel + 1, part :: rest => do
    let pieces ← expandPart substitute fuel part
    return pieces ++ (← expandParts substitute fuel rest)

/-- The pieces of a part of a word. -/
def expandPart (substitute : Substitute) : (fuel : Nat) → Part → Run (List Piece)
  | 0, _ => return []
  | _, .text chars quoted => return [.fixed chars quoted]
  | _, .output body quoted => return [piece (← substitute body) quoted]
  | fuel + 1, .arithmetic expression quoted => do
    let text := flatten (← expandParts substitute fuel expression)
    match Arithmetic.calculate (← get).bindings text with
    | .ok (n, bindings) =>
      modify fun s => { s with bindings }
      return [piece (Arithmetic.text n) quoted]
    | .error .malformed =>
      Run.fail ("arithmetic expression: expecting primary: \"" ++ String.ofList text ++ "\"")
    | .error .divisionByZero =>
      Run.fail ("arithmetic expression: division by zero: \"" ++ String.ofList text ++ "\"")
  | fuel + 1, .parameter name change quoted => do
    let s ← get
    if name = ['@'] || name = ['*'] then
      let all := allParameters s.parameters (← Run.separators) name quoted
      match change with
      | .orElse _ word =>
        if s.parameters.isEmpty then expandParts substitute fuel word else return all
      | .alternative _ word =>
        if s.parameters.isEmpty then return [] else expandParts substitute fuel word
      | .length => return [piece (Nat.toDigits 10 s.parameters.length) quoted]
      | _ => return all
    else changeValue substitute fuel name change quoted (parameterValue s name)

/-- The pieces of a parameter whose value is changed. -/
def changeValue (substitute : Substitute) :
    (fuel : Nat) → List Char → Change → Bool → Option (List Char) → Run (List Piece)
  | 0, _, _, _, _ => return []
  | fuel + 1, name, change, quoted, value => do
    let counts (empty : Bool) : Bool :=
      match value with
      | none => false
      | some v => !(empty && v.isEmpty)
    let text : Run (List Char) :=
      match value with
      | some v => return v
      | none => do
        if (← get).refuseUnset then
          Run.fail (String.ofList name ++ ": parameter not set")
        return []
    match change with
    | .none => return [piece (← text) quoted]
    | .length => return [piece (Nat.toDigits 10 (← text).length) quoted]
    | .orElse empty word =>
      if counts empty then return [piece (value.getD []) quoted]
      else expandParts substitute fuel word
    | .alternative empty word =>
      if counts empty then expandParts substitute fuel word else return []
    | .assign empty word =>
      if counts empty then return [piece (value.getD []) quoted]
      else
        let v := flatten (← expandParts substitute fuel word)
        Run.assign name v
        return [piece v quoted]
    | .demand empty word =>
      if counts empty then return [piece (value.getD []) quoted]
      else
        let message := flatten (← expandParts substitute fuel word)
        let message := if message.isEmpty then "parameter not set".toList else message
        Run.fail (String.ofList (name ++ [':', ' '] ++ message))
    | .cutEnd longest pattern =>
      let pattern := toPattern (← expandParts substitute fuel pattern)
      return [piece (Pattern.cutEnd longest pattern (← text)) quoted]
    | .cutStart longest pattern =>
      let pattern := toPattern (← expandParts substitute fuel pattern)
      return [piece (Pattern.cutStart longest pattern (← text)) quoted]

end

/-- The depth of words in words that is expanded at most. -/
def depth : Nat := 10000

/-! ## Fields -/

/-- Splits a value at separators.  Blank separators around a field are left out, and others end a
field even if it is empty.  `current` is the field that has been begun, with its last character
first. -/
def split (separators : List Char) :
    List Char → (current : Option (List Marked)) → List (List Marked) →
    Option (List Marked) × List (List Marked)
  | [], current, done => (current, done)
  | c :: cs, current, done =>
    if !separators.contains c then
      split separators cs (some ((c, false) :: current.getD [])) done
    else if c = ' ' || c = '\t' || c = '\n' then
      match current with
      | none => split separators cs none done
      | some field =>
        let rest := cs.dropWhile fun c =>
          (c = ' ' || c = '\t' || c = '\n') && separators.contains c
        match rest with
        | d :: _ =>
          if separators.contains d then split separators cs (some field) done
          else split separators cs none (done ++ [field.reverse])
        | [] => split separators cs none (done ++ [field.reverse])
    else split separators cs none (done ++ [(current.getD []).reverse])

/-- The fields of an expanded word. -/
def fields (separators : List Char) :
    List Piece → (current : Option (List Marked)) → List (List Marked) → List (List Marked)
  | [], current, done => done ++ (current.map List.reverse).toList
  | .fixed chars quoted :: rest, current, done =>
    let marked := chars.map fun c => (c, quoted)
    fields separators rest (some (marked.reverse ++ current.getD [])) done
  | .loose chars :: rest, current, done =>
    let (current, done) := split separators chars current done
    fields separators rest current done
  | .boundary :: rest, current, done => 
    fields separators rest none (done ++ (current.map List.reverse).toList)

/-! ## Names of files -/

/-- Puts names in order. -/
def sorted (names : List (List Char)) : List (List Char) :=
  names.mergeSort fun a b => Bytes.precedesOrEqual (Bytes.ofChars a) (Bytes.ofChars b)

/-- The names of the files that a pattern stands for; the pattern's text if there are none.  Only
the last name of a path can be a pattern. -/
def fileNames (field : List Marked) : Run (List (List Char)) := do
  let text := field.map Prod.fst
  if !Pattern.isPattern field then return [text]
  let last := (field.reverse.takeWhile fun m => m.1 ≠ '/').reverse
  let directory := field.take (field.length - last.length)
  if Pattern.isPattern directory then return [text]
  let path := if directory.isEmpty then ['.'] else directory.map Prod.fst
  match ← Run.ask (.listDirectory (Bytes.textOfChars path)) with
  | .entries names =>
    let names := names.map Bytes.charsOfText
    let hidden := last.head?.map Prod.fst = some '.'
    let names := names.filter fun name =>
      (hidden || name.head? ≠ some '.') && Pattern.covers last name
    if names.isEmpty then return [text]
    return (sorted names).map fun name => directory.map Prod.fst ++ name
  | _ => return [text]

/-- Goes through fields and replaces patterns. -/
def replacePatterns : List (List Marked) → Run (List (List Char))
  | [] => return []
  | field :: rest => do
    let names ← fileNames field
    return names ++ (← replacePatterns rest)

/-- The fields of a word. -/
def expandWord (substitute : Substitute) (word : Word) : Run (List (List Char)) := do
  let pieces ← expandParts substitute depth word
  replacePatterns (fields (← Run.separators) pieces none [])

/-- The fields of several words. -/
def expandWords (substitute : Substitute) : List Word → Run (List (List Char))
  | [] => return []
  | word :: rest => do
    let first ← expandWord substitute word
    return first ++ (← expandWords substitute rest)

/-- The value of a word that is not split. -/
def expandText (substitute : Substitute) (word : Word) : Run (List Char) := do
  return flatten (← expandParts substitute depth word)

/-- The value of a word as a pattern. -/
def expandPattern (substitute : Substitute) (word : Word) : Run (List Marked) := do
  return toPattern (← expandParts substitute depth word)

end AlgorithmDriver.Shell.Expansion

/-!
# Patterns

A pattern is a text in which a star stands for any text, a question mark for any character, and a
list in brackets for one of its characters.  Quoted characters stand for themselves.
-/

namespace AlgorithmDriver.Shell

/-- A character of a pattern, and whether it is quoted. -/
abbrev Marked := Char × Bool

namespace Pattern

/-- Whether the character belongs to one of the ranges of a list in brackets. -/
def inRanges (c : Char) : List Char → Bool
  | a :: '-' :: b :: rest => (a ≤ c && c ≤ b) || inRanges c rest
  | a :: rest => a == c || inRanges c rest
  | [] => false

/-- The list in brackets at the start of a pattern, after the opening one, and what follows it. -/
def bracket? (pattern : List Marked) : Option (List Char × List Marked) :=
  let (first, rest) :=
    match pattern with
    | (c, _) :: rest => ([c], rest)
    | [] => ([], [])
  let more := rest.takeWhile fun m => m ≠ (']', false)
  if more.length = rest.length then none
  else some (first ++ more.map Prod.fst, rest.drop (more.length + 1))

/-- Whether a character is among those of a list in brackets, which may be excluded by a mark. -/
def inBracket (c : Char) : List Char → Bool
  | '!' :: list => !inRanges c list
  | '^' :: list => !inRanges c list
  | list => inRanges c list

/-- Whether a pattern stands for a text.  `fuel` bounds the number of comparisons. -/
def isMatch : (fuel : Nat) → List Marked → List Char → Bool
  | 0, _, _ => false
  | _ + 1, [], text => text.isEmpty
  | fuel + 1, ('*', false) :: pattern, text =>
    isMatch fuel pattern text ||
      match text with
      | [] => false
      | _ :: rest => isMatch fuel (('*', false) :: pattern) rest
  | _ + 1, _ :: _, [] => false
  | fuel + 1, ('?', false) :: pattern, _ :: rest => isMatch fuel pattern rest
  | fuel + 1, ('[', false) :: pattern, c :: rest =>
    match bracket? pattern with
    | some (list, pattern) => inBracket c list && isMatch fuel pattern rest
    | none => c = '[' && isMatch fuel pattern rest
  | fuel + 1, (p, _) :: pattern, c :: rest => p = c && isMatch fuel pattern rest

/-- Whether a pattern stands for a text. -/
def covers (pattern : List Marked) (text : List Char) : Bool :=
  isMatch (pattern.length + text.length + 2) pattern text

/-- Whether a text has characters that make it a pattern. -/
def isPattern (text : List Marked) : Bool :=
  text.any fun (c, quoted) => !quoted && (c = '*' || c = '?' || c = '[')

/-- Cuts off a beginning that a pattern stands for. -/
def cutStart (longest : Bool) (pattern : List Marked) (text : List Char) : List Char :=
  let sizes := List.range (text.length + 1)
  let sizes := if longest then sizes.reverse else sizes
  match sizes.find? fun n => covers pattern (text.take n) with
  | some n => text.drop n
  | none => text

/-- Cuts off an end that a pattern stands for. -/
def cutEnd (longest : Bool) (pattern : List Marked) (text : List Char) : List Char :=
  let sizes := List.range (text.length + 1)
  let sizes := if longest then sizes else sizes.reverse
  match sizes.find? fun n => covers pattern (text.drop n) with
  | some n => text.take n
  | none => text

end Pattern

end AlgorithmDriver.Shell

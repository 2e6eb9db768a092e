/-!
# Statements of the shell

What a shell script consists of once it has been read.  All texts are characters that stand for one
byte each.
-/

namespace AlgorithmDriver.Shell

/-- What stands on one side of a redirection. -/
inductive RedirectionKind where
  | input
  | output
  | append
  | readWrite
  /-- The descriptor named on the right, or none for a dash. -/
  | duplicate
  /-- The text itself. -/
  | document
  deriving DecidableEq, Repr

mutual

/-- A part of a word. -/
inductive Part where
  /-- Characters that stand for themselves; special ones only when they are not quoted. -/
  | text (chars : List Char) (quoted : Bool)
  | parameter (name : List Char) (change : Change) (quoted : Bool)
  /-- The output of a statement. -/
  | output (body : Statement) (quoted : Bool)
  | arithmetic (expression : List Part) (quoted : Bool)

/-- What is done with the value of a parameter.  `empty` says that an empty value counts as none. -/
inductive Change where
  | none
  | length
  | orElse (empty : Bool) (word : List Part)
  | assign (empty : Bool) (word : List Part)
  | alternative (empty : Bool) (word : List Part)
  | demand (empty : Bool) (word : List Part)
  | cutEnd (longest : Bool) (pattern : List Part)
  | cutStart (longest : Bool) (pattern : List Part)

/-- A redirection of a descriptor. -/
inductive Redirection where
  | mk (descriptor : Nat) (kind : RedirectionKind) (target : List Part)

/-- A statement. -/
inductive Statement where
  | nothing
  /-- A command with its assignments, its words and its redirections. -/
  | simple (line : Nat) (assignments : List (List Char × List Part)) (words : List (List Part))
      (redirections : List Redirection)
  | pipeline (negated : Bool) (commands : List Statement)
  | both (first second : Statement)
  | either (first second : Statement)
  | sequence (first second : Statement)
  | background (body : Statement)
  | subshell (body : Statement)
  | redirected (body : Statement) (redirections : List Redirection)
  | conditional (test body otherwise : Statement)
  /-- Repeats the body as long as the test has the given outcome. -/
  | loop (outcome : Bool) (test body : Statement)
  | forEach (name : List Char) (words : Option (List (List Part))) (body : Statement)
  | choose (subject : List Part) (arms : List (List (List Part) × Statement))
  | define (name : List Char) (body : Statement)

end

instance : Inhabited Statement := ⟨.nothing⟩

/-- A word. -/
abbrev Word := List Part

/-- Adds a character to the front of the parts that follow it. -/
def Part.cons (c : Char) (quoted : Bool) : List Part → List Part
  | .text chars q :: rest =>
    if q = quoted then .text (c :: chars) q :: rest else .text [c] quoted :: .text chars q :: rest
  | parts => .text [c] quoted :: parts

end AlgorithmDriver.Shell

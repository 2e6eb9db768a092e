/-!
# Pages

A template is a list of steps, which put texts on a page and say where lines end.  White space is not
written where a step asks for it, but before the next text.  So it does not matter how often a line is
ended, there is no white space at the beginning or the end of a page, and lines that are moved to the
right and back again with nothing in between were never moved.
-/

namespace AlgorithmDriver.Cpp

/-- A step of a template. -/
inductive Step where
  | text (s : String)
  /-- The next text begins a line. -/
  | push
  /-- The next text begins a line, with a blank line before it. -/
  | line
  /-- The next text begins a line, which is moved to the right by some levels, as are those that
  follow.  Lines move to the left when there are less than none. -/
  | shift (levels : Int)
  deriving DecidableEq, Repr

/-- Steps one after another, with a step between each two of them. -/
def joined (between : Step) : List (List Step) → List Step
  | [] => []
  | [steps] => steps
  | steps :: others => steps ++ between :: joined between others

/-- White space that is due before the next text. -/
inductive Space where
  | none
  | push
  | line
  deriving DecidableEq, Repr

/-- A page that is being written. -/
structure Page where
  /-- The lines that have ended. -/
  above : List String := []
  /-- The line that was begun last. -/
  here : Option String := none
  /-- How far that line was moved to the right. -/
  depth : Nat := 0
  space : Space := .none
  /-- How much further the next line is moved. -/
  change : Int := 0
  deriving DecidableEq, Repr

/-- Moves a line to the right by some levels. -/
def padded (depth : Nat) (line : String) : String :=
  String.ofList (List.replicate (4 * depth) ' ') ++ line

namespace Page

/-- The lines on the page. -/
def lines (p : Page) : List String := p.above ++ p.here.toList

/-- The blank lines before the next one. -/
def blanks (p : Page) : List String :=
  if p.here.isSome ∧ p.space = .line then [""] else []

/-- Begins a line. -/
def begin (p : Page) (s : String) : Page :=
  let depth := (p.depth + p.change).toNat
  { above := p.lines ++ p.blanks, here := some (padded depth s), depth }

/-- Puts a text on the page. -/
def write (p : Page) (s : String) : Page :=
  match p.here with
  | none => p.begin s
  | some line =>
    if p.change = 0 ∧ p.space = .none then { p with here := some (line ++ s) } else p.begin s

/-- Takes a step of a template. -/
def step (p : Page) : Step → Page
  | .text s => if s = "" then p else p.write s
  | .push => if p.space = .line then p else { p with space := .push }
  | .line => { p with space := .line }
  | .shift levels => { p with space := .none, change := p.change + levels }

/-- Takes steps one after another. -/
def run (p : Page) (steps : List Step) : Page := steps.foldl step p

end Page

/-- The lines that a template gives. -/
def layout (steps : List Step) : List String := (Page.run {} steps).lines

end AlgorithmDriver.Cpp

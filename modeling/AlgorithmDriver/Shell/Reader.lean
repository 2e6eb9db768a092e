import AlgorithmDriver.Shell.Statement

/-!
# Reading scripts

Reads the statements of a script, one line at a time: a line is read together with those that are
needed to complete its statements.  `fuel` bounds the depth of the recursion; each reader is given
more than it needs for the text at hand.
-/

namespace AlgorithmDriver.Shell

/-- Why no statement could be read. -/
inductive Trouble where
  /-- The text ends in the middle of a statement. -/
  | unfinished
  /-- Something stands in a line where it cannot stand. -/
  | unexpected (line : Nat) (what : String)
  deriving DecidableEq, Repr

/-- What is left to read. -/
structure Position where
  rest : List Char
  /-- The line in which the text ends. -/
  lastLine : Nat

/-- A reader of some piece of a script. -/
abbrev Parser := StateT Position (Except Trouble)

namespace Parser

/-! ## Characters -/

/-- The next character. -/
def peek : Parser (Option Char) := return (← get).rest.head?

/-- Passes over `count` characters. -/
def skip (count : Nat) : Parser Unit :=
  modify fun p => { p with rest := p.rest.drop count }

/-- The line that is being read. -/
def currentLine : Parser Nat := return (← get).lastLine - (← get).rest.count '\n'

/-- The text without blanks, joined lines and a comment at its start. -/
def afterBlanks : List Char → List Char
  | ' ' :: cs => afterBlanks cs
  | '\t' :: cs => afterBlanks cs
  | '\\' :: '\n' :: cs => afterBlanks cs
  | '#' :: cs => cs.dropWhile (· ≠ '\n')
  | cs => cs

/-- Passes over blanks. -/
def skipBlanks : Parser Unit := modify fun p => { p with rest := afterBlanks p.rest }

/-- Passes over blanks and line ends. -/
def skipLines : Nat → Parser Unit
  | 0 => return
  | fuel + 1 => do
    skipBlanks
    if (← peek) = some '\n' then
      skip 1
      skipLines fuel

/-- Whether the text goes on as given; passes over it if so. -/
def accept (text : String) : Parser Bool := do
  if text.toList.isPrefixOf (← get).rest then
    skip text.length
    return true
  return false

/-- A character that ends a word when it is not quoted. -/
def endsWord (c : Char) : Bool :=
  [' ', '\t', '\n', ';', '&', '|', '<', '>', '(', ')'].contains c

/-- A character that can begin a name. -/
def isNameStart (c : Char) : Bool := c.isAlpha || c = '_'

/-- A character of a name. -/
def isNamePart (c : Char) : Bool := c.isAlphanum || c = '_'

/-- A name at the start of a text. -/
def nameAt (cs : List Char) : List Char :=
  match cs with
  | c :: _ => if isNameStart c then cs.takeWhile isNamePart else []
  | [] => []

/-- What stands at the start of a text, for messages. -/
def describeNext (cs : List Char) : String :=
  match cs with
  | [] => "end of file unexpected"
  | '\n' :: _ => "newline unexpected"
  | cs =>
    let word := cs.takeWhile fun c => !endsWord c
    if word.isEmpty then
      let operator := cs.takeWhile endsWord |>.takeWhile fun c => c ≠ ' ' && c ≠ '\n'
      "\"" ++ String.ofList (operator.take 2) ++ "\" unexpected"
    else if word.length > 20 then "word unexpected"
    else "\"" ++ String.ofList word ++ "\" unexpected"

/-- Fails at the current position with a message. -/
def reject {α : Type} (what : String) : Parser α := do
  throw (.unexpected (← currentLine) what)

/-- Fails because of what comes next. -/
def refuse {α : Type} : Parser α := do
  match (← get).rest with
  | [] => throw .unfinished
  | cs => reject (describeNext cs)

/-! ## Reserved words -/

/-- The words with a meaning of their own at the start of a command. -/
def reserved : List String :=
  ["if", "then", "else", "elif", "fi", "do", "done", "case", "esac", "while", "until", "for",
   "\x7b", "\x7d", "!", "in"]

/-- The reserved word that comes next, after blanks. -/
def peekReserved : Parser (Option String) := do
  skipBlanks
  let word := String.ofList ((← get).rest.takeWhile fun c => !endsWord c)
  return if reserved.contains word then some word else none

/-- Passes over a reserved word. -/
def acceptReserved (word : String) : Parser Bool := do
  if (← peekReserved) = some word then
    skip word.length
    return true
  return false

/-- Demands a reserved word. -/
def expectReserved (word : String) : Parser Unit := do
  if !(← acceptReserved word) then refuse

/-! ## Words -/

/-- Where a word is being read. -/
inductive Context where
  | bare
  /-- Inside double quotes. -/
  | double
  /-- Inside the braces of a parameter, up to the closing one. -/
  | brace (quoted : Bool)
  /-- Inside an arithmetic expression, at a depth of parentheses. -/
  | arithmetic (depth : Nat)
  /-- A text on lines of its own. -/
  | document
  deriving DecidableEq, Repr

/-- Whether characters of a context count as quoted. -/
def Context.isQuoted : Context → Bool
  | .bare => false
  | .brace quoted => quoted
  | _ => true

/-- Whether a backslash before the character quotes it, where only some characters are special. -/
def isEscapable (context : Context) (c : Char) : Bool :=
  c = '$' || c = '\x60' || c = '\\' || (c = '"' && context ≠ .document) ||
    (c = '\x7d' && context = .brace true)

/-- The text between backquotes, up to the closing one, and what follows it. -/
def backquoted : List Char → Option (List Char × List Char)
  | [] => none
  | '\x60' :: cs => some ([], cs)
  | '\\' :: c :: cs =>
    (backquoted cs).map fun (body, rest) =>
      (if c = '$' || c = '\x60' || c = '\\' then c :: body else '\\' :: c :: body, rest)
  | c :: cs => (backquoted cs).map fun (body, rest) => (c :: body, rest)

/-- The lines up to the one that ends a document, and what follows it. -/
def documentLines (limit : List Char) (tabs : Bool) : Nat → List Char → List Char × List Char
  | 0, cs => ([], cs)
  | _, [] => ([], [])
  | fuel + 1, cs =>
    let cs := if tabs then cs.dropWhile (· = '\t') else cs
    let line := cs.takeWhile (· ≠ '\n')
    let rest := (cs.dropWhile (· ≠ '\n')).drop 1
    if line = limit then ([], rest)
    else
      let (more, rest) := documentLines limit tabs fuel rest
      (line ++ '\n' :: more, rest)

/-- The characters of a word without its quotes. -/
def plainText : Word → List Char
  | [] => []
  | .text chars _ :: rest => chars ++ plainText rest
  | _ :: rest => plainText rest

/-- Whether some part of a word is quoted. -/
def hasQuotes (word : Word) : Bool :=
  word.any fun
    | .text _ quoted => quoted
    | _ => false

/-- The descriptor that a redirection is about, when it is not written. -/
def standardDescriptor (kind : RedirectionKind) (input : Bool) : Nat :=
  match kind with
  | .input => 0
  | .readWrite => 0
  | .document => 0
  | .duplicate => if input then 0 else 1
  | _ => 1

/-- The kind of a redirection, with the number of characters that tell it after the first one, and
whether tabs are left out of the text of a document. -/
def redirectionKind (input : Bool) (more : List Char) : RedirectionKind × Nat × Bool :=
  if input then
    match more with
    | '<' :: '-' :: _ => (.document, 2, true)
    | '<' :: _ => (.document, 1, false)
    | '&' :: _ => (.duplicate, 1, false)
    | '>' :: _ => (.readWrite, 1, false)
    | _ => (.input, 0, false)
  else
    match more with
    | '>' :: _ => (.append, 1, false)
    | '&' :: _ => (.duplicate, 1, false)
    | '|' :: _ => (.output, 1, false)
    | _ => (.output, 0, false)

/-- The parameter at the start of the text in braces. -/
def parameterAt (cs : List Char) : List Char :=
  match cs with
  | c :: _ =>
    if c.isDigit then cs.takeWhile Char.isDigit
    else if isNameStart c then nameAt cs
    else if ['@', '*', '#', '?', '-', '$', '!'].contains c then [c]
    else []
  | [] => []

/-- One statement after another. -/
def follow (first second : Statement) : Statement :=
  match first, second with
  | .nothing, second => second
  | first, .nothing => first
  | first, second => .sequence first second

mutual

/-- The parts of a word, up to the end that its context gives it. -/
def parts : (fuel : Nat) → Context → Parser Word
  | 0, _ => throw .unfinished
  | fuel + 1, context => do
    match (← get).rest with
    | [] => if context = .bare || context = .document then return [] else throw .unfinished
    | c :: cs =>
      let quoted := context.isQuoted
      if context = .bare && endsWord c then return []
      else if context = .double && c = '"' then
        skip 1
        return []
      else if (match context with | .brace _ => true | _ => false) && c = '\x7d' then
        skip 1
        return []
      else if c = '\\' then escape fuel context cs
      else if c = '\'' && (context = .bare || context = .brace false) then
        let body := cs.takeWhile (· ≠ '\'')
        if body.length = cs.length then throw .unfinished
        skip (body.length + 2)
        return .text body true :: (← parts fuel context)
      else if c = '"' && context ≠ .document && !(context matches .arithmetic _) then
        skip 1
        let inner ← parts fuel .double
        return .text [] true :: inner ++ (← parts fuel context)
      else if c = '\x60' then
        match backquoted cs with
        | none => throw .unfinished
        | some (body, rest) =>
          modify fun p => { p with rest }
          match (program fuel).run { rest := body, lastLine := (← get).lastLine } with
          | .error e => throw e
          | .ok (statement, _) => return .output statement quoted :: (← parts fuel context)
      else if c = '$' then
        skip 1
        let part ← dollar fuel quoted
        return part :: (← parts fuel context)
      else
        match context with
        | .arithmetic depth =>
          if c = ')' then
            if depth = 0 then
              skip 1
              if ← accept ")" then return [] else refuse
            else
              skip 1
              return Part.cons c true (← parts fuel (.arithmetic (depth - 1)))
          else
            skip 1
            return Part.cons c true
              (← parts fuel (.arithmetic (if c = '(' then depth + 1 else depth)))
        | context =>
          skip 1
          return Part.cons c quoted (← parts fuel context)

/-- A backslash and what it quotes. -/
def escape : (fuel : Nat) → Context → List Char → Parser Word
  | 0, _, _ => throw .unfinished
  | fuel + 1, context, cs => do
    match cs with
    | [] =>
      skip 1
      return Part.cons '\\' true (← parts fuel context)
    | '\n' :: _ =>
      skip 2
      parts fuel context
    | c :: _ =>
      if context = .bare || context = .brace false || isEscapable context c then
        skip 2
        return Part.cons c true (← parts fuel context)
      else
        skip 1
        return Part.cons '\\' true (← parts fuel context)

/-- What follows a dollar sign. -/
def dollar : (fuel : Nat) → (quoted : Bool) → Parser Part
  | 0, _ => throw .unfinished
  | fuel + 1, quoted => do
    match (← get).rest with
    | '(' :: '(' :: _ =>
      skip 2
      return .arithmetic (← parts fuel (.arithmetic 0)) quoted
    | '(' :: _ =>
      skip 1
      let body ← statements fuel true
      skipBlanks
      if ← accept ")" then return .output body quoted else refuse
    | '\x7b' :: _ =>
      skip 1
      braced fuel quoted
    | c :: cs =>
      if isNameStart c then
        let name := nameAt (c :: cs)
        skip name.length
        return .parameter name .none quoted
      else if c.isDigit || ['@', '*', '#', '?', '-', '$', '!'].contains c then
        skip 1
        return .parameter [c] .none quoted
      else return .text ['$'] true
    | [] => return .text ['$'] true

/-- A parameter in braces, after the opening one. -/
def braced : (fuel : Nat) → (quoted : Bool) → Parser Part
  | 0, _ => throw .unfinished
  | fuel + 1, quoted => do
    let cs := (← get).rest
    let measured := parameterAt (cs.drop 1)
    if cs.head? = some '#' && !measured.isEmpty && cs[1 + measured.length]? = some '\x7d' then
      skip (2 + measured.length)
      return .parameter measured .length quoted
    let parameter := parameterAt cs
    if parameter.isEmpty then
      if cs.isEmpty then throw .unfinished else reject "Bad substitution"
    skip parameter.length
    changed fuel parameter quoted

/-- What is done with a parameter in braces, after its name. -/
def changed : (fuel : Nat) → (name : List Char) → (quoted : Bool) → Parser Part
  | 0, _, _ => throw .unfinished
  | fuel + 1, name, quoted => do
    let word := parts fuel (.brace quoted)
    match (← get).rest with
    | '\x7d' :: _ =>
      skip 1
      return .parameter name .none quoted
    | '%' :: '%' :: _ =>
      skip 2
      return .parameter name (.cutEnd true (← parts fuel (.brace false))) quoted
    | '%' :: _ =>
      skip 1
      return .parameter name (.cutEnd false (← parts fuel (.brace false))) quoted
    | '#' :: '#' :: _ =>
      skip 2
      return .parameter name (.cutStart true (← parts fuel (.brace false))) quoted
    | '#' :: _ =>
      skip 1
      return .parameter name (.cutStart false (← parts fuel (.brace false))) quoted
    | c :: d :: _ =>
      let empty := c = ':'
      let operator := if empty then d else c
      let change ← match operator with
        | '-' => pure Change.orElse
        | '=' => pure Change.assign
        | '+' => pure Change.alternative
        | '?' => pure Change.demand
        | _ => reject "Bad substitution"
      skip (if empty then 2 else 1)
      return .parameter name (change empty (← word)) quoted
    | _ => throw .unfinished

/-- A redirection, if one comes next. -/
def redirection? : (fuel : Nat) → Parser (Option Redirection)
  | 0 => throw .unfinished
  | fuel + 1 => do
    skipBlanks
    let cs := (← get).rest
    let digits := cs.takeWhile Char.isDigit
    match cs.drop digits.length with
    | c :: more =>
      if c = '<' || c = '>' then
        skip (digits.length + 1)
        let input := c = '<'
        let (kind, length, tabs) := redirectionKind input more
        skip length
        let descriptor :=
          if digits.isEmpty then standardDescriptor kind input
          else digits.foldl (fun n d => n * 10 + (d.toNat - 48)) 0
        skipBlanks
        let target ← parts fuel .bare
        if target.isEmpty then refuse
        if kind = .document then
          let cs := (← get).rest
          let line := cs.takeWhile (· ≠ '\n')
          let (body, rest) :=
            documentLines (plainText target) tabs (cs.length + 1)
              ((cs.dropWhile (· ≠ '\n')).drop 1)
          modify fun p => { p with rest := line ++ '\n' :: rest }
          if hasQuotes target then return some (.mk descriptor .document [.text body true])
          match (parts fuel .document).run { rest := body, lastLine := 0 } with
          | .error e => throw e
          | .ok (text, _) => return some (.mk descriptor .document text)
        return some (.mk descriptor kind target)
      else return none
    | [] => return none

/-- The redirections that follow a compound command. -/
def redirections : (fuel : Nat) → Parser (List Redirection)
  | 0 => throw .unfinished
  | fuel + 1 => do
    match ← redirection? fuel with
    | none => return []
    | some r => return r :: (← redirections fuel)

/-- The words up to the end of the command. -/
def wordList : (fuel : Nat) → Parser (List Word)
  | 0 => throw .unfinished
  | fuel + 1 => do
    skipBlanks
    let word ← parts fuel .bare
    if word.isEmpty then return [] else return word :: (← wordList fuel)

/-- The rest of a simple command. -/
def simple : (fuel : Nat) → (line : Nat) → List (List Char × Word) → List Word →
    List Redirection → Parser Statement
  | 0, _, _, _, _ => throw .unfinished
  | fuel + 1, line, assignments, words, reds => do
    match ← redirection? fuel with
    | some r => simple fuel line assignments words (reds ++ [r])
    | none =>
      let cs := (← get).rest
      let name := nameAt cs
      if words.isEmpty && !name.isEmpty && (cs.drop name.length).head? = some '=' then
        skip (name.length + 1)
        let value ← parts fuel .bare
        simple fuel line (assignments ++ [(name, value)]) words reds
      else if words.isEmpty && assignments.isEmpty && reds.isEmpty && !name.isEmpty &&
          (afterBlanks (cs.drop name.length)).head? = some '(' then
        skip name.length
        skipBlanks
        skip 1
        skipBlanks
        if !(← accept ")") then refuse
        skipLines fuel
        return .define name (← command fuel)
      else
        let word ← parts fuel .bare
        if word.isEmpty then
          if words.isEmpty && assignments.isEmpty && reds.isEmpty then refuse
          return .simple line assignments words reds
        else simple fuel line assignments (words ++ [word]) reds

/-- A statement in a construct, up to the reserved word that follows it. -/
def body : (fuel : Nat) → Parser Statement
  | 0 => throw .unfinished
  | fuel + 1 => do
    let inner ← statements fuel true
    match inner with
    | .nothing => refuse
    | inner => return inner

/-- A conditional, after its first word. -/
def conditional : (fuel : Nat) → Parser Statement
  | 0 => throw .unfinished
  | fuel + 1 => do
    let test ← body fuel
    expectReserved "then"
    let first ← body fuel
    if ← acceptReserved "elif" then return .conditional test first (← conditional fuel)
    let otherwise ← if ← acceptReserved "else" then body fuel else pure .nothing
    expectReserved "fi"
    return .conditional test first otherwise

/-- The alternatives of one arm of a choice. -/
def patterns : (fuel : Nat) → Parser (List Word)
  | 0 => throw .unfinished
  | fuel + 1 => do
    skipBlanks
    let pattern ← parts fuel .bare
    if pattern.isEmpty then refuse
    skipBlanks
    if ← accept "|" then return pattern :: (← patterns fuel)
    if ← accept ")" then return [pattern]
    refuse

/-- The arms of a choice. -/
def arms : (fuel : Nat) → Parser (List (List Word × Statement))
  | 0 => throw .unfinished
  | fuel + 1 => do
    skipLines fuel
    if ← acceptReserved "esac" then return []
    let _ ← accept "("
    let alternatives ← patterns fuel
    let inner ← statements fuel true
    skipBlanks
    if ← accept ";;" then return (alternatives, inner) :: (← arms fuel)
    expectReserved "esac"
    return [(alternatives, inner)]

/-- A command. -/
def command : (fuel : Nat) → Parser Statement
  | 0 => throw .unfinished
  | fuel + 1 => do
    let withRedirections (statement : Statement) : Parser Statement := do
      match ← redirections fuel with
      | [] => return statement
      | list => return .redirected statement list
    match ← peekReserved with
    | some "if" =>
      skip 2
      withRedirections (← conditional fuel)
    | some "while" =>
      skip 5
      let test ← body fuel
      expectReserved "do"
      let inner ← body fuel
      expectReserved "done"
      withRedirections (.loop true test inner)
    | some "until" =>
      skip 5
      let test ← body fuel
      expectReserved "do"
      let inner ← body fuel
      expectReserved "done"
      withRedirections (.loop false test inner)
    | some "for" =>
      skip 3
      skipBlanks
      let name := nameAt (← get).rest
      if name.isEmpty then refuse
      skip name.length
      skipLines fuel
      let words ← if ← acceptReserved "in" then some <$> wordList fuel else pure none
      skipBlanks
      let _ ← accept ";"
      skipLines fuel
      expectReserved "do"
      let inner ← body fuel
      expectReserved "done"
      withRedirections (.forEach name words inner)
    | some "case" =>
      skip 4
      skipBlanks
      let subject ← parts fuel .bare
      if subject.isEmpty then refuse
      skipLines fuel
      expectReserved "in"
      withRedirections (.choose subject (← arms fuel))
    | some "\x7b" =>
      skip 1
      let inner ← body fuel
      expectReserved "\x7d"
      withRedirections inner
    | some _ => refuse
    | none =>
      if (← peek) = some '(' then
        skip 1
        let inner ← body fuel
        skipBlanks
        if !(← accept ")") then refuse
        withRedirections (.subshell inner)
      else simple fuel (← currentLine) [] [] []

/-- The commands of a pipeline. -/
def commands : (fuel : Nat) → Parser (List Statement)
  | 0 => throw .unfinished
  | fuel + 1 => do
    let first ← command fuel
    skipBlanks
    let cs := (← get).rest
    if cs.head? = some '|' && cs[1]? ≠ some '|' then
      skip 1
      skipLines fuel
      return first :: (← commands fuel)
    return [first]

/-- A pipeline. -/
def pipeline : (fuel : Nat) → Parser Statement
  | 0 => throw .unfinished
  | fuel + 1 => do
    let negated ← acceptReserved "!"
    match negated, ← commands fuel with
    | false, [single] => return single
    | negated, list => return .pipeline negated list

/-- Pipelines joined by `&&` and `||`. -/
def chain : (fuel : Nat) → Statement → Parser Statement
  | 0, _ => throw .unfinished
  | fuel + 1, first => do
    skipBlanks
    if ← accept "&&" then
      skipLines fuel
      chain fuel (.both first (← pipeline fuel))
    else if ← accept "||" then
      skipLines fuel
      chain fuel (.either first (← pipeline fuel))
    else return first

/-- Statements one after another.  A `nested` list goes on over the ends of lines, up to something
that cannot begin a statement; any other ends with the line. -/
def statements : (fuel : Nat) → (nested : Bool) → Parser Statement
  | 0, _ => throw .unfinished
  | fuel + 1, nested => do
    if nested then skipLines fuel else skipBlanks
    match (← get).rest with
    | [] => return .nothing
    | '\n' :: _ =>
      skip 1
      return .nothing
    | c :: _ =>
      if nested then
        if c = ')' || c = ';' then return .nothing
        match ← peekReserved with
        | some word =>
          if ["then", "else", "elif", "fi", "do", "done", "esac", "\x7d"].contains word then
            return .nothing
        | none => pure ()
      let first ← chain fuel (← pipeline fuel)
      skipBlanks
      match (← get).rest with
      | ';' :: ';' :: _ => if nested then return first else refuse
      | ';' :: _ =>
        skip 1
        return follow first (← statements fuel nested)
      | '&' :: _ =>
        skip 1
        return follow (.background first) (← statements fuel nested)
      | '\n' :: _ =>
        skip 1
        if nested then return follow first (← statements fuel nested) else return first
      | [] => return first
      | _ => if nested then return first else refuse

/-- All statements of a text. -/
def program : (fuel : Nat) → Parser Statement
  | 0 => throw .unfinished
  | fuel + 1 => do
    let first ← statements fuel false
    if (← get).rest.isEmpty then return first
    return follow first (← program fuel)

end

end Parser

/-! ## Lines of a script -/

/-- What reading one line of a script gives. -/
inductive Line where
  /-- A statement, and what follows it. -/
  | statement (body : Statement) (rest : List Char)
  /-- More text is needed. -/
  | unfinished
  | wrong (line : Nat) (what : String)

/-- Reads the first line of a text with those that complete its statements. -/
def readLine (text : List Char) (lastLine : Nat) : Line :=
  match (Parser.statements (20 * text.length + 200) false).run { rest := text, lastLine } with
  | .ok (body, position) => .statement body position.rest
  | .error .unfinished => .unfinished
  | .error (.unexpected line what) => .wrong line what

end AlgorithmDriver.Shell

import AlgorithmDriver.Model.Error
import AlgorithmDriver.Number.Shortest
import AlgorithmDriver.Text.Quoted

/-!
# Problems of documents

What can be wrong with a JSON document that should describe a value.  A problem is of one of three
sorts: the document is well formed as far as it was read but does not describe a value, it is not
well formed, or it ends too early.  A problem of the first sort is reported with its line and
column, which are settled either where it is met or where the list or the structure around it is
left; the positions of the other two are left out.
-/

namespace AlgorithmDriver.Json

/-- What stands in a document where something else was expected. -/
inductive Found where
  | null
  | boolean (value : Bool)
  | integer (value : Int)
  | float (negative : Bool) (value : Binary64)
  | string (value : String)
  | sequence
  | map
  | unitVariant
  deriving DecidableEq, Repr

/-- The wording of what was found. -/
def Found.describe : Found → String
  | null => "null"
  | boolean true => "boolean `true`"
  | boolean false => "boolean `false`"
  | integer (.ofNat n) => "integer `" ++ Decimal.text n ++ "`"
  | integer (.negSucc n) => "integer `-" ++ Decimal.text (n + 1) ++ "`"
  | float negative value => "floating point `" ++ value.text negative ++ "`"
  | string value => "string " ++ Text.quoted value
  | sequence => "sequence"
  | map => "map"
  | unitVariant => "unit variant"

/-- The document does not describe a value of the expected sort. -/
inductive ContentProblem where
  | missingField (name : String)
  | duplicateField (name : String)
  | unknownVariant (name : String) (known : List String)
  | invalidType (found : Found) (expected : String)
  | invalidValue (found : Found) (expected : String)
  | invalidLength (length : Nat) (expected : String)
  /-- The description of an item is complete, but its collection refuses it. -/
  | refused (error : ModelError)
  deriving DecidableEq, Repr

/-- The known alternatives, as they are listed in a message. -/
def describeAlternatives : List String → String
  | [] => "there are no variants"
  | [a] => "expected `" ++ a ++ "`"
  | [a, b] => "expected `" ++ a ++ "` or `" ++ b ++ "`"
  | many => "expected one of " ++ ", ".intercalate (many.map fun a => "`" ++ a ++ "`")

/-- The wording of a problem with the content. -/
def ContentProblem.message : ContentProblem → String
  | missingField name => "missing field `" ++ name ++ "`"
  | duplicateField name => "duplicate field `" ++ name ++ "`"
  | unknownVariant name known =>
    "unknown variant `" ++ name ++ "`, " ++ describeAlternatives known
  | invalidType found expected =>
    "invalid type: " ++ found.describe ++ ", expected " ++ expected
  | invalidValue found expected =>
    "invalid value: " ++ found.describe ++ ", expected " ++ expected
  | invalidLength length expected =>
    "invalid length " ++ Decimal.text length ++ ", expected " ++ expected
  | refused error => error.message

/-- The document is not well formed. -/
inductive FormProblem where
  | expectedValue
  | expectedIdent
  | expectedColon
  | expectedListCommaOrEnd
  | expectedObjectCommaOrEnd
  | keyMustBeString
  | trailingComma
  | trailingCharacters
  | invalidNumber
  | numberOutOfRange
  | invalidEscape
  | loneSurrogate
  | unexpectedEndOfHexEscape
  | controlCharacter
  deriving DecidableEq, Repr

/-- The wording of a problem with the form. -/
def FormProblem.message : FormProblem → String
  | expectedValue => "expected value"
  | expectedIdent => "expected ident"
  | expectedColon => "expected `:`"
  | expectedListCommaOrEnd => "expected `,` or `]`"
  | expectedObjectCommaOrEnd => "expected `,` or `\x7d`"
  | keyMustBeString => "key must be a string"
  | trailingComma => "trailing comma"
  | trailingCharacters => "trailing characters"
  | invalidNumber => "invalid number"
  | numberOutOfRange => "number out of range"
  | invalidEscape => "invalid escape"
  | loneSurrogate => "lone leading surrogate in hex escape"
  | unexpectedEndOfHexEscape => "unexpected end of hex escape"
  | controlCharacter => "control character (\\u0000-\\u001F) found while parsing a string"

/-- What was being read when the document ended. -/
inductive Unfinished where
  | value
  | object
  | list
  | string
  deriving DecidableEq, Repr

/-- The wording of an early end. -/
def Unfinished.message : Unfinished → String
  | value => "EOF while parsing a value"
  | object => "EOF while parsing an object"
  | list => "EOF while parsing a list"
  | string => "EOF while parsing a string"

/-- The first problem met in a document. -/
inductive Problem where
  | content (problem : ContentProblem)
  | form (problem : FormProblem)
  | unfinished (what : Unfinished)
  deriving DecidableEq, Repr

/-- The wording of a problem. -/
def Problem.message : Problem → String
  | content problem => problem.message
  | form problem => problem.message
  | unfinished what => what.message

/-! ## Places -/

/-- The place of a problem, as what is left of the document there. -/
structure Place where
  /-- Whether the place is settled.  Until it is, it moves to the end of what is around it. -/
  settled : Bool
  left : List Char
  deriving DecidableEq, Repr

/-- Why nothing is read from a document: the first problem met, with the place of a problem with the
content. -/
inductive Failure where
  | content (problem : ContentProblem) (place : Place)
  | form (problem : FormProblem)
  | unfinished (what : Unfinished)
  deriving DecidableEq, Repr

namespace Failure

/-- The problem alone. -/
def problem : Failure → Problem
  | content problem _ => .content problem
  | form problem => .form problem
  | unfinished what => .unfinished what

/-- Settles the place of a problem, if it is not settled yet, by leaving what is around it. -/
def settle (leave : List Char → List Char) : Failure → Failure
  | content problem ⟨false, left⟩ => content problem ⟨true, leave left⟩
  | failure => failure

/-- Settling the place of a problem does not change the problem. -/
@[simp]
theorem problem_settle (leave : List Char → List Char) (failure : Failure) :
    (failure.settle leave).problem = failure.problem := by
  unfold settle
  split <;> rfl

end Failure

/-- A place in a document, as it is reported: the line, counted from 1, and how many bytes of the
line stand before the place. -/
structure Position where
  line : Nat
  column : Nat
  deriving DecidableEq, Repr

/-- The position behind the beginning of a document. -/
def Position.behind (beginning : List Char) : Position where
  line := 1 + beginning.count '\n'
  column := (String.ofList (beginning.reverse.takeWhile (· ≠ '\n'))).utf8ByteSize

/-- The position that is reported with a problem with the content of a document.  There is none when
nothing is around the problem that could have settled it. -/
def Failure.position? (document : List Char) : Failure → Option Position
  | content _ ⟨true, left⟩ => some (.behind (document.take (document.length - left.length)))
  | _ => none

end AlgorithmDriver.Json

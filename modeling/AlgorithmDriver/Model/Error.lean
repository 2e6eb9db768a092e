/-!
# Errors raised while a description is built

Every way in which an item can be refused by a collection, and the wording of each.
-/

namespace AlgorithmDriver

/-- Why an item may not enter, or be changed in, a collection of named items.
`kind` says what sort of item it is: a variable, a function, … -/
inductive ModelError where
  /-- Another item of the collection already has the name. -/
  | duplicateName (kind name : String)
  /-- The name is the empty text. -/
  | emptyName (kind : String)
  /-- The name is not an identifier of the generated language. -/
  | invalidName (kind name : String)
  /-- No item of the collection has the name. -/
  | undefined (kind name : String)
  /-- An array has a dimension of size zero. -/
  | zeroExtent (name : String)
  deriving DecidableEq, Repr, Inhabited

namespace ModelError

/-- The wording of an error. -/
def message : ModelError → String
  | duplicateName kind name => kind ++ " `" ++ name ++ "` is already defined"
  | emptyName kind => kind ++ " name cannot be empty"
  | invalidName kind name => kind ++ " name `" ++ name ++ "` is not a valid identifier"
  | undefined kind name => kind ++ " `" ++ name ++ "` is not defined"
  | zeroExtent name => "array `" ++ name ++ "` has a dimension of size zero"

end ModelError

end AlgorithmDriver

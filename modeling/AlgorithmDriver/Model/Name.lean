import AlgorithmDriver.Model.Error

/-!
# Names

A name can be used in a description when it can be written as an identifier of the generated
language: a letter or an underscore, then letters, digits and underscores (ASCII only), and not a
reserved word.
-/

namespace AlgorithmDriver

/-- The reserved words of the generated language. -/
def reservedWords : List String :=
  ["alignas", "alignof", "and", "and_eq", "asm", "auto", "bitand", "bitor", "bool", "break",
   "case", "catch", "char", "char8_t", "char16_t", "char32_t", "class", "compl", "concept",
   "const", "consteval", "constexpr", "constinit", "const_cast", "continue", "co_await",
   "co_return", "co_yield", "decltype", "default", "delete", "do", "double", "dynamic_cast",
   "else", "enum", "explicit", "export", "extern", "false", "float", "for", "friend", "goto",
   "if", "inline", "int", "long", "mutable", "namespace", "new", "noexcept", "not", "not_eq",
   "nullptr", "operator", "or", "or_eq", "private", "protected", "public", "register",
   "reinterpret_cast", "requires", "return", "short", "signed", "sizeof", "static",
   "static_assert", "static_cast", "struct", "switch", "template", "this", "thread_local",
   "throw", "true", "try", "typedef", "typeid", "typename", "union", "unsigned", "using",
   "virtual", "void", "volatile", "wchar_t", "while", "xor", "xor_eq"]

/-- A character that can begin an identifier. -/
def isNameStart (c : Char) : Bool :=
  c.isAlpha || c == '_'

/-- A character that can continue an identifier. -/
def isNamePart (c : Char) : Bool :=
  c.isAlphanum || c == '_'

/-- The spelling rule of identifiers: one starting character, then any number of continuing ones. -/
def isWord : List Char → Bool
  | [] => false
  | c :: cs => isNameStart c && cs.all isNamePart

/-- An identifier of the generated language: well spelled and not reserved. -/
def isIdentifier (name : String) : Bool :=
  isWord name.toList && !reservedWords.contains name

/-- Checks that an item of sort `kind` may be called `name`. -/
def checkName (kind name : String) : Except ModelError Unit :=
  if name = "" then .error (.emptyName kind)
  else if isIdentifier name then .ok ()
  else .error (.invalidName kind name)

/-- A name is accepted exactly when it is an identifier. -/
theorem checkName_eq_ok_iff {kind name : String} :
    checkName kind name = .ok () ↔ isIdentifier name = true := by
  unfold checkName
  by_cases h : name = ""
  · subst h
    simp [isIdentifier, isWord]
  · by_cases hi : isIdentifier name = true <;> simp [h, hi]

end AlgorithmDriver

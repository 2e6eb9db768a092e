/-!
# Powers

The powers that number formats are made of, as functions of their own.
-/

namespace AlgorithmDriver

/-- The power of two with a given exponent. -/
def twoTo (n : Nat) : Nat := Nat.pow 2 n

/-- The power of ten with a given exponent. -/
def tenTo (n : Nat) : Nat := Nat.pow 10 n

end AlgorithmDriver

import AlgorithmDriver.Model.Algorithm

/-!
# Sameness up to order of declaration

Two collections are the same when they hold the same items under the same names, whatever the order
of declaration; two values are the same when their parts are.  The order of the dimensions of an
array always counts.
-/

namespace AlgorithmDriver

/-- Same number of items, and every item of `a` has an item in `b` of the same name that `same`
relates to it. -/
def NamedList.sameBy {α : Type} (same : α → α → Bool) (a b : NamedList α) : Bool :=
  a.length == b.length && a.entries.all fun (name, item) =>
    match b.get? name with
    | none => false
    | some other => same item other

/-- Blocks hold the same variables. -/
def Block.same (a b : Block) : Bool := NamedList.sameBy (· == ·) a b

/-- Functions have the same name, result and parameters. -/
def Function.same (a b : Function) : Bool :=
  a.name == b.name && Block.same a.parameters b.parameters && a.result == b.result

/-- Algorithms have the same name and the same members of each sort. -/
def Algorithm.same (a b : Algorithm) : Bool :=
  a.name == b.name && Block.same a.data b.data &&
    NamedList.sameBy Function.same a.callbacks b.callbacks &&
    NamedList.sameBy Function.same a.functions b.functions

/-- Interfaces have the same name and the same algorithms. -/
def Interface.same (a b : Interface) : Bool :=
  a.name == b.name && NamedList.sameBy Algorithm.same a.algorithms b.algorithms

end AlgorithmDriver

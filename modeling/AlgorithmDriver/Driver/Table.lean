import AlgorithmDriver.Driver.Id

/-!
# Tables

A table maps ids to live resources.  Ids are issued in increasing order, starting at one, and never
again: neither removing an entry nor taking all of them out makes an id free.
-/

namespace AlgorithmDriver

/-- Live resources by id, in increasing order of id. -/
structure Table (resource : Resource) (α : Type) where
  /-- The number of the next id. -/
  next : Nat := 1
  /-- The live resources with their numbers. -/
  entries : List (Nat × α) := []
  deriving Repr

namespace Table

variable {resource : Resource} {α β : Type}

/-- The table of a driver that was just created. -/
def empty : Table resource α := {}

/-- The resource with the given id. -/
def get? (t : Table resource α) (id : Id resource) : Option α := t.entries.lookup id.raw

/-- Registers a resource under a fresh id. -/
def insert (t : Table resource α) (value : α) : Id resource × Table resource α :=
  (⟨t.next⟩, { next := t.next + 1, entries := t.entries ++ [(t.next, value)] })

/-- Changes the resource with the given id, if it is live. -/
def set (t : Table resource α) (id : Id resource) (value : α) : Table resource α :=
  { t with entries := t.entries.map fun (raw, old) => (raw, if raw = id.raw then value else old) }

/-- Takes the entry with the given id out of the table. -/
def remove (t : Table resource α) (id : Id resource) : Table resource α :=
  { t with entries := t.entries.filter fun (raw, _) => raw ≠ id.raw }

/-- The ids of the live resources, in increasing order. -/
def ids (t : Table resource α) : List (Id resource) := t.entries.map fun (raw, _) => ⟨raw⟩

/-- The live resources with their ids, in increasing order. -/
def toList (t : Table resource α) : List (Id resource × α) :=
  t.entries.map fun (raw, value) => (⟨raw⟩, value)

/-- Takes all entries out of the table. -/
def drain (t : Table resource α) : List (Id resource × α) × Table resource α :=
  (t.toList, { t with entries := [] })

/-- Changes every resource in increasing order of id, with a state that is handed on. -/
def mapAccum (f : β → Id resource → α → α × β) (state : β) (t : Table resource α) :
    Table resource α × β :=
  let rec go (state : β) : List (Nat × α) → List (Nat × α) × β
    | [] => ([], state)
    | (raw, value) :: rest =>
      let (value, state) := f state ⟨raw⟩ value
      let (rest, state) := go state rest
      ((raw, value) :: rest, state)
  let (entries, state) := go state t.entries
  ({ t with entries }, state)

end Table

end AlgorithmDriver

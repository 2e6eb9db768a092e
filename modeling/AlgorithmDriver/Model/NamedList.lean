import AlgorithmDriver.Model.Name

/-!
# Collections of named items

Every collection of a description (parameters, data, functions, algorithms) is found by name and
visited in the order in which its items were declared.  A `NamedList` keeps its items in that order,
each under the name that it had when it entered.

The main operations are `insert`, which adds an item after all the others, and `update`, which
changes an item in place.  Both let an item in only when `vet` accepts it, and leave the
collection alone otherwise.
-/

namespace AlgorithmDriver

/-- Items that have a name and can be checked on their own. -/
class Named (α : Type) where
  /-- What the item is, used in error messages. -/
  kind : String
  /-- The name of an item. -/
  name : α → String
  /-- The checks an item must pass whatever collection it enters. -/
  check : α → Except ModelError Unit

/-- Items in order of declaration, each filed under its name. -/
structure NamedList (α : Type) where
  /-- The items with the names under which they are filed. -/
  entries : List (String × α) := []
  deriving DecidableEq, Repr, Inhabited

namespace NamedList

variable {α : Type}

/-- The collection without items. -/
def empty : NamedList α := ⟨[]⟩

/-- The items, in order of declaration. -/
def toList (l : NamedList α) : List α := l.entries.map Prod.snd

/-- The names, in order of declaration. -/
def names (l : NamedList α) : List String := l.entries.map Prod.fst

/-- The number of items. -/
def length (l : NamedList α) : Nat := l.entries.length

/-- Whether there is no item. -/
def isEmpty (l : NamedList α) : Bool := l.entries.isEmpty

/-- The item called `name`. -/
def get? (l : NamedList α) (name : String) : Option α := l.entries.lookup name

/-- Whether an item is called `name`. -/
def contains (l : NamedList α) (name : String) : Bool := l.names.contains name

/-- The position of the item called `name`. -/
def position? (l : NamedList α) (name : String) : Option Nat :=
  l.names.findIdx? (· == name)

variable [Named α]

/-- Whether `item` may stand at position `place`, or at a new position when that is `none`: its
name must be usable, the item must pass its own checks, and no item elsewhere may have the name.
The first of these that fails is reported. -/
def vet (l : NamedList α) (item : α) (place : Option Nat) : Except ModelError Unit :=
  match checkName (Named.kind α) (Named.name item) with
  | .error e => .error e
  | .ok () =>
    match Named.check item with
    | .error e => .error e
    | .ok () =>
      match l.position? (Named.name item) with
      | none => .ok ()
      | some other =>
        if some other = place then .ok ()
        else .error (.duplicateName (Named.kind α) (Named.name item))

/-- Adds `item` after all the others. -/
def insert (l : NamedList α) (item : α) : Except ModelError (NamedList α) :=
  match l.vet item none with
  | .error e => .error e
  | .ok () => .ok ⟨l.entries ++ [(Named.name item, item)]⟩

/-- Takes out what stands at a position.  What follows moves up. -/
def removeAt (l : NamedList α) (place : Nat) : NamedList α := ⟨l.entries.eraseIdx place⟩

/-- Puts `item` at a position, under its name, which no other item has.  What stands there, and what
follows, moves down. -/
def insertAt (l : NamedList α) (place : Nat) (item : α) : NamedList α :=
  ⟨l.entries.insertIdx place (Named.name item, item)⟩

/-- Replaces the item called `name` by what `change` makes of it, in the same position.  The new
item is checked like one that enters, and may be called differently. -/
def update (l : NamedList α) (name : String) (change : α → α) : Except ModelError (NamedList α) :=
  match l.position? name, l.get? name with
  | some place, some item =>
    let item := change item
    match l.vet item (some place) with
    | .error e => .error e
    | .ok () => .ok ((l.removeAt place).insertAt place item)
  | _, _ => .error (.undefined (Named.kind α) name)

/-- Adds the items one by one, until one is refused. -/
def insertAll (l : NamedList α) : List α → Except ModelError (NamedList α)
  | [] => .ok l
  | item :: items =>
    match l.insert item with
    | .error e => .error e
    | .ok l => l.insertAll items

/-- The collection of the given items, in their order. -/
def ofList (items : List α) : Except ModelError (NamedList α) :=
  empty.insertAll items

end NamedList

end AlgorithmDriver

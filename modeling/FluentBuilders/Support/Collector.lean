/-
  Collectors — elements gathered in a container of a chosen kind.

  A container is given by the list of its items in the order in which it is gone through.  The
  three sequences keep everything; an index set keeps the first of equal items in the order of
  insertion; a tree set is ascending.  A hash set has no order of its own, so its items are listed
  in ascending order.

  Sets have to compare their items.  A sequence takes items of any type, so there is a collector for
  sequences that asks nothing of them (`Sequence`).
-/

namespace FluentBuilders.Support

/-- A kind of container. -/
inductive Container
  | vec
  | vecDeque
  | linkedList
  | indexSet
  | treeSet
  | hashSet
  deriving DecidableEq, Repr

namespace Container

/-- Whether a container holds an item at most once. -/
def isSet : Container → Bool
  | .vec | .vecDeque | .linkedList => false
  | .indexSet | .treeSet | .hashSet => true

/-- The items of a sequence after another one was added at its end. -/
def append {α : Type} (items : List α) (x : α) : List α := items ++ [x]

variable {α : Type} [DecidableEq α] [LT α] [DecidableLT α]

/-- An ascending list with an item at its place, unless it is there. -/
def insertAscending (x : α) : List α → List α
  | [] => [x]
  | y :: ys =>
    if x = y then y :: ys
    else if x < y then x :: y :: ys
    else y :: insertAscending x ys

/-- The items of a container after another one was added. -/
def insert (k : Container) (items : List α) (x : α) : List α :=
  match k with
  | .vec | .vecDeque | .linkedList => append items x
  | .indexSet => if x ∈ items then items else items ++ [x]
  | .treeSet | .hashSet => insertAscending x items

/-- The items of a container to which a list was added. -/
def ofList (k : Container) (xs : List α) : List α := xs.foldl k.insert []

/-- Whether two lists are the items of equal containers.  Sets are equal if they hold the same
    items, in whatever order. -/
def same (k : Container) (xs ys : List α) : Bool :=
  if k.isSet then xs.all (· ∈ ys) && ys.all (· ∈ xs) else xs == ys

end Container

/-- Elements gathered in a container. -/
structure Collector (α : Type) where
  container : Container
  items : List α := []
  deriving DecidableEq, Repr

namespace Collector

variable {α : Type} [DecidableEq α] [LT α] [DecidableLT α]

/-- Adds an element. -/
def push (c : Collector α) (x : α) : Collector α :=
  { c with items := c.container.insert c.items x }

/-- Adds elements one after the other. -/
def pushAll (c : Collector α) (xs : List α) : Collector α := xs.foldl push c

/-- The items in a container of another kind. -/
def into (c : Collector α) (k : Container) : List α := k.ofList c.items

end Collector

/-- Elements gathered in a sequence, which need not be comparable. -/
structure Sequence (α : Type) extends Collector α where
  isSequence : container.isSet = false := by rfl
  deriving DecidableEq, Repr

namespace Sequence

variable {α : Type}

/-- Adds an element. -/
def push (s : Sequence α) (x : α) : Sequence α :=
  { s with items := Container.append s.items x }

/-- Adds elements one after the other. -/
def pushAll (s : Sequence α) (xs : List α) : Sequence α := xs.foldl push s

/-- The items in another sequence. -/
def into (s : Sequence α) : List α := s.items.foldl Container.append []

end Sequence

end FluentBuilders.Support

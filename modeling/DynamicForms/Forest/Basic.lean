import DynamicForms.Dictionary
import DynamicForms.Schema.Field

/-!
# Forests

The fields of a module arranged as trees.  The nodes stand in an array in the order in which
their fields are declared and refer to each other by their places in it; a dictionary leads from
an id to the place of its node.  `Forest.depthFirst` walks all nodes in the order of display, each
before its children.
-/

set_option autoImplicit false

namespace DynamicForms

/-- A field in its place. -/
structure Node where
  field : Field
  /-- The place of the field among the declarations of the module. -/
  position : Nat
  parent : Option Nat
  /-- The children in the order of display. -/
  children : List Nat
  /-- The number of ancestors. -/
  depth : Nat
  /-- The ids from the root down to the field, points between them. -/
  path : String
deriving Repr

/-- What had to be mended while a forest was built, as ids of fields. -/
structure Diagnostics where
  /-- Fields whose parent does not exist, in the order of declaration. -/
  orphans : List String
  /-- Ids that are declared more than once. -/
  duplicates : List String
  /-- Fields whose parent was dropped to break a cycle. -/
  cycleBreaks : List String
deriving DecidableEq, Repr

/-- Whether nothing had to be mended. -/
def Diagnostics.isClean (d : Diagnostics) : Bool :=
  d.orphans.isEmpty && d.duplicates.isEmpty && d.cycleBreaks.isEmpty

/-- The fields of a module as trees. -/
structure Forest where
  nodes : Array Node
  /-- The place of the node of every id. -/
  lookup : Dictionary Nat
  /-- The roots in the order of display. -/
  roots : List Nat
  diagnostics : Diagnostics
deriving Repr

namespace Forest

/-- The number of nodes. -/
def size (forest : Forest) : Nat := forest.nodes.size

/-- The children of a node in the order of display. -/
def children (forest : Forest) (i : Nat) : List Nat :=
  match forest.nodes[i]? with
  | none => []
  | some node => node.children

def parent? (forest : Forest) (i : Nat) : Option Nat := forest.nodes[i]?.bind Node.parent

/-- The place of the node of an id. -/
def indexOf? (forest : Forest) (id : String) : Option Nat := forest.lookup.get? id

def find? (forest : Forest) (id : String) : Option Node :=
  (forest.indexOf? id).bind fun i => forest.nodes[i]?

/-- Whether some node has an id. -/
def contains (forest : Forest) (id : String) : Bool := forest.lookup.contains id

/-- Walks from the nodes on a stack, each before its children; `fuel` bounds the number of nodes
that are met. -/
def walk (forest : Forest) : (fuel : Nat) → (stack : List Nat) → List Nat
  | 0, _ => []
  | _ + 1, [] => []
  | fuel + 1, i :: stack => i :: forest.walk fuel (forest.children i ++ stack)

/-- The places of all nodes in the order of display. -/
def depthFirst (forest : Forest) : List Nat := forest.walk forest.size forest.roots

/-- All nodes in the order of display. -/
def nodesInOrder (forest : Forest) : List Node :=
  forest.depthFirst.filterMap fun i => forest.nodes[i]?

/-- The ancestors of a node from the nearest on; `fuel` bounds their number. -/
def ancestorsUpTo (forest : Forest) : (fuel : Nat) → Nat → List Nat
  | 0, _ => []
  | fuel + 1, i =>
    match forest.parent? i with
    | none => []
    | some p => p :: forest.ancestorsUpTo fuel p

/-- The ancestors of a node from the nearest on. -/
def ancestors (forest : Forest) (i : Nat) : List Nat := forest.ancestorsUpTo forest.size i

def idAt? (forest : Forest) (i : Nat) : Option String := forest.nodes[i]?.map (·.field.id)

/-- The ids of some nodes. -/
def idsAt (forest : Forest) (is : List Nat) : List String := is.filterMap forest.idAt?

end Forest

end DynamicForms

import DynamicForms.Forest.Basic
import DynamicForms.Forest.Cycles

/-!
# Building a forest

A forest is built from any module, however broken.  Of several declarations of an id the last one
is kept.  A field whose parent does not exist becomes a root, and every cycle of parents is broken
by making the member a root that is declared first.  Roots and children are ordered by their
`order`, ties by declaration.  Depths and paths are given by a walk from the roots down.  What had
to be mended is told by the diagnostics.
-/

set_option autoImplicit false

namespace DynamicForms

/-- A field with its place among the declarations. -/
abbrev Declaration := Field × Nat

/-- The declarations that no later one of the same id replaces. -/
def keptOf : List Declaration → List Declaration
  | [] => []
  | d :: rest => if rest.any fun e => e.1.id == d.1.id then keptOf rest else d :: keptOf rest

/-- The declarations a module's forest is built of. -/
def Module.kept (m : Module) : List Declaration := keptOf m.fields.zipIdx

/-- The ids that occur a second time after some others, in the order of that occurrence. -/
def repeatedAfter : (before ids : List String) → List String
  | _, [] => []
  | before, id :: ids =>
    if before.count id = 1 then id :: repeatedAfter (id :: before) ids
    else repeatedAfter (id :: before) ids

/-- The ids that are declared more than once, each once, in the order in which they are declared
for the second time. -/
def Module.duplicates (m : Module) : List String := repeatedAfter [] (m.fields.map (·.id))

/-- The place of every id among the declarations. -/
def lookupOf (kept : List Declaration) : Dictionary Nat :=
  .ofList (kept.zipIdx.map fun (d, i) => (d.1.id, i))

/-- The parent of each declaration, as a place among the declarations. -/
def parentsOf (kept : List Declaration) (lookup : Dictionary Nat) : Parents :=
  (kept.map fun d => d.1.parent.bind lookup.get?).toArray

/-- The ids of the declarations whose parent is not declared. -/
def orphansOf (kept : List Declaration) (lookup : Dictionary Nat) : List String :=
  (kept.filter fun d => d.1.parent.any fun p => !lookup.contains p).map (·.1.id)

namespace Parents

/-- The members that are made roots, of each cycle the smallest. -/
def breaks (parents : Parents) : List Nat := parents.findCycles.filterMap List.min?

/-- The parents with one member of each cycle made a root. -/
def broken (parents : Parents) : Parents :=
  let breaks := parents.breaks
  parents.mapIdx fun i p => if breaks.contains i then none else p

end Parents

/-- Some places in the order of their fields' `order`; ties keep their order. -/
def sortByOrder (kept : Array Declaration) (is : List Nat) : List Nat :=
  let key (i : Nat) : Int := (kept[i]?.map fun d => d.1.order.toInt).getD 0
  is.mergeSort fun i j => key i ≤ key j

/-- The places with a given parent, or those without one, in the order of display. -/
def childrenOf (kept : Array Declaration) (parents : Parents) (parent : Option Nat) : List Nat :=
  sortByOrder kept ((List.range parents.size).filter fun i => parents.parent? i == parent)

/-- The nodes of the declarations, linked but without depths and paths. -/
def linkedNodes (kept : Array Declaration) (parents : Parents) : Array Node :=
  kept.mapIdx fun i d =>
    { field := d.1
      position := d.2
      parent := parents.parent? i
      children := childrenOf kept parents (some i)
      depth := 0
      path := "" }

/-- A node with its depth, and with a path given by what comes before the node's id. -/
def Node.placed (depth : Nat) (start : String) (node : Node) : Node :=
  { node with depth := depth, path := start ++ node.field.id }

/-- Places some nodes at a depth, with the same start of their paths. -/
def placeAt (depth : Nat) (start : String) (nodes : Array Node) (is : List Nat) : Array Node :=
  is.foldl (fun nodes i => nodes.modify i (Node.placed depth start)) nodes

/-- Walks down from the nodes on a stack, which are placed, and places those below; `fuel` bounds
the number of nodes that are met. -/
def placeBelow : (fuel : Nat) → (stack : List Nat) → Array Node → Array Node
  | 0, _, nodes => nodes
  | _ + 1, [], nodes => nodes
  | fuel + 1, i :: stack, nodes =>
    match nodes[i]? with
    | none => placeBelow fuel stack nodes
    | some node =>
      placeBelow fuel (node.children.reverse ++ stack)
        (placeAt (node.depth + 1) (node.path ++ ".") nodes node.children)

/-- Places all nodes from the roots down. -/
def place (nodes : Array Node) (roots : List Nat) : Array Node :=
  placeBelow nodes.size roots.reverse (placeAt 0 "" nodes roots)

/-- The forest of a module. -/
def Forest.build (m : Module) : Forest :=
  let declarations := m.kept
  let kept := declarations.toArray
  let lookup := lookupOf declarations
  let linked := parentsOf declarations lookup
  let parents := linked.broken
  let roots := childrenOf kept parents none
  { nodes := place (linkedNodes kept parents) roots
    lookup := lookup
    roots := roots
    diagnostics :=
      { orphans := orphansOf declarations lookup
        duplicates := m.duplicates
        cycleBreaks := linked.breaks.filterMap fun i => kept[i]?.map (·.1.id) } }

end DynamicForms

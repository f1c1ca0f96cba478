import DynamicForms.Yaml.Token

/-!
# YAML nodes

The tree that YAML text describes: scalars, sequences and mappings, and aliases, which stand for
a node that carries an anchor.  Anchors are kept as the numbers of slots.  A slot may be taken
again by a later node, and may hold a node that contains the alias; `anchored` lists what the
slots hold in the order in which they are filled.
-/

set_option autoImplicit false

namespace DynamicForms.Yaml

/-- What may stand before the content of a node. -/
structure Properties where
  /-- The slot that the anchor fills. -/
  slot : Option Nat := none
  /-- The full name of the tag. -/
  tag : Option (List Char) := none

/-- A node. -/
inductive Node where
  | alias (slot : Nat)
  | scalar (properties : Properties) (style : ScalarStyle) (text : List Char)
  | sequence (properties : Properties) (items : List Node)
  | mapping (properties : Properties) (entries : List (Node × Node))

namespace Node

/-- The node that stands where nothing is written. -/
def empty : Node := .scalar {} .plain []

mutual
/-- The size of a node: one for a scalar or an alias, and two besides its content for a
collection. -/
def size : Node → Nat
  | .alias _ => 1
  | .scalar .. => 1
  | .sequence _ items => itemsSize items + 2
  | .mapping _ entries => entriesSize entries + 2

/-- The size of items. -/
def itemsSize : List Node → Nat
  | [] => 0
  | node :: rest => node.size + itemsSize rest

/-- The size of entries. -/
def entriesSize : List (Node × Node) → Nat
  | [] => 0
  | (key, value) :: rest => key.size + value.size + entriesSize rest
end

/-- The slot that a node fills. -/
def slot? : Node → Option Nat
  | .alias _ => none
  | .scalar p .. => p.slot
  | .sequence p _ => p.slot
  | .mapping p _ => p.slot

mutual
/-- The slots that a node and those below it fill, and what with. -/
def anchored (node : Node) : List (Nat × Node) :=
  (node.slot?.map fun slot => (slot, node)).toList ++
    match node with
    | .alias _ => []
    | .scalar .. => []
    | .sequence _ items => anchoredItems items
    | .mapping _ entries => anchoredEntries entries

/-- The slots that items fill. -/
def anchoredItems : List Node → List (Nat × Node)
  | [] => []
  | node :: rest => node.anchored ++ anchoredItems rest

/-- The slots that entries fill. -/
def anchoredEntries : List (Node × Node) → List (Nat × Node)
  | [] => []
  | (key, value) :: rest => key.anchored ++ value.anchored ++ anchoredEntries rest
end

end Node

end DynamicForms.Yaml

import DynamicForms.Forest.Build
import DynamicForms.Forest.Metrics
import DynamicForms.Json.Printer

/-!
# Showing forests

A forest as text, one line for each field and then the metrics, and as a JSON value.
-/

set_option autoImplicit false

namespace DynamicForms

open Json

/-! ## As JSON -/

/-- A number that counts something; none is too large in practice, and the greatest that fits
stands for those. -/
def countToJson (n : Nat) : Value :=
  if fits : FitsWord n then .number (.whole n fits)
  else .number (.whole 18446744073709551615 (by decide))

def Diagnostics.toJson (d : Diagnostics) : Value :=
  .object [("orphans", .array (d.orphans.map .string)),
    ("duplicates", .array (d.duplicates.map .string)),
    ("cycle_breaks", .array (d.cycleBreaks.map .string))]

def Metrics.toJson (m : Metrics) : Value :=
  .object [("total_fields", countToJson m.totalFields), ("root_fields", countToJson m.rootFields),
    ("max_depth", countToJson m.maxDepth), ("average_depth", .number (.real m.averageDepth)),
    ("conditional_fields", countToJson m.conditionalFields),
    ("linked_fields", countToJson m.linkedFields),
    ("complexity_score", countToJson m.complexity)]

namespace Forest

def nodeToJson (forest : Forest) (node : Node) : Value :=
  .object ([("id", .string node.field.id), ("kind", .string node.field.kind.name),
    ("depth", countToJson node.depth), ("path", .string node.path)] ++
    match node.parent.bind forest.idAt? with
    | none => []
    | some parent => [("parent", .string parent)])

def toJson (forest : Forest) (moduleId : String) : Value :=
  .object [("module", .string moduleId),
    ("tree", .array (forest.nodesInOrder.map forest.nodeToJson)),
    ("metrics", forest.metrics.toJson), ("diagnostics", forest.diagnostics.toJson)]

/-! ## As text -/

/-- The line of a node: it is indented by its depth, a star marks required fields. -/
def nodeLine (node : Node) : String :=
  let conditions := node.field.conditions.length
  String.ofList (List.replicate (2 * (node.depth + 1)) ' ') ++ node.field.id ++
    " (" ++ node.field.kind.name ++ ")" ++
    (if node.field.required then " *" else "") ++
    (if conditions = 0 then "" else " [" ++ toString conditions ++ " condition(s)]") ++ "\n"

/-- A line with ids, unless there are none. -/
def idsLine (title : String) (ids : List String) : String :=
  if ids.isEmpty then "" else title ++ ": " ++ ", ".intercalate ids ++ "\n"

/-- A forest on lines, with the id of its module. -/
def text (forest : Forest) (moduleId : String) : String :=
  let m := forest.metrics
  let d := forest.diagnostics
  "module " ++ moduleId ++ "\n" ++ String.join (forest.nodesInOrder.map nodeLine) ++ "\n" ++
    "fields:       " ++ toString m.totalFields ++ " (" ++ toString m.rootFields ++ " root)\n" ++
    "max depth:    " ++ toString m.maxDepth ++ "\n" ++
    "avg depth:    " ++ String.ofList (Number.twoPlaces m.averageDepth.units) ++ "\n" ++
    "linked:       " ++ toString m.linkedFields ++ "\n" ++
    "conditional:  " ++ toString m.conditionalFields ++ "\n" ++
    "complexity:   " ++ toString m.complexity ++ "\n" ++
    idsLine "orphans" d.orphans ++ idsLine "duplicates" d.duplicates ++
    idsLine "cycle breaks" d.cycleBreaks

end Forest

end DynamicForms

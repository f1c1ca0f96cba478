import DynamicForms.Forest.Cycles
import DynamicForms.Json.Printer
import DynamicForms.Schema.Config
import DynamicForms.Structure.Issue

/-!
# Structure reports

Checking a module without building its forest.  Errors are ids that are declared twice, parents
that do not exist or are the field itself, and cycles of parents; warnings are conditions that can
hardly be meant, bounds that exclude each other and, if a limit is set, deep nesting.  A parent's
id stands for its last declaration, but every declaration is checked.
-/

set_option autoImplicit false

namespace DynamicForms

/-- The issues of a module. -/
structure Report where
  errors : List Issue
  warnings : List Issue
deriving DecidableEq, Repr

namespace Structure

/-- The errors for ids that are declared more than once, given the ids before, each at its second
declaration. -/
def duplicateErrors : (before ids : List String) → List Issue
  | _, [] => []
  | before, id :: ids =>
    if before.count id = 1 then ⟨id, .duplicateId⟩ :: duplicateErrors (id :: before) ids
    else duplicateErrors (id :: before) ids

/-- The place of the last declaration of an id. -/
def lastIndexOf? (ids : List String) (id : String) : Option Nat :=
  (ids.reverse.idxOf? id).map fun i => ids.length - 1 - i

/-- The parent of a declaration that is neither missing nor the declaration's own id. -/
def usableParent? (ids : List String) (f : Field) : Option Nat :=
  f.parent.bind fun p => if p = f.id then none else lastIndexOf? ids p

/-- The parent of every declaration. -/
def parentsOfAll (fields : List Field) : Parents :=
  (fields.map (usableParent? (fields.map (·.id)))).toArray

/-- The error for a parent that is missing or the declaration's own id. -/
def parentErrors (ids : List String) (f : Field) : List Issue :=
  match f.parent with
  | none => []
  | some p =>
    if p = f.id then [⟨f.id, .selfParent⟩]
    else if ids.contains p then []
    else [⟨f.id, .unresolvedParent p⟩]

/-- The error for a cycle, at its member that is declared first. -/
def cycleErrors (ids : Array String) (cycle : List Nat) : List Issue :=
  match cycle.min?.bind (ids[·]?) with
  | none => []
  | some id => [⟨id, .parentCycle (cycle.filterMap (ids[·]?))⟩]

/-- The warnings for a condition of a field. -/
def conditionWarnings (ids : List String) (id : String) (c : Condition) : List Issue :=
  (if c.trigger = id then [⟨id, .selfTrigger c.action⟩]
    else if ids.contains c.trigger then []
    else [⟨id, .unknownTrigger c.trigger⟩]) ++
  if c.operator.needsComparisonValue && c.value.isNone then
    [⟨id, .missingComparisonValue c.operator⟩]
  else []

/-- The warning for bounds that exclude each other. -/
def lengthWarnings (f : Field) : List Issue :=
  match f.minLength, f.maxLength with
  | some min, some max => if max < min then [⟨f.id, .lengthBoundsInverted min max⟩] else []
  | _, _ => []

/-- The warnings for a declaration on its own. -/
def fieldWarnings (ids : List String) (f : Field) : List Issue :=
  f.conditions.flatMap (conditionWarnings ids f.id) ++ lengthWarnings f

/-- The warnings for declarations that are nested too deeply. -/
def depthWarnings (parents : Parents) (limit : Option UInt64) (ids : List String) : List Issue :=
  match limit with
  | none => []
  | some limit =>
    ids.zipIdx.flatMap fun (id, i) =>
      let depth := parents.height i
      if limit.toNat < depth then [⟨id, .deepNesting depth limit⟩] else []

end Structure

open Structure in
/-- Checks the structure of a module. -/
def Module.check (m : Module) (config : Config) : Report :=
  let ids := m.fields.map (·.id)
  let parents := parentsOfAll m.fields
  { errors :=
      duplicateErrors [] ids ++ m.fields.flatMap (parentErrors ids) ++
        parents.findCycles.flatMap (cycleErrors ids.toArray)
    warnings :=
      m.fields.flatMap (fieldWarnings ids) ++ depthWarnings parents config.maxDepthWarning ids }

namespace Report

/-- Whether there are no errors; warnings do not count. -/
def isValid (report : Report) : Bool := report.errors.isEmpty

/-- How many errors and how many warnings are of a kind. -/
def count (report : Report) (kind : FindingKind) : Nat × Nat :=
  let of (issues : List Issue) := (issues.filter fun issue => issue.finding.kind = kind).length
  (of report.errors, of report.warnings)

/-- A report on lines, and a last line that sums it up for the module of an id. -/
def text (report : Report) (moduleId : String) : String :=
  String.join (report.errors.map fun issue => "error   " ++ issue.text ++ "\n") ++
  String.join (report.warnings.map fun issue => "warning " ++ issue.text ++ "\n") ++
  moduleId ++ ": " ++ (if report.isValid then "OK" else "FAIL") ++ " (" ++
  toString report.errors.length ++ " error(s), " ++
  toString report.warnings.length ++ " warning(s))\n"

end Report

def Issue.toJson (issue : Issue) : Json.Value :=
  .object [("kind", .string issue.finding.code), ("field_id", .string issue.field),
    ("message", .string issue.message)]

def Report.toJson (report : Report) : Json.Value :=
  .object [("errors", .array (report.errors.map Issue.toJson)),
    ("warnings", .array (report.warnings.map Issue.toJson))]

end DynamicForms

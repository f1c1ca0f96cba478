import DynamicForms.Schema.Reading
import DynamicForms.Schema.Writing
import DynamicForms.Schema.YamlReading

/-!
# Descriptors in files

Files hold JSON or YAML, as their paths tell.  A file is given by its path and its text, which is
missing if the file cannot be read as text.  Settings have to make sense to be loaded.
-/

set_option autoImplicit false

namespace DynamicForms

/-- The parts of a path between slashes; empty ones and points for the present directory do not
count. -/
def pathParts (path : String) : List String :=
  ((path.toList.splitOn '/').map String.ofList).filter fun part => part != "" && part != "."

/-- The name of the file that a path leads to, even if slashes follow it. -/
def fileName? (path : String) : Option String :=
  match (pathParts path).getLast? with
  | some ".." => none
  | name => name

/-- What follows the last point of a file's name, unless the name starts there. -/
def extension? (name : String) : Option String :=
  let (ending, start) := name.toList.reverse.span (· != '.')
  if start.length ≤ 1 then none else some (String.ofList ending.reverse)

/-- Whether a path leads to a file that holds YAML. -/
def isYamlPath (path : String) : Bool :=
  match (fileName? path).bind extension? with
  | some "yaml" | some "yml" => true
  | _ => false

/-- Why nothing can be loaded from a file. -/
inductive FileFault where
  | unreadable
  | json (fault : Json.Fault)
  | yaml
  | refused (problem : SchemaProblem)
deriving DecidableEq, Repr

/-- What was loaded. -/
abbrev Loaded (α : Type) := Except FileFault α

/-- Loads a YAML text. -/
def loadYaml {α : Type} : Option α → Loaded α
  | some a => .ok a
  | none => .error .yaml

/-- Loads a JSON text. -/
def loadJson {α : Type} (decoded : Json.Decoded α) : Loaded α := decoded.mapError .json

/-- Loads a file in the format that its path tells. -/
def loadFile {α : Type} (ofJson : String → Json.Decoded α) (ofYaml? : String → Option α)
    (path : String) (text : Option String) : Loaded α :=
  match text with
  | none => .error .unreadable
  | some text => if isYamlPath path then loadYaml (ofYaml? text) else loadJson (ofJson text)

/-- Loads a module from a file. -/
def Module.ofFile (path : String) (text : Option String) : Loaded Module :=
  loadFile Module.ofJson Module.ofYaml? path text

/-- Loads a form from a file. -/
def Form.ofFile (path : String) (text : Option String) : Loaded Form :=
  loadFile Form.ofJson Form.ofYaml? path text

/-- Loads settings from a file. -/
def Config.ofFile (path : String) (text : Option String) : Loaded Config := do
  let config ← loadFile Config.ofJson Config.ofYaml? path text
  config.check.mapError .refused

/-- The text of a module in the format that a path tells. -/
def Module.toFile (m : Module) (path : String) : String :=
  if isYamlPath path then m.toYamlText else m.toJsonText

end DynamicForms

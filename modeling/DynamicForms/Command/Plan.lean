import DynamicForms.Command.Request
import DynamicForms.Forest.Inspection
import DynamicForms.Logic.States
import DynamicForms.Schema.File
import DynamicForms.Structure.Repair
import DynamicForms.Structure.Report
import DynamicForms.Validation.Checking

/-!
# What the program does

Running a command reads files and comes to a plan: a text to print, a file to write, a text to
print once that is done, and the code to end with.  Settings are loaded first, then the module,
then the form, and the first that cannot be loaded ends the run.  `checkModule` is the plan of a
check; it depends on nothing but the module and the settings.  Only validation needs the engine for
patterns.
-/

set_option autoImplicit false

namespace DynamicForms

/-- How the program ends. -/
inductive ExitCode where
  | success
  /-- What was looked at is not valid. -/
  | invalid
  /-- The arguments are wrong, or a file cannot be read or written. -/
  | failure
deriving DecidableEq, Repr

/-- The number of a code. -/
def ExitCode.toNat : ExitCode → Nat
  | .success => 0
  | .invalid => 1
  | .failure => 2

/-- A file to write. -/
structure Output where
  path : String
  text : String
deriving DecidableEq, Repr

/-- What is to be done once all is read. -/
structure Plan where
  printed : String := ""
  file : Option Output := none
  /-- What is printed when the file is written. -/
  closing : String := ""
  /-- How the program ends, unless the file cannot be written. -/
  code : ExitCode
deriving DecidableEq, Repr

namespace Plan

/-- Printing a text and nothing else. -/
def print (text : String) (code : ExitCode) : Plan := { printed := text, code := code }

/-- The plan where something cannot be read. -/
def fail : Plan := { code := .failure }

/-- What is printed in all and how the program ends, given whether the file can be written. -/
def outcome (plan : Plan) (written : Bool) : String × ExitCode :=
  if plan.file.isNone ∨ written then (plan.printed ++ plan.closing, plan.code)
  else (plan.printed, .failure)

end Plan

/-- A JSON value on lines of its own. -/
def jsonLines (v : Json.Value) : String := v.indentedText ++ "\n"

/-- Success if something is valid. -/
def ExitCode.ofValid (valid : Bool) : ExitCode := if valid then .success else .invalid

/-! ## Commands -/

/-- Shows the forest of a module. -/
def inspectModule (m : Module) (json : Bool) : Plan :=
  let forest := Forest.build m
  .print (if json then jsonLines (forest.toJson m.id) else forest.text m.id) .success

def printedReport (m : Module) (report : Report) (json : Bool) : String :=
  if json then jsonLines report.toJson else report.text m.id

/-- Checks a module; the repaired one is written to a file if there is a path for it, and then
decides how the program ends. -/
def checkModule (m : Module) (config : Config) (repaired : Option String) (json : Bool) : Plan :=
  let report := m.check config
  match repaired with
  | none => .print (printedReport m report json) (.ofValid report.isValid)
  | some path =>
    let after := m.repair.check config
    { printed := printedReport m report json
      file := some ⟨path, m.repair.toFile path⟩
      closing :=
        if json then ""
        else "wrote " ++ path ++ " (" ++ toString after.errors.length ++ " error(s) remain)\n"
      code := .ofValid after.isValid }

/-- Checks a form by the standard rules. -/
def validateForm (engine : PatternEngine) (m : Module) (config : Config) (form : Form)
    (json : Bool) : Plan :=
  let verdict := (Registry.standard engine config).checkModule m form
  .print (if json then jsonLines verdict.toJson else verdict.text) (.ofValid verdict.isValid)

/-- The states of fields as a JSON value. -/
def States.toJson (states : States) : Json.Value :=
  let flags (d : Dictionary Bool) : Json.Value :=
    .object (d.entries.map fun entry => (entry.1, .boolean entry.2))
  .object [("visible", flags states.visible), ("enabled", flags states.enabled)]

/-- Shows the states of the fields of a form. -/
def evaluateForm (m : Module) (form : Form) (cascade : Bool) : Plan :=
  let forest := Forest.build m
  let states := States.evaluate forest form
  .print (jsonLines (if cascade then states.cascade forest else states).toJson) .success

/-! ## Runs -/

/-- Goes on with what was loaded. -/
def withLoaded {α : Type} {m : Type → Type} [Monad m] (loaded : Loaded α) (next : α → m Plan) :
    m Plan :=
  match loaded with
  | .ok a => next a
  | .error _ => return .fail

/-- Comes to a plan for a command, given the settings, the engine for patterns and how the text of a
file is read. -/
def Command.run {m : Type → Type} [Monad m] (engine : PatternEngine)
    (read : String → m (Option String)) (config : Config) : Command → m Plan
  | .inspect path json => do
    withLoaded (Module.ofFile path (← read path)) fun m => return inspectModule m json
  | .check path repaired json => do
    withLoaded (Module.ofFile path (← read path)) fun m =>
      return checkModule m config repaired json
  | .validate path formPath json => do
    withLoaded (Module.ofFile path (← read path)) fun m => do
      withLoaded (Form.ofFile formPath (← read formPath)) fun form =>
        return validateForm engine m config form json
  | .evaluate path formPath cascade => do
    withLoaded (Module.ofFile path (← read path)) fun m => do
      withLoaded (Form.ofFile formPath (← read formPath)) fun form =>
        return evaluateForm m form cascade

/-- Comes to a plan for a request, given how the text of a file is read. -/
def Request.run {m : Type → Type} [Monad m] (engine : PatternEngine)
    (read : String → m (Option String)) (r : Request) : m Plan := do
  let config : Loaded Config ← match r.config with
    | none => pure (.ok {})
    | some path => do pure (Config.ofFile path (← read path))
  withLoaded config fun config => r.command.run engine read config

/-- What the program prints when it is asked for its version. -/
def versionText : String := "formwright 0.1.0\n"

/-- Comes to a plan for a command line.  The text for those who ask for help is given, as it is made
from the declarations of the arguments and of no account for anything else. -/
def planOf {m : Type → Type} [Monad m] (engine : PatternEngine) (help : String)
    (read : String → m (Option String)) (arguments : List String) : m Plan :=
  match Request.ofArguments arguments with
  | .ok request => request.run engine read
  | .error .version => return .print versionText .success
  | .error .help => return .print help .success
  | .error .misuse => return .fail

end DynamicForms

import DynamicForms.Command.Arguments

/-!
# Requests of the program

What the program is asked to do: one of four commands on a module, with settings from a file if
there is one.  How much is logged can be chosen as well, but does not matter for what is done.
-/

set_option autoImplicit false

namespace DynamicForms

/-- A command of the program; files are given by their paths. -/
inductive Command where
  /-- Shows the forest of a module. -/
  | inspect (module : String) (json : Bool)
  /-- Checks the structure of a module, and may write a repaired one to a file. -/
  | check (module : String) (repaired : Option String) (json : Bool)
  /-- Validates a form. -/
  | validate (module form : String) (json : Bool)
  /-- Shows the states of the fields of a form. -/
  | evaluate (module form : String) (cascade : Bool)
deriving DecidableEq, Repr

/-- A command and the file with its settings. -/
structure Request where
  config : Option String
  command : Command
deriving DecidableEq, Repr

namespace Command

/-- The switches that may stand before and behind the name of a command. -/
def commonSwitches : List Switch :=
  [⟨"verbose", some 'v', .repeated⟩, ⟨"log-json", none, .flag⟩, ⟨"config", none, .valued⟩,
    ⟨"help", some 'h', .help⟩]

/-- The switches that may stand before the name of a command. -/
def leadingSwitches : List Switch := ⟨"version", some 'V', .version⟩ :: commonSwitches

/-- The switches of the command of a name. -/
def switchesOf? : String → Option (List Switch)
  | "inspect" => some [⟨"json", none, .flag⟩]
  | "check" => some [⟨"fix", none, .valued⟩, ⟨"json", none, .flag⟩]
  | "validate" => some [⟨"data", none, .valued⟩, ⟨"json", none, .flag⟩]
  | "evaluate" => some [⟨"data", none, .valued⟩, ⟨"cascade", none, .flag⟩]
  | _ => none

/-- The command of a name, given what its arguments say. -/
def ofGiven? (name : String) (given : Given) : Option Command := do
  let module ← given.operands.head?
  match name with
  | "inspect" => some (.inspect module (given.isSet "json"))
  | "check" => some (.check module (given.value? "fix") (given.isSet "json"))
  | "validate" => some (.validate module (← given.value? "data") (given.isSet "json"))
  | "evaluate" => some (.evaluate module (← given.value? "data") (given.isSet "cascade"))
  | _ => none

end Command

open Command in
/-- The request of a command line.  Settings that are named behind the command win. -/
def Request.ofArguments (arguments : List String) : Except Stop Request := do
  match ← readArguments leadingSwitches 0 arguments {} with
  | (_, []) => .error .misuse
  | (_, ["help"]) => .error .help
  | (_, "help" :: name :: _) =>
    if name = "help" ∨ (switchesOf? name).isSome then .error .help else .error .misuse
  | (leading, name :: rest) =>
    match switchesOf? name with
    | none => .error .misuse
    | some switches =>
      let (given, _) ← readArguments (switches ++ commonSwitches) 1 rest {}
      match ofGiven? name given with
      | none => .error .misuse
      | some command => return ⟨given.value? "config" <|> leading.value? "config", command⟩

end DynamicForms

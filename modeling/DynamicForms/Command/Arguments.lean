/-!
# Arguments of a command line

Arguments are switches and operands.  A switch has a long name behind two dashes and may have a
letter behind one; letters can be written together.  The value of a switch follows an equals sign
or is the next argument.  Behind two dashes on their own all arguments are operands.  Arguments
are read from the left, and the first one that is wrong, or asks for help or the version, decides.
-/

set_option autoImplicit false

namespace DynamicForms.Command

/-- What a switch is for. -/
inductive SwitchKind where
  /-- It is on or off, and is written once at most. -/
  | flag
  /-- It may be written any number of times. -/
  | repeated
  /-- It has a value, and is written once at most. -/
  | valued
  | help
  | version
deriving DecidableEq, Repr

/-- A switch of a command. -/
structure Switch where
  name : String
  letter : Option Char := none
  kind : SwitchKind
deriving DecidableEq, Repr

/-- Why there is nothing to run. -/
inductive Stop where
  /-- The arguments are wrong. -/
  | misuse
  | help
  | version
deriving DecidableEq, Repr

/-- What arguments say. -/
structure Given where
  flags : List String := []
  values : List (String × String) := []
  operands : List String := []
deriving DecidableEq, Repr

namespace Given

def isSet (given : Given) (name : String) : Bool := given.flags.contains name

/-- The value of a switch. -/
def value? (given : Given) (name : String) : Option String :=
  (given.values.find? fun entry => entry.1 == name).map (·.2)

/-- Adds a value, which cannot be empty, to a switch that has none. -/
def setValue (given : Given) (name value : String) : Except Stop Given :=
  if value = "" ∨ (given.value? name).isSome then .error .misuse
  else .ok { given with values := (name, value) :: given.values }

/-- Adds a switch without a value. -/
def set (given : Given) (s : Switch) : Except Stop Given :=
  match s.kind with
  | .flag =>
    if given.isSet s.name then .error .misuse
    else .ok { given with flags := s.name :: given.flags }
  | .repeated => .ok given
  | .valued => .error .misuse
  | .help => .error .help
  | .version => .error .version

/-- Adds an operand, which cannot be empty, unless there are enough. -/
def addOperand (limit : Nat) (given : Given) (operand : String) : Except Stop Given :=
  if operand = "" ∨ limit ≤ given.operands.length then .error .misuse
  else .ok { given with operands := given.operands ++ [operand] }

/-- Adds switches by their letters. -/
def setLetters (switches : List Switch) (given : Given) (letters : List Char) :
    Except Stop Given :=
  letters.foldlM (fun given letter =>
    match switches.find? fun s => s.letter == some letter with
    | some s => given.set s
    | none => .error .misuse) given

end Given

/-- Whether an argument looks like a switch: a dash on its own does not. -/
def looksLikeSwitch (argument : String) : Bool :=
  match argument.toList with
  | '-' :: _ :: _ => true
  | _ => false

/-- The name of a long switch, and the value behind an equals sign. -/
def splitValue (text : List Char) : String × Option String :=
  match text.span (· != '=') with
  | (name, []) => (String.ofList name, none)
  | (name, _ :: value) => (String.ofList name, some (String.ofList value))

/-- Reads arguments with a number of operands.  Where there are none, the first operand ends the
arguments; it comes back with all that follow it. -/
def readArguments (switches : List Switch) (limit : Nat) :
    List String → Given → Except Stop (Given × List String)
  | [], given => .ok (given, [])
  | argument :: rest, given =>
    match argument.toList with
    | ['-', '-'] => do
      if limit = 0 then .error .misuse
      else return (← rest.foldlM (Given.addOperand limit) given, [])
    | '-' :: '-' :: text =>
      let (name, value) := splitValue text
      match switches.find? fun s => s.name == name with
      | none => .error .misuse
      | some s =>
        match value with
        | some value =>
          if s.kind = .valued then do
            readArguments switches limit rest (← given.setValue name value)
          else .error .misuse
        | none =>
          if s.kind = .valued then
            match rest with
            | [] => .error .misuse
            | value :: rest => do
              if looksLikeSwitch value then .error .misuse
              else readArguments switches limit rest (← given.setValue name value)
          else do readArguments switches limit rest (← given.set s)
    | '-' :: c :: cs => do
      readArguments switches limit rest (← given.setLetters switches (c :: cs))
    | _ =>
      if limit = 0 then .ok (given, argument :: rest)
      else do readArguments switches limit rest (← given.addOperand limit argument)

end DynamicForms.Command

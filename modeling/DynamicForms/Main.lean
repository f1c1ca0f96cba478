import DynamicForms.Command.Plan
import DynamicForms.Pattern.Matching

/-!
# The program

Carries out the plan for a command line.  There is no text for those who ask for help.
-/

set_option autoImplicit false

open DynamicForms

/-- The text of a file, if it can be read. -/
def readText (path : String) : IO (Option String) := do
  try
    return some (← IO.FS.readFile path)
  catch _ =>
    return none

/-- Writes a file and answers whether that went well. -/
def writeText (file : Output) : IO Bool := do
  try
    IO.FS.writeFile file.path file.text
    return true
  catch _ =>
    return false

/-- Runs the program. -/
def main (arguments : List String) : IO UInt32 := do
  let plan ← planOf Pattern.engine "" readText arguments
  let output ← IO.getStdout
  output.putStr plan.printed
  let written ← match plan.file with
    | none => pure true
    | some file => writeText file
  if plan.file.isSome && written then output.putStr plan.closing
  return UInt32.ofNat (plan.outcome written).2.toNat

import DynamicForms.Command.Plan
import DynamicForms.Dictionary

/-!
# Files in a folder

A folder as a value: its files, each under its path from the folder, with its text unless it holds
none.  It stands for the folder a program is started in and all that is inside; folders inside it
are there when a file is in them.  What lies outside is not known: a path from the root of all
folders, or one that leads out of the folder, leads to no file here and can be written to by no
plan.  `Folder.run` runs a command in a folder, and `Folder.execute` a command line.
-/

set_option autoImplicit false

namespace DynamicForms

/-- The files of a folder by their paths; a file that holds no text has none. -/
abbrev Folder := Dictionary (Option String)

namespace Folder

/-- Whether a folder inside the folder is there. -/
def hasFolder (folder : Folder) (parts : List String) : Bool :=
  parts.isEmpty || folder.keys.any fun path =>
    let others := pathParts path
    parts.isPrefixOf others && parts.length < others.length

/-- Follows the parts of a path from a folder inside the folder; all but the last have to lead to
folders. -/
def follow (folder : Folder) : (place : List String) → (parts : List String) → Option (List String)
  | place, [] => some place
  | place, part :: rest =>
    if !folder.hasFolder place then none
    else if part != ".." then folder.follow (place ++ [part]) rest
    else if place.isEmpty then none
    else folder.follow place.dropLast rest

/-- The path of a file, as its key.  A slash at the end can only follow a folder. -/
def fileKey? (folder : Folder) (path : String) : Option String :=
  if path.startsWith "/" ∨ path.endsWith "/" ∨ path.endsWith "/." then none
  else (folder.follow [] (pathParts path)).map fun parts => "/".intercalate parts

/-- The text of a file. -/
def read (folder : Folder) (path : String) : Option String :=
  ((folder.fileKey? path).bind folder.get?).join

/-- Writes a file, unless it would stand in a folder that is not there or in place of one that
is. -/
def write? (folder : Folder) (file : Output) : Option Folder := do
  let key ← folder.fileKey? file.path
  if folder.hasFolder (pathParts key) then none else some (folder.insert key (some file.text))

/-- Carries out a plan in a folder: what is printed, how the program ends, and the folder
afterwards. -/
def carryOut (folder : Folder) (plan : Plan) : String × ExitCode × Folder :=
  let after := plan.file.bind folder.write?
  let (printed, code) := plan.outcome after.isSome
  (printed, code, after.getD folder)

/-- Runs a command with some settings in a folder. -/
def run (folder : Folder) (engine : PatternEngine) (config : Config) (command : Command) :
    String × ExitCode × Folder :=
  folder.carryOut (Id.run (command.run engine (fun path => pure (folder.read path)) config))

/-- Runs a command line in a folder. -/
def execute (folder : Folder) (engine : PatternEngine) (help : String)
    (arguments : List String) : String × ExitCode × Folder :=
  folder.carryOut (Id.run (planOf engine help (fun path => pure (folder.read path)) arguments))

end Folder

end DynamicForms

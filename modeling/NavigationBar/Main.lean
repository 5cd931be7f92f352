import NavigationBar.CommandLine

/-!
# The program

Reads the file that its command names, and prints what the command gives. It ends with 0, with 1 if
the command fails, and with 2 if its arguments are wrong.
-/

namespace NavigationBar

/-- How the program is used. -/
def usage : String :=
  "Usage: navbar [--trace | --debug | --log-level <LEVEL> | --log-filter <FILTER>] <COMMAND>\n\n" ++
  "Commands:\n" ++
  "  check <PATH> [--dump]\n" ++
  "  eval <TEMPLATE> [--state <PATH>] [--desktop]\n"

/-- The version of the program. -/
def version : String := "navbar 0.0.1"

/-- Why a file cannot be read. -/
def readFault : IO.Error → String
  | .noFileOrDirectory .. => "No such file or directory (os error 2)"
  | .permissionDenied .. => "Permission denied (os error 13)"
  | e => toString e

/-- The text of a file, or why there is none. -/
def readText (path : String) : IO (Except String String) := do
  try
    return .ok (← IO.FS.readFile path)
  catch e =>
    return .error (readFault e)

end NavigationBar

open NavigationBar in
/-- Runs the program. -/
def main (args : List String) : IO UInt32 := do
  match CommandLine.parse args with
  | none =>
    IO.eprint usage
    return 2
  | some .help =>
    IO.print usage
    return 0
  | some .version =>
    IO.println version
    return 0
  | some (.run c _) =>
    let text ← match c.path? with
      | some path => readText path
      | none => pure (.error "")
    match c.run fun _ => text with
    | .ok out =>
      IO.println out
      return 0
    | .error f =>
      IO.eprintln f.message
      return 1

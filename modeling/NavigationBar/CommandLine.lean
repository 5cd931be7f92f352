import NavigationBar.Config.Load
import NavigationBar.Host.SnapshotText
import NavigationBar.LogFilter
import NavigationBar.Template.Resolve

/-!
# The command line

The program checks a configuration, or evaluates a template against a snapshot of the host. Options
about logging stand before the command, options of a command after it. Every option is given once.
-/

namespace NavigationBar

/-- A command. -/
inductive Command where
  /-- Check the configuration at a path, and print it if asked to. -/
  | check (path : String) (dump : Bool)
  /-- Evaluate a template against the snapshot at a path, in the desktop layout if asked to. -/
  | eval (source : String) (state : Option String) (desktop : Bool)
deriving DecidableEq, Repr

/-- What the program is asked for. -/
inductive Request where
  /-- A command. -/
  | run (c : Command) (log : LogOptions)
  /-- The version of the program. -/
  | version
  /-- How the program is used. -/
  | help
deriving DecidableEq, Repr

namespace CommandLine

/-- An option that takes a value or not. -/
inductive Given where
  /-- A bare option. -/
  | flag
  /-- An option with a value. -/
  | value (v : String)
deriving DecidableEq, Repr

/-- The arguments of a command, sorted. -/
structure Sorted where
  /-- The options by their names. -/
  options : List (String × Given) := []
  /-- What is no option. -/
  operands : List String := []
deriving DecidableEq, Repr, Inhabited

/-- Whether an argument may be the value of the option before it. -/
def isValue (arg : String) : Bool :=
  !("-".isPrefixOf arg) || arg == "-"

/-- An option's name, and the value that is attached to it with an equals sign. -/
def splitOption (arg : String) : String × Option String :=
  let cs := arg.toList
  let name := String.ofList (cs.takeWhile (· != '='))
  match cs.dropWhile (· != '=') with
  | [] => (name, none)
  | _ :: v => (name, some (String.ofList v))

/-- Whether an argument asks for help. -/
def asksHelp (arg : String) : Bool :=
  arg == "--help" || "-h".isPrefixOf arg

/-- What sorting arguments gives. -/
inductive Outcome where
  /-- The arguments, sorted. -/
  | sorted (s : Sorted)
  /-- They ask for help. -/
  | help
  /-- They are wrong. -/
  | wrong
deriving DecidableEq, Repr

/-- Takes an option on, unless it was given before. -/
def Sorted.withOption (s : Sorted) (name : String) (g : Given) : Option Sorted :=
  if s.options.any fun o => o.1 == name then none
  else some { s with options := s.options ++ [(name, g)] }

/-- Takes an operand on. -/
def Sorted.withOperand (s : Sorted) (arg : String) : Sorted :=
  { s with operands := s.operands ++ [arg] }

/-- Sorts the arguments of a command that has some flags and some options with values. After `--`
there are operands only. -/
def sort (flags valued : List String) (s : Sorted) : List String → Outcome
  | [] => .sorted s
  | arg :: rest =>
    if arg = "--" then .sorted { s with operands := s.operands ++ rest }
    else if isValue arg then sort flags valued (s.withOperand arg) rest
    else if asksHelp arg then .help
    else
      match splitOption arg with
      | (name, none) =>
        if flags.contains name then
          match s.withOption name .flag with
          | some s => sort flags valued s rest
          | none => .wrong
        else if valued.contains name then
          match rest with
          | v :: rest =>
            if isValue v then
              match s.withOption name (.value v) with
              | some s => sort flags valued s rest
              | none => .wrong
            else if asksHelp v then .help
            else .wrong
          | [] => .wrong
        else .wrong
      | (name, some v) =>
        if valued.contains name then
          match s.withOption name (.value v) with
          | some s => sort flags valued s rest
          | none => .wrong
        else .wrong

namespace Sorted

/-- Whether a flag was given. -/
def has (s : Sorted) (name : String) : Bool :=
  s.options.any fun o => o.1 == name

/-- The value of an option. -/
def value? (s : Sorted) (name : String) : Option String :=
  match s.options.lookup name with
  | some (.value v) => some v
  | _ => none

end Sorted

/-- What the arguments of a command ask for. A path is not empty. -/
def command? (name : String) (args : List String) : Option (Option Command) :=
  if name = "check" then
    match sort ["--dump"] [] {} args with
    | .help => some none
    | .sorted s =>
      match s.operands with
      | [path] => if path = "" then none else some (some (.check path (s.has "--dump")))
      | _ => none
    | .wrong => none
  else
    match sort ["--desktop"] ["--state"] {} args with
    | .help => some none
    | .sorted s =>
      match s.operands with
      | [source] =>
        if s.value? "--state" = some "" then none
        else some (some (.eval source (s.value? "--state") (s.has "--desktop")))
      | _ => none
    | .wrong => none

/-- The logging options that were given. A flag goes with no other option. -/
def logOptions? (s : Sorted) : Option LogOptions :=
  let trace := s.has "--trace"
  let debug := s.has "--debug"
  if (trace || debug) && s.options.length != 1 then none
  else some { trace, debug, level := s.value? "--log-level", filter := s.value? "--log-filter" }

/-- The names of the options about logging that are flags. -/
def logFlags : List String := ["--trace", "--debug"]

/-- The names of the options about logging that have values. -/
def logValued : List String := ["--log-level", "--log-filter"]

/-- What arguments ask for, given the options before them; none if they are wrong. -/
def parseFrom (s : Sorted) : List String → Option Request
  | [] => none
  | arg :: rest =>
    if asksHelp arg || arg = "help" then some .help
    else if arg = "--version" || "-V".isPrefixOf arg then some .version
    else if arg = "check" || arg = "eval" then
      match command? arg rest with
      | none => none
      | some none => some .help
      | some (some c) => (logOptions? s).map (.run c)
    else
      match splitOption arg with
      | (name, none) =>
        if logFlags.contains name then (s.withOption name .flag).bind fun s => parseFrom s rest
        else if logValued.contains name then
          match rest with
          | v :: rest =>
            if isValue v then (s.withOption name (.value v)).bind fun s => parseFrom s rest
            else if asksHelp v then some .help
            else if v = "--version" || "-V".isPrefixOf v then some .version
            else none
          | [] => none
        else none
      | (name, some v) =>
        if logValued.contains name then
          (s.withOption name (.value v)).bind fun s => parseFrom s rest
        else none

/-- What arguments ask for; none if they are wrong. -/
def parse (args : List String) : Option Request :=
  parseFrom {} args

end CommandLine

/-- Why a command fails. -/
inductive CommandFault where
  /-- The configuration cannot be loaded. -/
  | config (e : LoadError)
  /-- The snapshot cannot be read. -/
  | unreadSnapshot (path reason : String)
  /-- The snapshot is none. -/
  | badSnapshot (path : String) (cause : SnapshotCause) (place : Json.Place)
  /-- The template fails. -/
  | template (f : Template.Failure)

/-- The words for a failure. -/
def CommandFault.message : CommandFault → String
  | config e => e.pretty
  | unreadSnapshot path reason => "Failed to read state " ++ path ++ ": " ++ reason
  | badSnapshot path cause place =>
    "Invalid state " ++ path ++ ": " ++ cause.message ++ " at line " ++ toString place.line
      ++ " column " ++ toString place.column
  | template f =>
    "Template error: " ++ match f with
      | .script _ => "template evaluation failed: " ++ f.message
      | f => f.message

namespace Command

/-- The path of the file that a command reads. -/
def path? : Command → Option String
  | check path _ => some path
  | eval _ state _ => state

/-- The snapshot at a path, from its text or from why there is none. -/
def snapshotOf (path : String) : Except String String → Except CommandFault Snapshot
  | .error reason => .error (.unreadSnapshot path reason)
  | .ok text => (Snapshot.parse text).mapError fun (cause, place) => .badSnapshot path cause place

/-- What a command prints; `read` gives the text of a file, or tells why there is none. -/
def run (read : String → Except String String) : Command → Except CommandFault String
  | check path dump =>
    match read path with
    | .error reason => .error (.config (.read (some path) reason))
    | .ok text =>
      match Config.load text (some path) none with
      | .error e => .error (.config e)
      | .ok c => .ok (if dump then c.toJson.pretty else "OK")
  | eval source state isDesktop => do
    let s : Snapshot ← match state with
      | some path => snapshotOf path (read path)
      | none => pure {}
    let c : Template.Context := .ofSnapshot s { isDesktop }
    let text := String.ofList (Template.wrap source.toList)
    match Template.evaluate c (.string text) .strict with
    | .ok v => .ok v.pretty
    | .error f => .error (.template f)

end Command

end NavigationBar

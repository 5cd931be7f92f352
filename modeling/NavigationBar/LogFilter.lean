/-!
# The log filter

What the program logs is decided by a filter text: directives `part=level` for the parts of the
program, separated by commas. Some options name one level for all parts; another gives the filter
itself.
-/

namespace NavigationBar

/-- The options of the command line about logging. -/
structure LogOptions where
  /-- Log everything. -/
  trace : Bool := false
  /-- Log what helps to find faults. -/
  debug : Bool := false
  /-- Log from this level on. -/
  level : Option String := none
  /-- The filter itself, before all other options. -/
  filter : Option String := none
deriving DecidableEq, Repr, Inhabited

namespace LogOptions

/-- The parts of the program that log. -/
def parts : List String :=
  ["navbar", "navbar_engine", "navbar_protocol", "template", "config", "logging"]

/-- The filter that sets one level for all parts; a level is written in lower case. -/
def uniformFilter (level : String) : String :=
  ",".intercalate (parts.map fun p => p ++ "=" ++ level.map Char.toLower)

/-- The filter that some options stand for. Without any, warnings are logged. -/
def filterText (o : LogOptions) : String :=
  match o.filter with
  | some text => text
  | none =>
    if o.trace then uniformFilter "trace"
    else if o.debug then uniformFilter "debug"
    else uniformFilter (o.level.getD "warn")

end LogOptions

end NavigationBar

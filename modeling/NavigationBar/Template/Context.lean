import NavigationBar.Host.Snapshot
import NavigationBar.Script.Value

/-!
# What templates see

The arguments of every template, made from a snapshot of the host and the layout of the bar. Each
evaluation works on values of its own, so what a template changes is gone after it.
-/

namespace NavigationBar.Template

/-- The arguments of a template. -/
structure Context where
  /-- The entities by their identifiers. -/
  states : Script.Value
  /-- The user. -/
  user : Script.Value
  /-- The whole snapshot. -/
  hass : Script.Value
  /-- The layout of the bar. -/
  navbar : Script.Value
deriving Inhabited

namespace Context

/-- The arguments that a snapshot and a layout give. -/
def ofSnapshot (s : Snapshot) (l : Layout) : Context where
  states := .ofJson s.entitiesJson
  user := .ofJson s.user
  hass := .ofJson s.toJson
  navbar := .ofJson l.toJson

/-- The arguments in their order. -/
def args (c : Context) : List Script.Value :=
  [c.states, c.user, c.hass, c.navbar]

end Context

end NavigationBar.Template

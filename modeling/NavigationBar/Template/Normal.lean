import NavigationBar.Template.Spelling
import NavigationBar.Template.Conditional

/-!
# From a body to a script

A body becomes a script in two passes: it is respelled, and then its conditionals are turned into
`if` expressions.
-/

namespace NavigationBar.Template

/-- The script that a body stands for. -/
def normalize (body : List Char) : List Char :=
  eraseConditionals (respell body)

end NavigationBar.Template

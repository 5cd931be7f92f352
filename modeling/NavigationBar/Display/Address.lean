/-!
# Addresses

When the address of an item is the path of the page that is shown. An address from the root must be
the path itself; any other one must be the end of the path, from one of its slashes on. Of the
latter kind, neither minds one more slash at its end.
-/

namespace NavigationBar.Address

/-- A text without the slash at its end, if it has one. -/
def withoutLastSlash (cs : List Char) : List Char :=
  if cs.getLast? = some '/' then cs.dropLast else cs

/-- Whether an address leads to the page at a path. -/
def leadsTo (address path : List Char) : Bool :=
  if address.head? = some '/' then address == path
  else ('/' :: withoutLastSlash address).isSuffixOf (withoutLastSlash path)

end NavigationBar.Address

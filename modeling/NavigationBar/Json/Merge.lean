import NavigationBar.Json.Basic

/-!
# Merging

Laying one document over another. Objects merge key by key; any other value replaces what is below
it; a `null` under a key takes the key away.
-/

namespace NavigationBar.Json

mutual

/-- The value `overlay` laid over `base`. A `null` overlay leaves the base as it is. -/
def merge (base : Json) (overlay : Json) : Json :=
  match overlay with
  | null => base
  | object o =>
    match base with
    | object b => object (mergeFields b o)
    | _ => object o
  | other => other

/-- The members `overlay` laid over the members `base`, one after the other. -/
def mergeFields (base : Fields) (overlay : List (String × Json)) : Fields :=
  match overlay with
  | [] => base
  | (k, null) :: rest => mergeFields (base.erase k) rest
  | (k, object o) :: rest =>
    let merged :=
      match base.get? k with
      | some (object b) => object (mergeFields b o)
      | _ => object o
    mergeFields (base.set k merged) rest
  | (k, v) :: rest => mergeFields (base.set k v) rest

end

end NavigationBar.Json

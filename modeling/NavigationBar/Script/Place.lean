import NavigationBar.Script.Builtin

/-!
# Places in values

Properties and elements: reading one, and changing one inside of a value. A key that a map does not
have reads as the absent value; negative positions count from the end. Some functions of the
language change the value that they are called on, in its place.
-/

namespace NavigationBar.Script

/-- A link of a chain whose index or arguments have been evaluated. -/
inductive Step where
  /-- A property. -/
  | property (safe : Bool) (name : String)
  /-- An element. -/
  | index (safe : Bool) (i : Value)
  /-- A method call. -/
  | method (safe : Bool) (name : String) (args : List Value)

namespace Step

/-- Whether a step ends a chain when there is nothing to go on with. -/
def isSafe : Step → Bool
  | property safe _ => safe
  | index safe _ => safe
  | method safe _ _ => safe

end Step

namespace Value

/-- Whether a value is the absent one. -/
def isUnit : Value → Bool
  | unit => true
  | _ => false

/-- The position that an index means among so many elements. -/
def position? (size : Nat) (i : Int) : Option Nat :=
  if i < 0 then (if (-i).toNat ≤ size then some (size - (-i).toNat) else none)
  else if i.toNat < size then some i.toNat
  else none

/-- A property of a value. -/
def property (v : Value) (name : String) : Outcome Value :=
  match v with
  | map members => .ok ((members.lookup name).getD unit)
  | array items =>
    match name with
    | "len" => .ok (int items.size)
    | "is_empty" => .ok (bool items.isEmpty)
    | _ => .error .noProperty
  | text s =>
    match name with
    | "len" => .ok (int s.length)
    | "is_empty" => .ok (bool s.isEmpty)
    | _ => .error .noProperty
  | float x =>
    match rounded? name x with
    | some y => .ok (float y)
    | none => .error .noProperty
  | _ => .error .noProperty

/-- A bit of an integer. -/
def bit (i n : Int) : Outcome Value :=
  match position? 64 n with
  | some k => .ok (bool ((BitVec.ofInt 64 i).getLsbD k))
  | none => .error .bitBounds

/-- An element of a value. -/
def element (v i : Value) : Outcome Value :=
  match v, i with
  | array items, int i =>
    match (position? items.size i).bind fun k => items[k]? with
    | some w => .ok w
    | none => .error .listBounds
  | map members, text k => .ok ((members.lookup k).getD unit)
  | text s, int i =>
    match (position? s.length i).bind fun k => s.toList[k]? with
    | some c => .ok (char c)
    | none => .error .textBounds
  | int x, int i => bit x i
  | array _, _ => .error .wrongType
  | map _, _ => .error .wrongType
  | text _, _ => .error .wrongType
  | int _, _ => .error .wrongType
  | _, _ => .error .noIndex

/-- A value with what a function makes of a place in it. -/
def change (f : Value → Outcome Value) : List Step → Value → Outcome Value
  | [], v => f v
  | .property safe name :: steps, v =>
    if safe && v.isUnit then .ok v
    else
      match v with
      | map members => do
        let w ← change f steps ((members.lookup name).getD unit)
        return map (insertMember name w members)
      | _ => .error .noProperty
  | .index safe i :: steps, v =>
    if safe && v.isUnit then .ok v
    else
      match v, i with
      | array items, int i =>
        match position? items.size i with
        | some k => do
          let w ← change f steps (items[k]?.getD unit)
          return array (items.setIfInBounds k w)
        | none => .error .listBounds
      | map members, text k => do
        let w ← change f steps ((members.lookup k).getD unit)
        return map (insertMember k w members)
      | text s, int i =>
        match position? s.length i with
        | some k => do
          match ← change f steps ((s.toList[k]?.map char).getD unit) with
          | char c => return text (String.ofList (s.toList.set k c))
          | _ => .error .wrongType
        | none => .error .textBounds
      | v, i => do
        let w ← element v i
        let _ ← change f steps w
        return v
  | .method .. :: _, _ => .error .unknownFunction

/-- The value at a place, if there is one to go to. -/
def valueAt? : List Step → Value → Outcome (Option Value)
  | [], v => .ok (some v)
  | .property safe name :: steps, v =>
    if safe && v.isUnit then .ok none
    else do valueAt? steps (← v.property name)
  | .index safe i :: steps, v =>
    if safe && v.isUnit then .ok none
    else do valueAt? steps (← v.element i)
  | .method .. :: _, _ => .error .unknownFunction

/-! ## Functions that change a value -/

/-- Whether a value comes before another of its type. -/
def precedes (v w : Value) : Bool :=
  match v, w with
  | int i, int j => i < j
  | float x, float y => x < y
  | char c, char d => c < d
  | text s, text t => s < t
  | bool b, bool c => !b && c
  | _, _ => false

/-- The elements of a list in their order. They must have one type. -/
def sorted (items : List Value) : Outcome (List Value) :=
  match items with
  | v :: rest =>
    if rest.all fun w => w.typeName = v.typeName then
      .ok (items.mergeSort fun v w => !precedes w v)
    else .error .unknownFunction
  | [] => .ok []

/-- The text of a value that may stand for a part of a text. -/
def part? : Value → Option (List Char)
  | text s => some s.toList
  | char c => some [c]
  | _ => none

/-- A text with another part in place of every part that is a given one. -/
def replaced (s part other : List Char) : String :=
  String.ofList (List.intercalate other (split s part none))

/-- The names of the functions that change the value that they are called on. -/
def changing : List String :=
  ["push", "append", "pop", "shift", "insert", "remove", "reverse", "sort", "clear", "trim",
    "replace"]

/-- What a function makes of the value that it is called on, and the value of the call. -/
def changedBy (name : String) (v : Value) (args : List Value) : Outcome (Value × Value) :=
  match name, v, args with
  | "push", array items, [item] => .ok (array (items.push item), unit)
  | "pop", array items, [] => .ok (array items.pop, items.back?.getD unit)
  | "append", array items, [array more] => .ok (array (items ++ more), unit)
  | "shift", array items, [] => .ok (array (items.toList.drop 1).toArray, items[0]?.getD unit)
  | "insert", array items, [int i, item] =>
    .ok (array (items.toList.insertIdx (min (startOf items.size i) items.size) item).toArray, unit)
  | "remove", array items, [int i] =>
    match position? items.size i with
    | some k => .ok (array (items.toList.eraseIdx k).toArray, items[k]?.getD unit)
    | none => .ok (array items, unit)
  | "remove", map members, [text k] =>
    .ok (map (members.filter fun m => m.1 ≠ k), (members.lookup k).getD unit)
  | "remove", text s, [w] =>
    match part? w with
    | some part => .ok (text (String.ofList (withoutPart part (s.length + 1) s.toList)), unit)
    | none => .error .unknownFunction
  | "reverse", array items, [] => .ok (array items.reverse, unit)
  | "sort", array items, [] => do return (array (← sorted items.toList).toArray, unit)
  | "clear", array _, [] => .ok (array #[], unit)
  | "clear", map _, [] => .ok (map [], unit)
  | "clear", text _, [] => .ok (text "", unit)
  | "pop", text s, [] =>
    .ok (text (String.ofList s.toList.dropLast), (s.toList.getLast?.map char).getD unit)
  | "trim", text s, [] => .ok (text (String.ofList (Text.trim s.toList)), unit)
  | "replace", text s, [v, w] =>
    match part? v, part? w with
    | some part, some other => .ok (text (replaced s.toList part other), unit)
    | _, _ => .error .unknownFunction
  | _, _, _ => .error .unknownFunction

/-! ## Assignments -/

/-- What an assignment makes of the old value of its place. -/
def assigned (op : Option Operator) (new old : Value) : Outcome Value :=
  match op, old, new with
  | none, _, new => .ok new
  | some .add, array items, array more => .ok (array (items ++ more))
  | some .add, array items, new => .ok (array (items.push new))
  | some op, old, new => operation op old new

end Value

end NavigationBar.Script

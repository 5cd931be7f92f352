import NavigationBar.Script.Parser
import NavigationBar.Script.Place
import NavigationBar.Script.Simplify

/-!
# Running scripts

Variables live in cells, so that a function without a name shares the ones that it keeps with the
code around it. Arguments are passed by value. Each construct is run by a function of its own,
which is given the way to run its parts; `run` ties them together. A script may take so many steps
and nest so many calls, and no more.
-/

namespace NavigationBar.Script

/-- What a script has stored. -/
structure Memory where
  /-- The values of its variables. -/
  cells : Array Value := #[]
  /-- The steps taken so far. -/
  steps : Nat := 0

/-- Why a part of a script ends before its end. -/
inductive Signal where
  /-- A failure. -/
  | fault (f : Fault)
  /-- The end of the function, with its value. -/
  | given (v : Value)
  /-- The end of the loop, with its value. -/
  | left (v : Value)
  /-- The end of the round of the loop. -/
  | next

/-- The running of a part of a script. -/
abbrev Run := EStateM Signal Memory

/-- The variables in reach, the latest first: their names, cells, and whether they are constants. -/
abbrev Scope := List (String × Nat × Bool)

/-- What surrounds a part of a script. -/
structure Surroundings where
  /-- The variables in reach. -/
  scope : Scope := []
  /-- The functions with names. -/
  functions : List Function := []
  /-- How many calls are nested. -/
  calls : Nat := 0

/-- A part of a script. -/
inductive Code where
  /-- An expression. -/
  | expr (e : Expr)
  /-- A statement. -/
  | stmt (s : Stmt)

/-- The way to run a part of a script. -/
abbrev Runner := Surroundings → Code → Run Value

/-- How many steps a script may take. -/
def stepLimit : Nat := 200000

/-- How many calls a script may nest. -/
def callLimit : Nat := 64

namespace Run

/-- Fails. -/
def fails {α : Type} (f : Fault) : Run α :=
  throw (.fault f)

/-- The outcome of a step. -/
def of {α : Type} : Outcome α → Run α
  | .ok a => pure a
  | .error f => fails f

/-- Counts a step. -/
def tick : Run Unit := fun m =>
  if stepLimit ≤ m.steps then .error (.fault .tooManySteps) m
  else .ok () { m with steps := m.steps + 1 }

/-- A new cell. -/
def store (v : Value) : Run Nat := fun m =>
  .ok m.cells.size { m with cells := m.cells.push v }

/-- The value in a cell. -/
def load (i : Nat) : Run Value := fun m =>
  .ok (m.cells[i]?.getD .unit) m

/-- Puts a value into a cell. -/
def save (i : Nat) (v : Value) : Run Unit := fun m =>
  .ok () { m with cells := m.cells.setIfInBounds i v }

/-- Changes the value in a cell. If that fails, the value stays. -/
def update (i : Nat) (f : Value → Outcome Value) : Run Unit := fun m =>
  match f (m.cells[i]?.getD .unit) with
  | .ok v => .ok () { m with cells := m.cells.setIfInBounds i v }
  | .error e => .error (.fault e) m

/-- Puts one more element at the end of the list in a cell. -/
def push (i : Nat) (item : Value) : Run Unit := fun m =>
  match m.cells[i]?.getD .unit with
  | .array items =>
    let cells := m.cells.setIfInBounds i .unit
    .ok () { m with cells := cells.setIfInBounds i (.array (items.push item)) }
  | _ => .error (.fault .unknownFunction) m

/-- The value of a function whose body runs as given. -/
def catchGiven (body : Run Value) : Run Value := fun m =>
  match body m with
  | .error (.given v) m => .ok v m
  | .error (.left _) m | .error .next m => .error (.fault .noLoop) m
  | r => r

/-! ## Loops -/

/-- How a loop goes on after a round. -/
inductive Round where
  /-- With another round. -/
  | again
  /-- Not at all; the loop has a value. -/
  | stop (v : Value)

/-- A round of a loop. -/
def round (body : Run Value) : Run Round := fun m =>
  match body m with
  | .ok _ m => .ok .again m
  | .error .next m => .ok .again m
  | .error (.left v) m => .ok (.stop v) m
  | .error e m => .error e m

/-- Rounds until one stops, so many at the most. -/
def rounds (body : Run Round) : Nat → Run Value
  | 0 => fails .tooManySteps
  | n + 1 => fun m =>
    match body m with
    | .ok .again m => rounds body n m
    | .ok (.stop v) m => .ok v m
    | .error e m => .error e m

/-- Rounds for the elements from the one at `i` on, so many at the most. -/
def eachItem (itemAt : Nat → Option Value) (body : Nat → Value → Run Round) (i : Nat) :
    Nat → Run Value
  | 0 => fails .tooManySteps
  | n + 1 =>
    match itemAt i with
    | none => pure .unit
    | some v => fun m =>
      match body i v m with
      | .ok .again m => eachItem itemAt body (i + 1) n m
      | .ok (.stop w) m => .ok w m
      | .error e m => .error e m

end Run

open Run

/-! ## Statements -/

/-- Runs statements one after the other, each with the variables of those before it. Their value is
that of the last one. -/
def runBlock (run : Runner) (around : Surroundings) : List Stmt → Value → Run Value
  | [], last => pure last
  | .declare isConst name init :: rest, _ => do
    let v ← run around (.expr init)
    let i ← store v
    runBlock run { around with scope := (name, i, isConst) :: around.scope } rest .unit
  | s :: rest, _ => do
    let v ← run around (.stmt s)
    runBlock run around rest v

/-- Runs a condition. -/
def runCondition (run : Runner) (around : Surroundings) (c : Expr) : Run Bool := do
  match ← run around (.expr c) with
  | .bool b => return b
  | _ => fails .wrongType

/-- The value of an expression where there may be one. -/
def runOptional (run : Runner) (around : Surroundings) : Option Expr → Run Value
  | none => pure .unit
  | some e => run around (.expr e)

/-- The elements of a value, one after the other. -/
def itemsOf? : Value → Option (Nat → Option Value)
  | .array items => some fun i => items[i]?
  | .text s =>
    let cs := s.toList.toArray
    some fun i => cs[i]?.map .char
  | .range low high closed => some fun i =>
    let n := low + i
    if n < high ∨ (closed = true ∧ n = high) then some (.int n) else none
  | _ => none

/-- Runs a loop over elements. -/
def runForEach (run : Runner) (around : Surroundings) (name : String) (counter : Option String)
    (items : Expr) (body : List Stmt) : Run Value := do
  let v ← run around (.expr items)
  match itemsOf? v with
  | none => fails .notIterable
  | some itemAt =>
    let item ← store .unit
    let count ← store .unit
    let scope := (counter.toList.map fun n => (n, count, false)) ++ around.scope
    let inner := { around with scope := (name, item, false) :: scope }
    eachItem itemAt (fun i v => do
      tick
      save item v
      save count (.int i)
      round (runBlock run inner body .unit)) 0 (stepLimit + 1)

/-- Runs a block that is repeated while a condition holds. -/
def runRepeatWhile (run : Runner) (around : Surroundings) (c : Option Expr) (body : List Stmt) :
    Run Value :=
  rounds (do
    tick
    let goes ← match c with
      | none => pure true
      | some c => runCondition run around c
    if goes then round (runBlock run around body .unit) else return .stop .unit) (stepLimit + 1)

/-- Runs a block that is repeated after it was run. A round that ends early is followed by another
without a look at the condition. -/
def runThenRepeat (run : Runner) (around : Surroundings) (body : List Stmt) (c : Expr) (on : Bool) :
    Run Value :=
  rounds (do
    tick
    let whole : Run Value := do
      let _ ← runBlock run around body .unit
      if (← runCondition run around c) == on then pure .unit else throw (.left .unit)
    round whole) (stepLimit + 1)

/-- Runs a block and, if it fails in a way that a script can take over, another one. If that throws
nothing in particular, the failure goes on. -/
def runAttempt (run : Runner) (around : Surroundings) (body : List Stmt) (name : Option String)
    (handler : List Stmt) : Run Value := fun m =>
  match runBlock run around body .unit m with
  | .error (.fault f) m =>
    if f.isCatchable then
      let handled : Run Value := do
        match name with
        | none => runBlock run around handler .unit
        | some n =>
          let i ← store f.caught
          runBlock run { around with scope := (n, i, false) :: around.scope } handler .unit
      match handled m with
      | .ok _ m => .ok .unit m
      | .error (.fault (.thrown .unit)) m => .error (.fault f) m
      | r => r
    else .error (.fault f) m
  | r => r

/-- The first case whose guard holds. -/
def guarded (run : Runner) (around : Surroundings) : List Case → Run (Option Stmt)
  | [] => pure none
  | .mk _ none body :: _ => pure (some body)
  | .mk _ (some g) body :: rest => do
    if ← runCondition run around g then return some body else guarded run around rest

/-- Runs the case that fits a value. -/
def runSwitch (run : Runner) (around : Surroundings) (subject : Expr) (cases : List Case) :
    Run Value := do
  let v ← run around (.expr subject)
  match (← guarded run around (fittingCases v cases)).or (defaultBody? cases) with
  | some body => runBlock run around body.toBlock .unit
  | none => return .unit

/-! ## Functions -/

/-- Runs the body of a function with some variables. -/
def runBody (run : Runner) (around : Surroundings) (scope : Scope) (params : List String)
    (args : List Value) (body : List Stmt) : Run Value := do
  if params.length ≠ args.length then fails .unknownFunction
  else if callLimit ≤ around.calls then fails .tooManyCalls
  else
    let cells ← args.mapM store
    let own := (params.zip cells).map fun (n, i) => (n, i, false)
    let inner := { around with scope := own ++ scope, calls := around.calls + 1 }
    catchGiven (runBlock run inner body .unit)

/-- Calls a value. -/
def callValue (run : Runner) (around : Surroundings) (f : Value) (args : List Value) : Run Value :=
  match f with
  | .closure params captured body => runBody run around captured params args body.toBlock
  | _ => fails .wrongType

/-- Calls a value for an element of a list, with its position if the function asks for it. -/
def callForItem (run : Runner) (around : Surroundings) (f : Value) (first : List Value)
    (item : Value) (i : Nat) : Run Value :=
  match f with
  | .closure params captured body =>
    let args := (first ++ [item, .int i]).take (max first.length params.length)
    runBody run around captured params args body.toBlock
  | _ => fails .unknownFunction

/-- The values of a function for the elements of a list. -/
def mapItems (call : Value → Nat → Run Value) (i : Nat) (done : Array Value) :
    List Value → Run (Array Value)
  | [] => pure done
  | v :: rest => do
    let w ← call v i
    mapItems call (i + 1) (done.push w) rest

/-- The elements of a list for which a function holds. -/
def filterItems (call : Value → Nat → Run Value) (i : Nat) (done : Array Value) :
    List Value → Run (Array Value)
  | [] => pure done
  | v :: rest => do
    match ← call v i with
    | .bool true => filterItems call (i + 1) (done.push v) rest
    | _ => filterItems call (i + 1) done rest

/-- Whether a function holds, as `wanted` says, for some element of a list. -/
def anyItem (call : Value → Nat → Run Value) (wanted : Bool) (i : Nat) : List Value → Run Bool
  | [] => pure false
  | v :: rest => do
    let holds := match ← call v i with
      | .bool b => b
      | _ => false
    if holds == wanted then return true else anyItem call wanted (i + 1) rest

/-- What a function makes of the elements of a list, one after the other. -/
def foldItems (call : Value → Value → Nat → Run Value) (i : Nat) (acc : Value) :
    List Value → Run Value
  | [] => pure acc
  | v :: rest => do
    let acc ← call acc v i
    foldItems call (i + 1) acc rest

/-- The first element of a list for which a function holds, from a position on. -/
def findItem (call : Value → Nat → Run Value) (i : Nat) : List Value → Run Value
  | [] => pure .unit
  | v :: rest => do
    match ← call v i with
    | .bool true => return v
    | _ => findItem call (i + 1) rest

/-- Whether a function says that a value comes before another. What goes wrong in it does not
matter. -/
def comesBefore (run : Runner) (around : Surroundings) (f v w : Value) : Run Bool := fun m =>
  match callValue run around f [v, w] m with
  | .ok (.int i) m => .ok (decide (i < 0)) m
  | .ok (.bool b) m => .ok b m
  | .ok _ m | .error _ m => .ok false m

/-- Elements in their order, the last first, with one more. -/
def insertItem (before : Value → Value → Run Bool) (v : Value) : List Value → Run (List Value)
  | [] => pure [v]
  | w :: rest => do
    if ← before v w then return w :: (← insertItem before v rest) else return v :: w :: rest

/-- The elements of a list in their order; `done` are those that are, the last first. -/
def sortItems (before : Value → Value → Run Bool) (done : List Value) :
    List Value → Run (List Value)
  | [] => pure done.reverse
  | v :: rest => do sortItems before (← insertItem before v done) rest

/-- What a function makes of the value that it is called on, and the value of the call. -/
def runChange (run : Runner) (around : Surroundings) (name : String) (v : Value)
    (args : List Value) : Run (Value × Value) :=
  match name, v, args with
  | "sort", .array items, [.closure params captured body] => do
    let before := comesBefore run around (.closure params captured body)
    return (.array (← sortItems before [] items.toList).toArray, .unit)
  | name, v, args => Run.of (Value.changedBy name v args)

/-- Calls a function of the language. -/
def callLanguage (run : Runner) (around : Surroundings) (name : String) (args : List Value) :
    Run Value :=
  let call := callForItem run around
  match name, args with
  | "call", f :: args => callValue run around f args
  | "map", [.array items, f] => do
    return .array (← mapItems (call f []) 0 #[] items.toList)
  | "filter", [.array items, f] => do
    return .array (← filterItems (call f []) 0 #[] items.toList)
  | "some", [.array items, f] => do
    return .bool (← anyItem (call f []) true 0 items.toList)
  | "all", [.array items, f] => do
    return .bool (!(← anyItem (call f []) false 0 items.toList))
  | "reduce", [.array items, f] =>
    foldItems (fun acc v i => call f [acc] v i) 0 .unit items.toList
  | "reduce", [.array items, f, initial] =>
    foldItems (fun acc v i => call f [acc] v i) 0 initial items.toList
  | "find", [.array items, f] => findItem (call f []) 0 items.toList
  | "find", [.array items, f, .int i] =>
    let start := Value.startOf items.size i
    findItem (call f []) start (items.toList.drop start)
  | name, args =>
    if Value.changing.contains name then
      match args with
      | v :: args => do return (← runChange run around name v args).2
      | [] => fails .unknownFunction
    else Run.of (Value.callBuiltin name args)

/-- The function of the script that has a name and takes a number of arguments. -/
def Surroundings.function? (around : Surroundings) (name : String) (arity : Nat) :
    Option Function :=
  around.functions.find? fun f => f.name == name && f.params.length == arity

/-- Calls a function by its name: one of the script, or else one of the language. -/
def callNamed (run : Runner) (around : Surroundings) (name : String) (args : List Value) :
    Run Value :=
  match around.function? name args.length with
  | some f => runBody run around [] f.params args f.body
  | none => callLanguage run around name args

/-- The function that a map holds under a name. -/
def ownMethod? (v : Value) (name : String) : Option Value :=
  match v with
  | .map members =>
    match members.lookup name with
    | some (.closure params captured body) => some (.closure params captured body)
    | _ => none
  | _ => none

/-- Calls a method: a function that a map holds under its name, or else one of the language. -/
def callMethod (run : Runner) (around : Surroundings) (v : Value) (name : String)
    (args : List Value) : Run Value :=
  match ownMethod? v name, name, v, args with
  | some (.closure params captured body), _, _, args =>
    callValue run around (.closure params captured body) args
  | _, "call", .closure params captured body, args =>
    callValue run around (.closure params captured body) args
  | _, "call", _, f :: args => callValue run around f args
  | _, "call", _, [] => fails .wrongType
  | _, name, v, args => callLanguage run around name (v :: args)

/-! ## Expressions -/

/-- The cell of a variable, and whether it is a constant. -/
def cellOf (around : Surroundings) (name : String) : Run (Nat × Bool) :=
  match around.scope.lookup name with
  | some c => pure c
  | none => fails .unknownVariable

/-- The values of expressions, one after the other. -/
def runAll (run : Runner) (around : Surroundings) : List Expr → Run (List Value)
  | [] => pure []
  | e :: rest => do
    let v ← run around (.expr e)
    let vs ← runAll run around rest
    return v :: vs

/-- The members of a map. -/
def runMembers (run : Runner) (around : Surroundings) (done : List (String × Value)) :
    List (String × Expr) → Run (List (String × Value))
  | [] => pure done
  | (k, e) :: rest => do
    let v ← run around (.expr e)
    runMembers run around (Value.insertMember k v done) rest

/-- The links of a chain, their indices and arguments being evaluated. -/
def runLinks (run : Runner) (around : Surroundings) : List Link → Run (List Step)
  | [] => pure []
  | .property safe name :: rest => do
    return .property safe name :: (← runLinks run around rest)
  | .index safe i :: rest => do
    let i ← run around (.expr i)
    return .index safe i :: (← runLinks run around rest)
  | .method safe name args :: rest => do
    let args ← runAll run around args
    return .method safe name args :: (← runLinks run around rest)

/-- The value at the end of a chain. -/
def walk (run : Runner) (around : Surroundings) : List Step → Value → Run Value
  | [], v => pure v
  | step :: rest, v =>
    if step.isSafe && v.isUnit then pure .unit
    else do
      let w ← match step with
        | .property _ name => Run.of (v.property name)
        | .index _ i => Run.of (v.element i)
        | .method _ name args => callMethod run around v name args
      walk run around rest w

/-- A chain up to the first method call, if that changes the value that it is called on. -/
structure Changing where
  /-- The steps before the call. -/
  before : List Step
  /-- The name of the method. -/
  name : String
  /-- Its arguments. -/
  args : List Value
  /-- The steps after the call. -/
  after : List Step

/-- Takes a chain apart at its first method call, if that changes the value that it is called on. -/
def splitChanging : List Step → Option Changing
  | [] => none
  | .method safe name args :: rest =>
    if safe || !Value.changing.contains name then none else some ⟨[], name, args, rest⟩
  | step :: rest => (splitChanging rest).map fun c => { c with before := step :: c.before }

/-- Changes the value at a place in a cell by a method call, and goes on with the value of that. -/
def runChanging (run : Runner) (around : Surroundings) (cell : Nat) (isConst : Bool)
    (c : Changing) : Run Value := do
  match ← Run.of (Value.valueAt? c.before (← load cell)) with
  | none => return .unit
  | some v =>
    if (ownMethod? v c.name).isSome then
      walk run around c.after (← callMethod run around v c.name c.args)
    else if isConst then fails .constantMethod
    else
      let (new, result) ← runChange run around c.name v c.args
      update cell (Value.change (fun _ => .ok new) c.before)
      walk run around c.after result

/-- Runs a chain from a variable, whose value a method call may change. -/
def runVariableChain (run : Runner) (around : Surroundings) (name : String) (steps : List Step) :
    Run Value := do
  let (cell, isConst) ← cellOf around name
  match splitChanging steps with
  | none => walk run around steps (← load cell)
  | some ⟨[], "push", [item], after⟩ =>
    if isConst then fails .constantMethod
    else
      push cell item
      walk run around after .unit
  | some c => runChanging run around cell isConst c

/-- Runs a chain. -/
def runChain (run : Runner) (around : Surroundings) (root : Expr) (links : List Link) :
    Run Value := do
  let steps ← runLinks run around links
  match root with
  | .variable name => runVariableChain run around name steps
  | root =>
    let v ← run around (.expr root)
    walk run around steps v

/-- Runs an assignment. -/
def runAssign (run : Runner) (around : Surroundings) (name : String) (links : List Link)
    (op : Option Operator) (value : Expr) : Run Value := do
  let new ← run around (.expr value)
  let steps ← runLinks run around links
  let (cell, isConst) ← cellOf around name
  if isConst then fails .constant
  else
    update cell (Value.change (Value.assigned op new) steps)
    return .unit

/-- Runs expressions up to the first one whose value is not the absent one. -/
def runFirstOf (run : Runner) (around : Surroundings) : List Expr → Run Value
  | [] => pure .unit
  | e :: rest => do
    match ← run around (.expr e) with
    | .unit => runFirstOf run around rest
    | v => return v

/-- Runs two operands with their operator. The right operand of a conjunction and of a disjunction
is run only if the left one does not decide. -/
def runBinary (run : Runner) (around : Surroundings) (op : Operator) (l r : Expr) : Run Value :=
  match op with
  | .and => do
    if ← runCondition run around l then return .bool (← runCondition run around r)
    else return .bool false
  | .or => do
    if ← runCondition run around l then return .bool true
    else return .bool (← runCondition run around r)
  | op => do
    let v ← run around (.expr l)
    let w ← run around (.expr r)
    Run.of (Value.applyOperator op v w)

/-- Whether a call changes the variable that is its first argument: the language has to be the one
that is called, and the variable no constant, which would be copied. -/
def changesVariable (around : Surroundings) (name : String) : List Expr → Bool
  | .variable subject :: others =>
    Value.changing.contains name && (around.function? name (others.length + 1)).isNone &&
      (around.scope.lookup subject).any fun c => !c.2
  | _ => false

/-- Runs a call. A function that changes its first argument changes the variable that this is. -/
def runCall (run : Runner) (around : Surroundings) (name : String) (args : List Expr) : Run Value :=
  match args, changesVariable around name args with
  | subject :: others, true => runChain run around subject [.method false name others]
  | args, _ => do
    let vs ← runAll run around args
    callNamed run around name vs

/-- The value of a function without a name, with the cells of the variables it keeps. -/
def capture (around : Surroundings) (params captured : List String) (body : Stmt) : Run Value := do
  let cells ← captured.mapM fun n => do
    let (cell, isConst) ← cellOf around n
    return (n, cell, isConst)
  return .closure params cells body

/-- Runs an expression, given the way to run its parts. -/
def runExpr (run : Runner) (around : Surroundings) : Expr → Run Value
  | .unit => pure .unit
  | .bool b => pure (.bool b)
  | .int i => pure (.int i)
  | .float x => pure (.float x)
  | .char c => pure (.char c)
  | .text s => pure (.text s)
  | .mixed parts => do
    let vs ← runAll run around parts
    return .text (String.join (vs.map Value.plainText))
  | .array items => do return .array (← runAll run around items).toArray
  | .map members => do return .map (← runMembers run around [] members)
  | .variable name => do load (← cellOf around name).1
  | .this => fails .noObject
  | .call name args => runCall run around name args
  | .unary name e => do
    let v ← run around (.expr e)
    Run.of (Value.unaryOperation name v)
  | .binary op l r => runBinary run around op l r
  | .firstOf items => runFirstOf run around items
  | .chain root links => runChain run around root links
  | .statement s => run around (.stmt s)
  | .closure params captured body => capture around params captured body

/-- Runs a statement, given the way to run its parts. -/
def runStmt (run : Runner) (around : Surroundings) : Stmt → Run Value
  | .skip => pure .unit
  | .expr e => run around (.expr e)
  | .declare _ _ init => do
    let _ ← run around (.expr init)
    return .unit
  | .assign name links op value => runAssign run around name links op value
  | .block body => runBlock run around body .unit
  | .choose c yes no => do
    if ← runCondition run around c then runBlock run around yes .unit
    else runBlock run around no .unit
  | .switch subject cases => runSwitch run around subject cases
  | .repeatWhile c body => runRepeatWhile run around c body
  | .runThenRepeat body c on => runThenRepeat run around body c on
  | .forEach name counter items body => runForEach run around name counter items body
  | .leave e => do throw (.left (← runOptional run around e))
  | .next => throw .next
  | .give e => do throw (.given (← runOptional run around e))
  | .fail e => do fails (.thrown (← runOptional run around e))
  | .attempt body name handler => runAttempt run around body name handler

/-- Runs a part of a script that is nested no deeper than `fuel`. -/
def run : Nat → Runner
  | 0, _, _ => fails .tooManyCalls
  | fuel + 1, around, code => do
    tick
    match code with
    | .expr e => runExpr (run fuel) around e
    | .stmt s => runStmt (run fuel) around s

/-- How deep the parts of a script can be nested, all calls included. -/
def nesting : Nat := 1000 * (callLimit + 2)

/-- The value of a function of a program. Its other statements are run before. -/
def Program.call (p : Program) (name : String) (args : List Value) : Outcome Value :=
  let around : Surroundings := { functions := p.functions }
  let whole : Run Value := do
    let _ ← catchGiven (runBlock (run nesting) around p.body .unit)
    match p.functions.find? fun f => f.name == name && f.params.length == args.length with
    | some f => runBody (run nesting) around [] f.params args f.body
    | none => fails .unknownFunction
  match whole {} with
  | .ok v _ => .ok v
  | .error (.fault f) _ => .error f
  | .error (.given v) _ => .ok v
  | .error (.left _) _ | .error .next _ => .error .noLoop

/-- The program that a script stands for, made simple. -/
def Program.ofScript (source : List Char) : Outcome Program :=
  match Program.parse? source with
  | some p => .ok p.simplify
  | none => .error .malformed

end NavigationBar.Script

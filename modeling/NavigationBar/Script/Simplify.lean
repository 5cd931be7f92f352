import NavigationBar.Script.Builtin
import NavigationBar.Script.Purity
import NavigationBar.Script.Selection

/-!
# Simplification

What a script does without being run. Operators between literals are computed, a choice with a
known condition is made, the case of a `switch` on a known value is selected, and statements that
need not be run go. A conjunction or disjunction with a known operand is the other operand, of
whatever type that is. A variable that becomes what an operator makes of it is assigned with the
operator, so that anything can be added to a list.
-/

namespace NavigationBar.Script

/-- Whether an operator is computed between two literals. A text takes in other values only when the
script is run. -/
def isComputed (op : Operator) (v w : Value) : Bool :=
  match op, v, w with
  | .isIn, _, _ => false
  | .isNotIn, _, _ => false
  | .add, .text _, .text _ => true
  | .add, .text _, .char _ => true
  | .add, .char _, .text _ => true
  | .add, .text _, _ => false
  | .add, _, .text _ => false
  | _, _, _ => true

/-- Two operands that are simple, with their operator. -/
def joinSimple (op : Operator) (l r : Expr) : Expr :=
  match op, l, r with
  | .and, .bool true, r => r
  | .and, .bool false, _ => .bool false
  | .and, l, .bool true => l
  | .or, .bool false, r => r
  | .or, .bool true, _ => .bool true
  | .or, l, .bool false => l
  | .and, l, r => .binary .and l r
  | .or, l, r => .binary .or l r
  | op, l, r =>
    let v := l.literalValue
    let w := r.literalValue
    if l.isAtom && r.isAtom && isComputed op v w then
      match Value.literalOperation op v w with
      | .ok u => (Expr.ofValue? u).getD (.binary op l r)
      | .error _ => .binary op l r
    else .binary op l r

/-- The operands of `??` that may be its value: none is the absent value, and none comes after a
constant. -/
def candidates : List Expr → List Expr
  | [] => []
  | .unit :: rest => candidates rest
  | e :: rest => if e.isConstant then [e] else e :: candidates rest

/-- Simple operands with `??` between them. Where all of them are the absent value, it is false. -/
def firstOfSimple (items : List Expr) : Expr :=
  match candidates items with
  | [] => .bool false
  | [e] => e
  | items => .firstOf items

/-- A chain whose parts are simple. A part of a literal that is asked for at once is taken from it
if the other parts are pure. -/
def chainSimple (root : Expr) (links : List Link) : Expr :=
  let member (members : List (String × Expr)) (k : String) : Expr :=
    if members.all fun m => m.2.isPure then (members.lookup k).getD .unit
    else .chain root links
  match root, links with
  | .map members, [.property _ k] => member members k
  | .map members, [.index _ (.text k)] => member members k
  | .array items, [.index _ (.int i)] =>
    let i := if i < 0 then i + items.length else i
    if 0 ≤ i ∧ items.all Expr.isPure then (items[i.toNat]?).getD (.chain root links)
    else .chain root links
  | root, links => .chain root links

/-- The known constants around a place, the latest first; variables are there without a value. -/
abbrev Constants := List (String × Option Expr)

/-- The value of a name that is a known constant. -/
def Constants.value? (known : Constants) (name : String) : Option Expr :=
  (known.lookup name).bind id

/-- A statement in place of an expression, the statement being simple. -/
def ofSimpleStmt : Stmt → Expr
  | .expr e => e
  | .skip => .unit
  | .block [.expr e] => e
  | .block [] => .unit
  | s => .statement s

/-- An expression in place of a statement, the expression being simple. -/
def ofSimpleExpr : Expr → Stmt
  | .statement s => s
  | e => .expr e

/-- A block whose statements are simple: nothing, its only statement, or the block. -/
def ofSimpleBlock : List Stmt → Stmt
  | [] => .skip
  | [s] => if s.isDeclaration then .block [s] else s
  | body => .block body

/-- Statements with those of a block among them, if it has no variables of its own, in its place. -/
def spliced (s : Stmt) (rest : List Stmt) : List Stmt :=
  match s with
  | .block body => if body.any Stmt.isDeclaration then .block body :: rest else body ++ rest
  | s => s :: rest

/-- A choice whose parts are simple. -/
def chooseSimple (c : Expr) (yes no : List Stmt) : Stmt :=
  match c with
  | .bool true => ofSimpleBlock yes
  | .bool false => ofSimpleBlock no
  | c =>
    if yes.isEmpty && no.isEmpty then
      if c.isPure then .skip else .block [.expr c, .skip]
    else .choose c yes no

/-- A loop whose parts are simple; one that ends in its first round is its condition. -/
def repeatSimple (c : Option Expr) (body : List Stmt) : Stmt :=
  match c, body with
  | some (.bool false), _ => .skip
  | some (.bool true), [.leave none] => .skip
  | some (.bool true), body => .repeatWhile none body
  | none, [.leave none] => .skip
  | some c, [.leave none] => .block [.expr c, .skip]
  | c, body => .repeatWhile c body

/-- A loop whose parts are simple and whose condition comes last; one that has a single round is its
body. -/
def runThenRepeatSimple (body : List Stmt) (c : Expr) (on : Bool) : Stmt :=
  match c with
  | .bool b => if b == on then .runThenRepeat body (.bool b) on else ofSimpleBlock body
  | c => .runThenRepeat body c on

/-- A block whose parts are simple, with the one that takes over its failures. -/
def attemptSimple (body : List Stmt) (name : Option String) (handler : List Stmt) : Stmt :=
  if arePure body then ofSimpleBlock body else .attempt body name handler

/-- An assignment whose parts are simple. -/
def assignSimple (name : String) (links : List Link) (op : Option Operator) (value : Expr) : Stmt :=
  match links, op, value with
  | [], none, .binary op (.variable old) change =>
    if old == name && op.isAssignable then .assign name [] (some op) change
    else .assign name [] none (.binary op (.variable old) change)
  | links, op, value => .assign name links op value

/-- The body of a case that fits, or another statement if its guard does not hold. -/
def Case.orElse (c : Case) (other : Stmt) : Stmt :=
  match c.guard? with
  | none => ofSimpleBlock c.body.toBlock
  | some g => chooseSimple g c.body.toBlock other.toBlock

/-- A `switch` whose parts are simple. If the value is known, the case is selected. Of several cases
with that value, only one without a guard is; several ranges of which some have guards are left to
be selected when the script is run. -/
def switchSimple (subject : Expr) (cases : List Case) : Stmt :=
  if !subject.isLiteral then .switch subject cases
  else
    let v := subject.literalValue
    let other := ofSimpleBlock (((defaultBody? cases).map Stmt.toBlock).getD [])
    let same := cases.filter (Case.hasValue v)
    match same, same.find? Case.isUnguarded with
    | [c], _ => c.orElse other
    | _, some c => c.orElse other
    | _, none =>
      let ranged := cases.flatMap fun c => (c.patterns.filter Pattern.isRange).map fun _ => c
      if ranged.length ≤ 1 || ranged.all Case.isUnguarded then
        match cases.find? (Case.covers v) with
        | some c => c.orElse other
        | none => other
      else .switch subject (cases.filter fun c => c.covers v || c.isDefault)

mutual

/-- The simple expression that is run in place of an expression. -/
def Expr.simplify (known : Constants) : Expr → Expr
  | .variable name => (known.value? name).getD (.variable name)
  | .mixed parts => .mixed (simplifyExprs known parts)
  | .array items => .array (simplifyExprs known items)
  | .map members => .map (simplifyMembers known members)
  | .call name args => .call name (simplifyExprs known args)
  | .unary name e => .unary name (e.simplify known)
  | .binary op l r => joinSimple op (l.simplify known) (r.simplify known)
  | .firstOf items => firstOfSimple (simplifyExprs known items)
  | .chain (.variable name) links => .chain (.variable name) (simplifyLinks known links)
  | .chain root links => chainSimple (root.simplify known) (simplifyLinks known links)
  | .statement s => ofSimpleStmt (s.simplify known true)
  | .closure params captured (.block body) =>
    .closure params captured (.block (tidy true false (simplifyStmts [] true body)))
  | .closure params captured body => .closure params captured (body.simplify [] true)
  | e => e

/-- Simple elements of a list. -/
def simplifyExprs (known : Constants) : List Expr → List Expr
  | [] => []
  | e :: rest => e.simplify known :: simplifyExprs known rest

/-- Simple members of a map. -/
def simplifyMembers (known : Constants) : List (String × Expr) → List (String × Expr)
  | [] => []
  | (k, e) :: rest => (k, e.simplify known) :: simplifyMembers known rest

/-- Simple links of a chain. -/
def simplifyLinks (known : Constants) : List Link → List Link
  | [] => []
  | .property safe name :: rest => .property safe name :: simplifyLinks known rest
  | .index safe i :: rest => .index safe (i.simplify known) :: simplifyLinks known rest
  | .method safe name args :: rest =>
    .method safe name (simplifyExprs known args) :: simplifyLinks known rest

/-- A simple expression where there may be one. -/
def simplifyOptional (known : Constants) : Option Expr → Option Expr
  | none => none
  | some e => some (e.simplify known)

/-- Simple cases of a `switch`. -/
def simplifyCases (known : Constants) : List Case → List Case
  | [] => []
  | .mk patterns g body :: rest =>
    .mk patterns (simplifyOptional known g) (body.simplify known true) :: simplifyCases known rest

/-- The simple statement that is run in place of a statement; `keep` tells whether its value is
kept. -/
def Stmt.simplify (known : Constants) (keep : Bool) : Stmt → Stmt
  | .skip => .skip
  | .expr e => ofSimpleExpr (e.simplify known)
  | .declare isConst name init => .declare isConst name (init.simplify known)
  | .assign name links op value =>
    assignSimple name (simplifyLinks known links) op (value.simplify known)
  | .block body => ofSimpleBlock (tidy keep true (simplifyStmts known keep body))
  | .choose c yes no =>
    chooseSimple (c.simplify known) (tidy keep true (simplifyStmts known keep yes))
      (tidy keep true (simplifyStmts known keep no))
  | .switch subject cases => switchSimple (subject.simplify known) (simplifyCases known cases)
  | .repeatWhile c body =>
    repeatSimple (simplifyOptional known c) (tidy false true (simplifyStmts known false body))
  | .runThenRepeat body c on =>
    runThenRepeatSimple (tidy false true (simplifyStmts known false body)) (c.simplify known) on
  | .forEach name counter items body =>
    let inner := (name, none) :: (counter.toList.map fun n => (n, none)) ++ known
    .forEach name counter (items.simplify known) (tidy false true (simplifyStmts inner false body))
  | .leave e => .leave (simplifyOptional known e)
  | .next => .next
  | .give e => .give (simplifyOptional known e)
  | .fail e => .fail (simplifyOptional known e)
  | .attempt body name handler =>
    let inner := (name.toList.map fun n => (n, none)) ++ known
    attemptSimple (tidy false true (simplifyStmts known false body)) name
      (tidy false true (simplifyStmts inner false handler))

/-- Simple statements, each of which knows the constants before it. -/
def simplifyStmts (known : Constants) (keep : Bool) : List Stmt → List Stmt
  | [] => []
  | .declare isConst name init :: rest =>
    let init := init.simplify known
    let known := (name, if isConst && init.isAtom then some init else none) :: known
    .declare isConst name init :: simplifyStmts known keep rest
  | s :: rest => spliced (s.simplify known keep) (simplifyStmts known keep rest)

end

/-- A simple body of a function. -/
def simplifyBlock (body : List Stmt) : List Stmt :=
  tidy true false (simplifyStmts [] true body)

/-- The simple program that is run in place of a program. -/
def Program.simplify (p : Program) : Program where
  functions := p.functions.map fun f => { f with body := simplifyBlock f.body }
  body := simplifyBlock p.body

end NavigationBar.Script

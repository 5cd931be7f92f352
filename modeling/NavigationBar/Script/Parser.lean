import NavigationBar.Script.Lexer
import NavigationBar.Script.Selection

/-!
# From tokens to syntax

A parser by recursive descent, with operators by their precedence. It refuses what can be seen to
be wrong before anything is run: conditions and indices that are literals of a wrong type,
assignments to constants or to what is no variable, `break` outside of a loop, and too deep
nesting.
-/

namespace NavigationBar.Script

/-- The state of the parser. -/
structure Reading where
  /-- The tokens to come. -/
  tokens : List Token
  /-- The variables of the function that is being read, the latest first; constants are marked. -/
  scope : List (String × Bool) := []
  /-- The variables that are named in the function but do not belong to it. -/
  free : List String := []

/-- A part of the parser. Only that it fails is told. -/
abbrev Parse := StateT Reading Option

/-- Where in a script the parser is. -/
structure Place where
  /-- How deep it is nested. -/
  depth : Nat := 0
  /-- How deep it may be nested. -/
  limit : Nat
  /-- Whether it is in a loop. -/
  inLoop : Bool := false
  /-- Whether a bar ends an expression. -/
  barEnds : Bool := false
  /-- Whether it is outside of all blocks and functions. -/
  isTop : Bool := false

namespace Parse

/-- The next token. -/
def peek : Parse (Option Token) := do
  return (← get).tokens.head?

/-- Goes past a token. -/
def advance : Parse Unit :=
  modify fun r => { r with tokens := r.tokens.tail }

/-- Takes a token. -/
def take : Parse Token := do
  match ← peek with
  | some t =>
    advance
    return t
  | none => failure

/-- Goes past a sign if it comes next; tells whether it did. -/
def skips (s : Sign) : Parse Bool := do
  match ← peek with
  | some (.sign t) =>
    if s = t then
      advance
      return true
    else return false
  | _ => return false

/-- Goes past a word if it comes next; tells whether it did. -/
def skipsWord (k : Keyword) : Parse Bool := do
  match ← peek with
  | some (.keyword w) =>
    if k = w then
      advance
      return true
    else return false
  | _ => return false

/-- Goes past a sign, which has to come next. -/
def expects (s : Sign) : Parse Unit := do
  guard (← skips s)

/-- Goes past a word, which has to come next. -/
def expectsWord (k : Keyword) : Parse Unit := do
  guard (← skipsWord k)

/-- Whether a sign comes next. -/
def sees (s : Sign) : Parse Bool := do
  match ← peek with
  | some (.sign t) => return decide (s = t)
  | _ => return false

/-- Takes a name. -/
def takeName : Parse String := do
  match ← take with
  | .name s => return s
  | _ => failure

/-- A place one level deeper, if there may be one. -/
def deeper (p : Place) : Parse Place :=
  if p.depth < p.limit then pure { p with depth := p.depth + 1 } else failure

/-- Adds a variable. -/
def declares (name : String) (isConst : Bool) : Parse Unit :=
  modify fun r => { r with scope := (name, isConst) :: r.scope }

/-- Notes that a variable is named. -/
def names (name : String) : Parse Unit :=
  modify fun r =>
    if (r.scope.lookup name).isSome || r.free.contains name then r
    else { r with free := r.free ++ [name] }

/-- Runs a part of the parser; the variables that it adds are gone afterwards. -/
def enclosed {α : Type} (p : Parse α) : Parse α := do
  let scope := (← get).scope
  let a ← p
  modify fun r => { r with scope }
  return a

/-- Refuses a literal that cannot be a condition. -/
def condition (e : Expr) : Parse Expr :=
  match e with
  | .unit | .int _ | .float _ | .char _ | .text _ | .mixed _ | .array _ | .map _ => failure
  | e => pure e

/-- Refuses a literal whose elements cannot be taken one by one. -/
def iterable (e : Expr) : Parse Expr :=
  match e with
  | .unit | .bool _ | .int _ | .float _ | .char _ | .map _ => failure
  | e => pure e

/-- Whether a literal can never be an index of a list or a text. -/
def isNoPosition : Expr → Bool
  | .text _ | .mixed _ | .float _ | .char _ | .unit | .bool _ => true
  | .binary .and _ _ | .binary .or _ _ => true
  | _ => false

/-- Whether a literal can never be an index of a map. -/
def isNoKey : Expr → Bool
  | .int _ | .float _ | .char _ | .unit | .bool _ => true
  | .binary .and _ _ | .binary .or _ _ => true
  | _ => false

/-- Refuses an index that cannot fit what is indexed. -/
def indexFits (e i : Expr) : Parse Unit :=
  match e with
  | .map _ => guard (!isNoKey i)
  | .int _ | .array _ | .text _ | .mixed _ => guard (!isNoPosition i)
  | .float _ | .char _ | .unit | .bool _ => failure
  | .binary .and _ _ | .binary .or _ _ => failure
  | _ => pure ()

/-- An expression with one more link. -/
def withLink (e : Expr) (l : Link) : Expr :=
  match e with
  | .chain root links => .chain root (links ++ [l])
  | e => .chain e [l]

/-- The pattern of a case of a `switch`. -/
def pattern (e : Expr) : Parse (Pattern Expr) :=
  match e with
  | .binary .range (.int a) (.int b) => pure (.range a b false)
  | .binary .rangeClosed (.int a) (.int b) => pure (.range a b true)
  | e => if e.isLiteral then pure (.literal e) else failure

/-- Refuses a number among the patterns of a case if a range comes before it, in the same case or,
as `ranged` says, in an earlier one. Whether there is a range by then is the result. -/
def numbersFirst (ranged : Bool) : List (Pattern Expr) → Parse Bool
  | [] => pure ranged
  | x :: rest => do
    guard (!(ranged && x.isNumber))
    numbersFirst (ranged || x.isRange) rest

/-- The statement that assigns to a place. -/
def assignment (target : Expr) (op : Option Operator) (value : Expr) : Parse Stmt :=
  match target with
  | .variable name => do
    if (← get).scope.lookup name = some true then failure
    return .assign name [] op value
  | .chain (.variable name) links =>
    if links.all fun | .method .. => false | _ => true then pure (.assign name links op value)
    else failure
  | _ => failure

/-- The negation of an operand; that of a number is a number. -/
def negated (e : Expr) : Expr :=
  match e with
  | .int i =>
    if i = -(twoTo 63) then .float (9223372036854775808.0) else .int (-i)
  | .float x => .float (-x)
  | e => .unary "-" e

/-- An operand after a plus sign. -/
def affirmed (e : Expr) : Expr :=
  match e with
  | .int i => .int i
  | .float x => .float x
  | e => .unary "+" e

/-- Two operands with their operator. -/
def joined (op : Operator) (l r : Expr) : Parse Expr :=
  match op with
  | .and | .or => do return .binary op (← condition l) (← condition r)
  | .coalesce =>
    match l with
    | .firstOf items => pure (.firstOf (items ++ [r]))
    | l => pure (.firstOf [l, r])
  | op => pure (.binary op l r)

/-- The operator that comes next, if it binds tighter than the one before the left operand, whose
precedence is `least`. -/
def nextOperator (p : Place) (least : Nat) : Parse (Option Operator) := do
  match ← peek with
  | some (.operator op) =>
    if p.barEnds && op == .bitOr then return none
    else if least < op.precedence || (least == op.precedence && op.isRightAssociative) then
      return some op
    else return none
  | _ => return none

end Parse

open Parse

mutual

/-- Reads an expression. -/
def readExpr (p : Place) (fuel : Nat) : Parse Expr :=
  match fuel with
  | 0 => failure
  | fuel + 1 => do
    let p ← deeper p
    let l ← readUnary p fuel
    readBinary p 1 l fuel
termination_by structural fuel

/-- Goes on after a left operand with operators that bind tighter than `least`. -/
def readBinary (p : Place) (least : Nat) (l : Expr) (fuel : Nat) : Parse Expr :=
  match fuel with
  | 0 => failure
  | fuel + 1 => do
    match ← nextOperator p least with
    | none => return l
    | some op =>
      advance
      let r ← readUnary p fuel
      let r ← readTighter p op r fuel
      let p ← deeper p
      let e ← joined op l r
      readBinary p least e fuel
termination_by structural fuel

/-- Goes on after the right operand of an operator if the next one binds tighter. -/
def readTighter (p : Place) (op : Operator) (r : Expr) (fuel : Nat) : Parse Expr :=
  match fuel with
  | 0 => failure
  | fuel + 1 => do
    match ← nextOperator p op.precedence with
    | none => return r
    | some _ => readBinary p op.precedence r fuel
termination_by structural fuel

/-- Reads an operand with the operators in front of it. -/
def readUnary (p : Place) (fuel : Nat) : Parse Expr :=
  match fuel with
  | 0 => failure
  | fuel + 1 => do
    match ← peek with
    | some (.operator .sub) =>
      advance
      let p ← deeper p
      let e ← readUnary p fuel
      return negated e
    | some (.operator .add) =>
      advance
      let p ← deeper p
      let e ← readUnary p fuel
      return affirmed e
    | some (.sign .bang) =>
      advance
      let p ← deeper p
      let e ← readUnary p fuel
      return .unary "!" e
    | _ =>
      let e ← readRoot p fuel
      readLinks p e fuel
termination_by structural fuel

/-- Reads an operand without its links. -/
def readRoot (p : Place) (fuel : Nat) : Parse Expr :=
  match fuel with
  | 0 => failure
  | fuel + 1 => do
    if ← sees .openBrace then
      let p ← deeper p
      let body ← readBlock p fuel
      return .statement (.block body)
    let t ← take
    match t with
    | .int i => return .int i
    | .float x => return .float x
    | .char c => return .char c
    | .text s => return .text s
    | .mixed parts last =>
      let parts ← readMixedParts p parts fuel
      return .mixed (if last = "" then parts else parts ++ [.text last])
    | .name s =>
      if ← skips .openParen then
        let p ← deeper p
        let args ← readItems p .closeParen fuel
        return .call s args
      else
        names s
        return .variable s
    | .functionName s =>
      expects .openParen
      let p ← deeper p
      let args ← readItems p .closeParen fuel
      return .call s args
    | .operator .bitOr =>
      let p ← deeper p
      readClosure p fuel
    | .operator .or =>
      let p ← deeper p
      readClosureBody p [] fuel
    | .sign .openParen =>
      if ← skips .closeParen then return .unit
      else
        let p ← deeper p
        let e ← readExpr { p with barEnds := false } fuel
        expects .closeParen
        return e
    | .sign .openBracket =>
      let p ← deeper p
      let items ← readItems { p with barEnds := false } .closeBracket fuel
      return .array items
    | .sign .openMap =>
      let p ← deeper p
      let members ← readMembers { p with barEnds := false } [] fuel
      return .map members
    | .keyword k =>
      match k with
      | .trueWord => return .bool true
      | .falseWord => return .bool false
      | .thisWord => return .this
      | .ifWord | .switchWord | .whileWord | .loopWord | .doWord | .forWord =>
        let p ← deeper p
        let s ← readCompound p k fuel
        return .statement s
      | _ => failure
    | _ => failure
termination_by structural fuel

/-- Reads the parts of a text with code in it. -/
def readMixedParts (p : Place) (parts : List (String × List Token)) (fuel : Nat) :
    Parse (List Expr) :=
  match fuel with
  | 0 => failure
  | fuel + 1 =>
    match parts with
    | [] => return []
    | (s, code) :: rest => do
      let after := (← get).tokens
      modify fun r => { r with tokens := .sign .openBrace :: code ++ [.sign .closeBrace] }
      let p' ← deeper p
      let body ← readBlock p' fuel
      modify fun r => { r with tokens := after }
      let e := Expr.statement (.block body)
      let rest ← readMixedParts p rest fuel
      return (if s = "" then [e] else [.text s, e]) ++ rest
termination_by structural fuel

/-- Reads the links after a root. -/
def readLinks (p : Place) (e : Expr) (fuel : Nat) : Parse Expr :=
  match fuel with
  | 0 => failure
  | fuel + 1 => do
    match ← peek with
    | some (.sign .dot) =>
      advance
      let e ← readMember p e false fuel
      readLinks p e fuel
    | some (.sign .safeDot) =>
      advance
      let e ← readMember p e true fuel
      readLinks p e fuel
    | some (.sign .openBracket) =>
      advance
      let e ← readIndex p e false fuel
      readLinks p e fuel
    | some (.sign .openSafeBracket) =>
      advance
      let e ← readIndex p e true fuel
      readLinks p e fuel
    | _ => return e
termination_by structural fuel

/-- Reads a property or a method call after its dot. -/
def readMember (p : Place) (e : Expr) (safe : Bool) (fuel : Nat) : Parse Expr :=
  match fuel with
  | 0 => failure
  | fuel + 1 => do
    let t ← take
    match t with
    | .name s =>
      if ← skips .openParen then
        let p ← deeper p
        let args ← readItems p .closeParen fuel
        return withLink e (.method safe s args)
      else return withLink e (.property safe s)
    | .functionName s =>
      if ["type_of", "call", "curry", "is_shared"].contains s then
        expects .openParen
        let p ← deeper p
        let args ← readItems p .closeParen fuel
        return withLink e (.method safe s args)
      else failure
    | _ => failure
termination_by structural fuel

/-- Reads an index after its opening bracket. -/
def readIndex (p : Place) (e : Expr) (safe : Bool) (fuel : Nat) : Parse Expr :=
  match fuel with
  | 0 => failure
  | fuel + 1 => do
    let p ← deeper p
    let i ← readExpr { p with barEnds := false } fuel
    indexFits e i
    expects .closeBracket
    return withLink e (.index safe i)
termination_by structural fuel

/-- Reads expressions between commas up to a closing sign. -/
def readItems (p : Place) (closing : Sign) (fuel : Nat) : Parse (List Expr) :=
  match fuel with
  | 0 => failure
  | fuel + 1 => do
    if ← skips closing then return []
    else
      let e ← readExpr { p with barEnds := false } fuel
      if ← skips .comma then
        let rest ← readItems p closing fuel
        return e :: rest
      else
        expects closing
        return [e]
termination_by structural fuel

/-- Reads the members of a map, no two of one key, up to the closing brace. -/
def readMembers (p : Place) (done : List (String × Expr)) (fuel : Nat) :
    Parse (List (String × Expr)) :=
  match fuel with
  | 0 => failure
  | fuel + 1 => do
    if ← skips .closeBrace then return done
    else
      let t ← take
      let key : String ← match t with
        | .name s => pure s
        | .text s => pure s
        | _ => failure
      guard (done.lookup key).isNone
      expects .colon
      let e ← readExpr p fuel
      let done := done ++ [(key, e)]
      if ← skips .comma then readMembers p done fuel
      else
        expects .closeBrace
        return done
termination_by structural fuel

/-- Reads a function without a name after its opening bar. -/
def readClosure (p : Place) (fuel : Nat) : Parse Expr :=
  match fuel with
  | 0 => failure
  | fuel + 1 => do
    let params ← readParams (.operator .bitOr) [] fuel
    readClosureBody p params fuel
termination_by structural fuel

/-- Reads parameters, no two of one name, up to a closing token. -/
def readParams (closing : Token) (done : List String) (fuel : Nat) : Parse (List String) :=
  match fuel with
  | 0 => failure
  | fuel + 1 => do
    let isClosing (t : Token) : Bool :=
      match closing, t with
      | .operator a, .operator b => a == b
      | .sign a, .sign b => a == b
      | _, _ => false
    let t ← take
    match t with
    | .name s =>
      guard (!done.contains s)
      let done := done ++ [s]
      let t ← take
      match t with
      | .sign .comma => readParams closing done fuel
      | t => if isClosing t then return done else failure
    | t => if isClosing t then return done else failure
termination_by structural fuel

/-- Reads the body of a function without a name. -/
def readClosureBody (p : Place) (params : List String) (fuel : Nat) : Parse Expr :=
  match fuel with
  | 0 => failure
  | fuel + 1 => do
    let before ← get
    set { before with scope := params.map fun s => (s, false), free := [] }
    let p ← deeper p
    let body ← readStmt { p with inLoop := false, barEnds := false } fuel
    let captured := (← get).free
    modify fun r => { r with scope := before.scope, free := before.free }
    captured.forM names
    return .closure params captured body
termination_by structural fuel

/-- Reads statements between braces. -/
def readBlock (p : Place) (fuel : Nat) : Parse (List Stmt) :=
  match fuel with
  | 0 => failure
  | fuel + 1 => do
    expects .openBrace
    let p ← deeper p
    enclosed (readStmts { p with isTop := false, barEnds := false } fuel)
termination_by structural fuel

/-- Reads statements up to the closing brace. -/
def readStmts (p : Place) (fuel : Nat) : Parse (List Stmt) :=
  match fuel with
  | 0 => failure
  | fuel + 1 => do
    if ← skips .closeBrace then return []
    else
      let s ← readStmt p fuel
      if s.isSkip then
        let rest ← readStmts p fuel
        return rest
      else if ← skips .closeBrace then return [s]
      else
        let ended ← skips .semicolon
        guard (ended || s.isSelfTerminated)
        let rest ← readStmts p fuel
        return s :: rest
termination_by structural fuel

/-- Reads a statement. -/
def readStmt (p : Place) (fuel : Nat) : Parse Stmt :=
  match fuel with
  | 0 => failure
  | fuel + 1 => do
    let t? ← peek
    match t? with
    | none => return .skip
    | some (.sign .semicolon) =>
      advance
      return .skip
    | some (.sign .openBrace) =>
      let p ← deeper p
      let body ← readBlock p fuel
      return .block body
    | some (.keyword k) =>
      match k with
      | .ifWord | .switchWord | .whileWord | .loopWord | .doWord | .forWord =>
        advance
        let p ← deeper p
        readCompound p k fuel
      | .tryWord =>
        advance
        let p ← deeper p
        let body ← readBlock p fuel
        expectsWord .catchWord
        let named ← skips .openParen
        if named then
          let name ← takeName
          expects .closeParen
          enclosed do
            declares name false
            let handler ← readBlock p fuel
            return .attempt body (some name) handler
        else
          let handler ← readBlock p fuel
          return .attempt body none handler
      | .letWord | .constWord =>
        advance
        let name ← takeName
        match ← peek with
        | some (.assign none) =>
          advance
          let p ← deeper p
          let e ← readExpr p fuel
          declares name (k == .constWord)
          return .declare (k == .constWord) name e
        | _ =>
          declares name (k == .constWord)
          return .declare (k == .constWord) name .unit
      | .continueWord =>
        advance
        guard p.inLoop
        return .next
      | .breakWord =>
        advance
        guard p.inLoop
        let e ← readOptional p fuel
        return .leave e
      | .returnWord =>
        advance
        let e ← readOptional p fuel
        return .give e
      | .throwWord =>
        advance
        let e ← readOptional p fuel
        return .fail e
      | _ => readExprStmt p fuel
    | _ => readExprStmt p fuel
termination_by structural fuel

/-- Reads an expression, or an assignment to one. -/
def readExprStmt (p : Place) (fuel : Nat) : Parse Stmt :=
  match fuel with
  | 0 => failure
  | fuel + 1 => do
    let p ← deeper p
    let e ← readExpr p fuel
    match ← peek with
    | some (.assign op) =>
      advance
      let v ← readExpr p fuel
      assignment e op v
    | _ => return .expr e
termination_by structural fuel

/-- Reads an expression if there is one before the end of a statement. -/
def readOptional (p : Place) (fuel : Nat) : Parse (Option Expr) :=
  match fuel with
  | 0 => failure
  | fuel + 1 => do
    match ← peek with
    | none => return none
    | some (.sign .semicolon) => return none
    | some (.sign .closeBrace) => if p.isTop then failure else return none
    | _ =>
      let p ← deeper p
      let e ← readExpr p fuel
      return some e
termination_by structural fuel

/-- Reads a condition, which begins with no brace and which no assignment sign follows. -/
def readCondition (p : Place) (fuel : Nat) : Parse Expr :=
  match fuel with
  | 0 => failure
  | fuel + 1 => do
    guard (!(← sees .openBrace))
    let e ← readExpr p fuel
    let e ← condition e
    match ← peek with
    | some (.assign none) => failure
    | _ => return e
termination_by structural fuel

/-- Reads a statement whose first word has been read and which may stand in place of an expression.
-/
def readCompound (p : Place) (k : Keyword) (fuel : Nat) : Parse Stmt :=
  match fuel with
  | 0 => failure
  | fuel + 1 => do
    let p ← deeper p
    match k with
    | .ifWord => readIf p fuel
    | .switchWord =>
      let subject ← readExpr p fuel
      expects .openBrace
      let cases ← readCases p false false fuel
      return .switch subject cases
    | .whileWord =>
      let c ← readCondition p fuel
      let body ← readBlock { p with inLoop := true } fuel
      return .repeatWhile (some c) body
    | .loopWord =>
      let body ← readBlock { p with inLoop := true } fuel
      return .repeatWhile none body
    | .doWord =>
      let body ← readBlock { p with inLoop := true } fuel
      let t ← take
      match t with
      | .keyword .whileWord =>
        let c ← readCondition p fuel
        return .runThenRepeat body c true
      | .keyword .untilWord =>
        let c ← readCondition p fuel
        return .runThenRepeat body c false
      | _ => failure
    | .forWord => readFor p fuel
    | _ => failure
termination_by structural fuel

/-- Reads a choice after its `if`. -/
def readIf (p : Place) (fuel : Nat) : Parse Stmt :=
  match fuel with
  | 0 => failure
  | fuel + 1 => do
    let c ← readCondition p fuel
    let yes ← readBlock p fuel
    if ← skipsWord .elseWord then
      if ← skipsWord .ifWord then
        let p ← deeper p
        let s ← readIf p fuel
        return .choose c yes [s]
      else
        let no ← readBlock p fuel
        return .choose c yes no
    else return .choose c yes []
termination_by structural fuel

/-- Reads a loop over elements after its `for`. -/
def readFor (p : Place) (fuel : Nat) : Parse Stmt :=
  match fuel with
  | 0 => failure
  | fuel + 1 => do
    let counted ← skips .openParen
    let name ← takeName
    let counter : Option String ←
      if counted then do
        expects .comma
        let counter ← takeName
        guard (counter ≠ name)
        expects .closeParen
        pure (some counter)
      else pure none
    let t ← take
    match t with
    | .operator .isIn =>
      guard (!(← sees .openBrace))
      let items ← readExpr p fuel
      let items ← iterable items
      enclosed do
        match counter with
        | some c => declares c false
        | none => pure ()
        declares name false
        let body ← readBlock { p with inLoop := true } fuel
        return .forEach name counter items body
    | _ => failure
termination_by structural fuel

/-- Reads the cases of a `switch` up to the closing brace; the default case comes last. Whether
there was a range before is told by `ranged`. -/
def readCases (p : Place) (ranged hasDefault : Bool) (fuel : Nat) : Parse (List Case) :=
  match fuel with
  | 0 => failure
  | fuel + 1 => do
    if ← skips .closeBrace then return []
    else if hasDefault then failure
    else
      let isDefault ← skips .underscore
      let patterns ← if isDefault then pure [] else readPatterns { p with barEnds := true } fuel
      let guarded ← skipsWord .ifWord
      let g : Option Expr ←
        if guarded then do
          guard (!isDefault)
          let c ← readCondition p fuel
          pure (some c)
        else pure none
      expects .arrow
      let body ← readStmt p fuel
      let ended ← skips .comma
      guard (ended || body.isSelfTerminated || (← sees .closeBrace))
      let ranged ← numbersFirst ranged patterns
      let rest ← readCases p ranged isDefault fuel
      return .mk patterns g body :: rest
termination_by structural fuel

/-- Reads the patterns of a case, with bars between them. -/
def readPatterns (p : Place) (fuel : Nat) : Parse (List (Pattern Expr)) :=
  match fuel with
  | 0 => failure
  | fuel + 1 => do
    let e ← readExpr p fuel
    let x ← pattern e
    match ← peek with
    | some (.operator .bitOr) =>
      advance
      let rest ← readPatterns p fuel
      return x :: rest
    | _ => return [x]
termination_by structural fuel

end

/-- How deep the expressions of a function may be nested. -/
def functionDepth : Nat := 64

/-- How deep expressions outside of functions may be nested. -/
def topDepth : Nat := 128

/-- Reads a function after its `fn`. -/
def readFunction (fuel : Nat) : Parse Function := do
  let name ← takeName
  expects .openParen
  let params ← readParams (.sign .closeParen) [] fuel
  let before ← get
  set { before with scope := params.map fun s => (s, false) }
  let body ← readBlock { limit := functionDepth } fuel
  modify fun r => { r with scope := before.scope }
  return ⟨name, params, body⟩

/-- Reads functions and statements to the end. -/
def readProgram (done : Program) : Nat → Parse Program
  | 0 => failure
  | fuel + 1 => do
    match ← peek with
    | none => return done
    | some (.keyword .fnWord) =>
      advance
      let f ← readFunction fuel
      let clash (g : Function) : Bool :=
        g.name == f.name && g.params.length == f.params.length
      guard (!done.functions.any clash)
      readProgram { done with functions := done.functions ++ [f] } fuel
    | _ =>
      let s ← readStmt { limit := topDepth, isTop := true } fuel
      if s.isSkip then readProgram done fuel
      else
        let done := { done with body := done.body ++ [s] }
        match ← peek with
        | none => return done
        | _ =>
          let ended ← skips .semicolon
          guard (ended || s.isSelfTerminated)
          readProgram done fuel

/-- The program that a script is; none if it is malformed. -/
def Program.parse? (source : List Char) : Option Program := do
  let tokens ← tokenize source
  let (program, _) ← (readProgram {} (12 * source.length + 64)).run { tokens }
  return program

end NavigationBar.Script

/-
Statements and declarations.

Statements stand in lists, each closed by a line end or a semicolon; before the
end of a block or the next case none is needed. The headers of `if`, `for` and
`switch` run up to the opening brace of a block. A name in front of that brace
is never the type of a literal value; for a name with a package or type
arguments both readings are tried, the block first.
-/
import RouteDoc.Go.Grammar.Expressions

namespace RouteDoc.Go.Grammar

open Parse

variable (r : Rules)

/-- A statement in a list of statements. -/
def plainContext : Context := ⟨true, .any, true⟩

def headerContext (bodies : Bodies) : Context := ⟨false, bodies, true⟩

/-- What a simple statement turned out to be. -/
inductive Simple where
  | expression
  | guard
  | other
  deriving DecidableEq

def isAssignment : TokenKind → Bool
  | .sign s =>
    [.assign, .plusEq, .minusEq, .starEq, .slashEq, .percentEq, .ampEq, .pipeEq, .caretEq,
      .shiftLeftEq, .shiftRightEq, .ampCaretEq].contains s
  | _ => false

/-- Operands with commas between them; of a single one, its shape. -/
def operandList (c : Context) : Parse (Option Shape) := fun ts => do
  let (s, ts) ← r.operand c ts
  if continuesWith c.newlineEnds .comma ts then
    if s.isValue then do
      let ts ← r.exprs c.later ts.length (ts.drop 1)
      return (none, ts)
    else none
  else return (some s, ts)

/-- What follows the operands that a simple statement starts with. -/
def simpleRest (c : Context) (s : Option Shape) : Parse Simple := fun ts =>
  let single := s.isSome
  let isValue := match s with
    | some s => s.isValue
    | none => true
  match ts with
  | [] =>
    match s with
    | some s => if s.isValue then some (.expression, []) else if s.isGuard then some (.guard, []) else none
    | none => none
  | t :: rest =>
    if closed c.newlineEnds ts then (if single && isValue then some (.expression, ts) else none)
    else if t.kind == .sign .define then
      if isValue then do
        let (right, ts) ← operandList r c.later rest
        match right with
        | some right =>
          if right.isValue then some (.other, ts)
          else if right.isGuard then some (.guard, ts)
          else none
        | none => some (.other, ts)
      else none
    else if isAssignment t.kind then
      if isValue then do
        let ts ← r.exprs c.later rest.length rest
        return (.other, ts)
      else none
    else if t.kind == .sign .increment || t.kind == .sign .decrement then
      if single && isValue then some (.other, rest) else none
    else if t.kind == .sign .arrow then
      if single && isValue then do
        let ts ← r.expr c.later rest
        return (.other, ts)
      else none
    else
      match s with
      | some s =>
        if s.isValue then some (.expression, ts)
        else if s.isGuard then some (.guard, ts)
        else none
      | none => none

/-- A simple statement. -/
def simple (c : Context) : Parse Simple := fun ts => do
  let (s, ts) ← operandList r c ts
  simpleRest r c s ts

/-! ## Lists of statements -/

/-- Whether a list of statements ends here. -/
def listEnds (ts : List Token) : Bool :=
  ts.isEmpty || atSign .closeBrace ts || atWord .case_ ts || atWord .default_ ts

/-- The tokens behind a label, where one comes next. -/
def label? : List Token → Option (List Token)
  | t :: ts =>
    if t.kind == .name && !isConstant t.text && !isMaker t.text then takeSign .colon ts else none
  | [] => none

/-- A statement of a list, with what follows its terminator. -/
def oneStatement (more : List Token → Option (List Token)) (ts : List Token) : Option (List Token) := do
  let ts ← r.statement ts
  match terminator ts with
  | some ts => more ts
  | none => if listEnds ts then some ts else none

/-- Statements up to the end of their list. A label may stand alone in front of that end. -/
def statements : Nat → List Token → Option (List Token)
  | 0, _ => none
  | fuel + 1, ts =>
    if listEnds ts then some ts
    else
      match label? ts with
      | some rest => if listEnds rest then some rest else oneStatement r (statements fuel) ts
      | none => oneStatement r (statements fuel) ts

/-- The rule for blocks. -/
def blockRule (ts : List Token) : Option (List Token) := do
  let ts ← takeSign .openBrace ts
  let ts ← statements r (ts.length + 1) ts
  takeSign .closeBrace ts

/-! ## Declarations -/

/-- One constant declaration: names, and perhaps a type and values. -/
def constSpec (ts : List Token) : Option (List Token) := do
  let ts ← names ts.length ts
  let values (ts : List Token) : Option (List Token) := do
    let ts ← takeSign .assign ts
    r.exprs ⟨true, .any, false⟩ ts.length ts
  if closed true ts then return ts
  else if atSign .assign ts then values ts
  else if startsType ts || atSign .openParen ts then do
    let ts ← r.skipType true ts
    values ts
  else return ts

/-- One variable declaration: names, and a type, values or both. -/
def varSpec (ts : List Token) : Option (List Token) := do
  let ts ← names ts.length ts
  let values (ts : List Token) : Option (List Token) :=
    r.exprs ⟨true, .any, false⟩ ts.length ts
  match takeSign .assign ts with
  | some ts => values ts
  | none => do
    let ts ← r.skipType true ts
    if continuesWith true .assign ts then values (ts.drop 1) else return ts

/-- A declared type: its name and what it stands for. -/
structure TypeSpec where
  name : List UInt8
  type : TypeExpr

/-- What follows the name of a type and its parameters: a type, or what it is another name of. -/
def typeDefinition (name : List UInt8) : Parse (Option TypeSpec) := fun ts =>
  match takeSign .assign ts with
  | some ts => do
    let ts ← r.skipType true ts
    return (none, ts)
  | none => do
    let (type, ts) ← r.type true ts
    return (some ⟨name, type⟩, ts)

/-- One type declaration; none stands for another name of a type. Behind a bracket, the type of an
array is tried before parameters of types. -/
def typeSpec : Parse (Option TypeSpec) := fun ts => do
  let (name, ts) ← name ts
  if atSign .openBracket ts then
    match r.type true ts with
    | some (type, ts) => return (some ⟨name, type⟩, ts)
    | none => do
      let ts ← typeParams r ts.length (ts.drop 1)
      typeDefinition r name ts
  else typeDefinition r name ts

/-- Declarations in parentheses, behind the opening one; each needs a terminator. -/
def group {α : Type} (spec : Parse α) (found : List α) : Nat → Parse (List α)
  | 0, _ => none
  | fuel + 1, ts =>
    match takeSign .closeParen ts with
    | some ts => some (found.reverse, ts)
    | none => do
      let (x, ts) ← spec ts
      let ts ← terminator ts
      group spec (x :: found) fuel ts

/-- One declaration or a group of them, behind the keyword. -/
def oneOrGroup {α : Type} (spec : Parse α) : Parse (List α) := fun ts =>
  match takeSign .openParen ts with
  | some ts => group spec [] (ts.length + 1) ts
  | none => do
    let (x, ts) ← spec ts
    return ([x], ts)

/-- The declared types behind the keyword, in order. -/
def typeSpecs : Parse (List TypeSpec) := fun ts => do
  let (found, ts) ← oneOrGroup (typeSpec r) ts
  return (found.filterMap id, ts)

/-- A rule that finds nothing to remember. -/
def skipping (p : List Token → Option (List Token)) : Parse Unit := fun ts =>
  (p ts).map fun ts => ((), ts)

/-! ## Statements with blocks -/

/-- Reads a statement whose header ends at a brace. The reading without a literal value in front of
the brace counts, unless it stops at another brace. -/
def withHeader (p : Bodies → List Token → Option (List Token)) (ts : List Token) :
    Option (List Token) :=
  match p .literalTypes ts with
  | some rest => if continuesWith true .openBrace rest then (p .notNames ts).or (some rest) else some rest
  | none => p .notNames ts

/-- The part of an `if` statement behind its condition. -/
def ifRest (ts : List Token) : Option (List Token) := do
  let ts ← r.block ts
  if atWord .else_ ts && !atLineEnd ts then
    let ts := ts.drop 1
    if atWord .if_ ts then r.statement ts else r.block ts
  else return ts

/-- An `if` statement behind the keyword. -/
def ifStatement (bodies : Bodies) (ts : List Token) : Option (List Token) := do
  let c := headerContext bodies
  let (s, ts) ← simple r c ts
  match takeSign .semicolon ts with
  | some ts => do
    let ts ← r.expr c.later ts
    ifRest r ts
  | none => if s == .expression then ifRest r ts else none

/-- A `for` clause behind its first semicolon, and the block. -/
def forClause (c : Context) (ts : List Token) : Option (List Token) := do
  let ts ← if atSign .semicolon ts then some ts else r.expr c.later ts
  let ts ← takeSign .semicolon ts
  let ts ← if atSign .openBrace ts then some ts else (simple r c ts).map (·.2)
  r.block ts

/-- A range behind its keyword, and the block. -/
def rangeClause (c : Context) (ts : List Token) : Option (List Token) := do
  let ts ← r.expr c.later ts
  r.block ts

/-- A `for` statement behind the keyword. -/
def forStatement (bodies : Bodies) (ts : List Token) : Option (List Token) :=
  let c := headerContext bodies
  if atSign .openBrace ts then r.block ts
  else if atWord .range_ ts then rangeClause r c (ts.drop 1)
  else if atSign .semicolon ts then forClause r c (ts.drop 1)
  else do
    let (s, ts) ← operandList r c ts
    let isValue := match s with
      | some s => s.isValue
      | none => true
    if isValue && (atSign .define ts || atSign .assign ts) && atWord .range_ (ts.drop 1) then
      rangeClause r c (ts.drop 2)
    else do
      let (s, ts) ← simpleRest r c s ts
      match takeSign .semicolon ts with
      | some ts => forClause r c ts
      | none => if s == .expression then r.block ts else none

/-- Types with commas between them. -/
def typeList : Nat → List Token → Option (List Token)
  | 0, _ => none
  | fuel + 1, ts => do
    let ts ← r.skipType false ts
    match takeSign .comma ts with
    | some ts => typeList fuel ts
    | none => return ts

/-- Cases up to the closing brace; `what` reads what a case names. -/
def cases_ (what : List Token → Option (List Token)) : Nat → List Token → Option (List Token)
  | 0, _ => none
  | fuel + 1, ts =>
    match takeSign .closeBrace ts with
    | some ts => some ts
    | none => do
      let ts ← match takeWord .default_ ts with
        | some ts => some ts
        | none => (takeWord .case_ ts).bind what
      let ts ← takeSign .colon ts
      let ts ← statements r (ts.length + 1) ts
      cases_ what fuel ts

def switchCases (isGuard : Bool) (ts : List Token) : Option (List Token) := do
  let ts ← takeSign .openBrace ts
  let what (ts : List Token) : Option (List Token) :=
    if isGuard then typeList r ts.length ts else r.exprs .inner ts.length ts
  cases_ r what (ts.length + 1) ts

/-- A `switch` statement behind the keyword. -/
def switchStatement (bodies : Bodies) (ts : List Token) : Option (List Token) :=
  let c := headerContext bodies
  let tag (s : Simple) (ts : List Token) : Option (List Token) :=
    if s == .other then none else switchCases r (s == .guard) ts
  if atSign .openBrace ts then switchCases r false ts
  else do
    let (s, ts) ← simple r c ts
    match takeSign .semicolon ts with
    | some ts =>
      if s == .guard then none
      else if atSign .openBrace ts then switchCases r false ts
      else do
        let (s, ts) ← simple r c ts
        tag s ts
    | none => tag s ts

/-- What a case of a `select` statement names: a send or a receive. -/
def communication (ts : List Token) : Option (List Token) := do
  let c : Context := ⟨false, .any, true⟩
  let (s, ts) ← operandList r c ts
  let isValue := match s with
    | some s => s.isValue
    | none => true
  if !isValue then none
  else if atSign .define ts || atSign .assign ts then r.expr c.later (ts.drop 1)
  else if s.isNone then none
  else if atSign .arrow ts then r.expr c.later (ts.drop 1)
  else return ts

/-! ## The rule for statements -/

/-- A label behind `break` or `continue`, where there is one on the line. -/
def optionalLabel (ts : List Token) : Option (List Token) :=
  if at_ .name ts && !atLineEnd ts then some (ts.drop 1) else some ts

/-- Whether an expression can start here. -/
def startsExpression : List Token → Bool
  | [] => false
  | t :: _ =>
    match t.kind with
    | .name | .number | .text | .rune => true
    | .word k => [.struct_, .interface_, .map_, .chan_, .func_].contains k
    | .sign s =>
      [.openParen, .openBracket, .plus, .minus, .bang, .caret, .star, .amp, .arrow, .increment,
        .decrement, .andAnd, .ampCaret].contains s

/-- A statement that starts with a keyword, behind it. -/
def keywordStatement (k : Keyword) (ts : List Token) : Option (List Token) :=
  match k with
  | .const_ => (oneOrGroup (skipping (constSpec r)) ts).map (·.2)
  | .var_ => (oneOrGroup (skipping (varSpec r)) ts).map (·.2)
  | .type_ => (typeSpecs r ts).map (·.2)
  | .return_ =>
    if atLineEnd ts || !startsExpression ts then some ts
    else r.exprs ⟨true, .any, false⟩ ts.length ts
  | .go_ | .defer_ => r.expr ⟨true, .any, false⟩ ts
  | .if_ => withHeader (ifStatement r) ts
  | .for_ => withHeader (forStatement r) ts
  | .switch_ => withHeader (switchStatement r) ts
  | .select_ => do
    let ts ← takeSign .openBrace ts
    cases_ r (communication r) (ts.length + 1) ts
  | .fallthrough_ => some ts
  | .break_ | .continue_ => optionalLabel ts
  | .goto_ => (name ts).map (·.2)
  | _ => none

/-- The rule for statements. -/
def statementRule (ts : List Token) : Option (List Token) :=
  match ts with
  | [] => none
  | t :: rest =>
    match label? ts with
    | some rest => r.statement rest
    | none =>
      match t.kind with
      | .sign .semicolon => some rest
      | .sign .openBrace => r.block ts
      | .word k =>
        if [.func_, .struct_, .map_, .chan_, .interface_].contains k then
          (simple r plainContext ts).bind fun (s, ts) => if s == .guard then none else some ts
        else keywordStatement r k rest
      | _ =>
        (simple r plainContext ts).bind fun (s, ts) => if s == .guard then none else some ts

end RouteDoc.Go.Grammar

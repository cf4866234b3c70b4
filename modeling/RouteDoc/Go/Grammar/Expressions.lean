/-
Expressions.

Whether a text is an expression or a type often shows only later, so operands
are read as what both have in common, and `Shape` keeps track of what they can
be. Operators bind differently but all read an operand on either side, so their
precedence decides nothing here.
-/
import RouteDoc.Go.Grammar.Types

namespace RouteDoc.Go.Grammar

open Parse

variable (r : Rules)

/-- The text of a name in ASCII characters. -/
def isText (text : List UInt8) (s : String) : Bool :=
  text == s.toList.map fun c => c.toNat.toUInt8

/-- Names that are constants where an expression is read. -/
def isConstant (text : List UInt8) : Bool :=
  ["nil", "true", "false", "iota"].any (isText text)

/-- Names of the functions whose first argument is a type. -/
def isMaker (text : List UInt8) : Bool := ["new", "make"].any (isText text)

/-! ## Arguments, elements and indices -/

/-- The arguments of a call behind the opening parenthesis. -/
def arguments : Nat → List Token → Option (List Token)
  | 0, _ => none
  | fuel + 1, ts =>
    match takeSign .closeParen ts with
    | some ts => some ts
    | none => do
      let ts ← r.expr .inner ts
      let ts := (takeSign .ellipsis ts).getD ts
      match takeSign .comma ts with
      | some ts => arguments fuel ts
      | none => takeSign .closeParen ts

/-- The arguments of a conversion behind the opening parenthesis: one expression. -/
def conversion (ts : List Token) : Option (List Token) := do
  let ts ← r.expr .inner ts
  takeSign .closeParen ((takeSign .comma ts).getD ts)

/-- Expressions behind a type in the arguments of a call, each after a comma. -/
def makerRest : Nat → List Token → Option (List Token)
  | 0, _ => none
  | fuel + 1, ts =>
    match takeSign .closeParen ts with
    | some ts => some ts
    | none => do
      let ts ← takeSign .comma ts
      match takeSign .closeParen ts with
      | some ts => return ts
      | none => do
        let ts ← r.expr .inner ts
        makerRest fuel ts

/-- The arguments of a function whose first argument is a type, behind the parenthesis. -/
def makerArguments (ts : List Token) : Option (List Token) :=
  match takeSign .closeParen ts with
  | some ts => some ts
  | none => do
    let ts ← r.skipType false ts
    makerRest r ts.length ts

/-- An element of a literal value: an expression or a literal value. -/
def element (ts : List Token) : Option (List Token) :=
  if atSign .openBrace ts then r.body ts else r.expr .inner ts

/-- The elements of a literal value behind the opening brace, keys in front where there are any. -/
def elements : Nat → List Token → Option (List Token)
  | 0, _ => none
  | fuel + 1, ts =>
    match takeSign .closeBrace ts with
    | some ts => some ts
    | none => do
      let ts ← element r ts
      let ts ← match takeSign .colon ts with
        | some ts => element r ts
        | none => some ts
      match takeSign .comma ts with
      | some ts => elements fuel ts
      | none => takeSign .closeBrace ts

/-- The rule for literal values. -/
def bodyRule (ts : List Token) : Option (List Token) := do
  let ts ← takeSign .openBrace ts
  match (takeSign .comma ts).bind (takeSign .closeBrace) with
  | some ts => return ts
  | none => elements r (ts.length + 1) ts

/-- A slice behind its first colon. -/
def sliceRest (ts : List Token) : Option (List Token) :=
  match takeSign .closeBracket ts with
  | some ts => some ts
  | none => do
    let ts ← r.expr .inner ts
    match takeSign .colon ts with
    | some ts => do
      let ts ← r.expr .inner ts
      takeSign .closeBracket ts
    | none => takeSign .closeBracket ts

/-- What stands in brackets behind an operand, as the shape of both together. -/
def bracketed (s : Shape) : Parse Shape := fun ts => do
  let asArguments (ts : List Token) : Option (Shape × List Token) :=
    if s.isName || s.isNamed then some (.named, ts)
    else if s.isType || (s.isValue && atSign .openParen ts) then some (.value, ts)
    else none
  match takeSign .colon ts with
  | some ts =>
    if s.isValue then do
      let ts ← sliceRest r ts
      return (.value, ts)
    else none
  | none =>
    match (if atSign .tilde ts then none else r.operand .inner ts) with
    | none => do
      let ts ← typeArguments r ts.length ts
      asArguments ts
    | some (inner, rest) =>
      if atSign .colon rest then
        if s.isValue && inner.isValue then do
          let ts ← sliceRest r (rest.drop 1)
          return (.value, ts)
        else none
      else if atSign .closeBracket rest && inner.isValue then
        if inner.isType && (s.isName || s.isNamed) then some (.named, rest.drop 1)
        else if s.isValue then some (.value, rest.drop 1)
        else if inner.isType && s.isType then some (.value, rest.drop 1)
        else none
      else do
        let ts ← typeArguments r ts.length ts
        asArguments ts

/-! ## Operands -/

/-- A function behind its keyword: a literal where a block follows, a type otherwise. -/
def functionOperand : Parse Shape := fun ts => do
  let (_, ts) ← r.params ts
  let ts ← result r false ts
  if atSign .openBrace ts then do
    let ts ← r.block ts
    return (.value, ts)
  else return (.onlyType, ts)

/-- An operand that starts with a bracket, behind it: the type of an array or slice. -/
def arrayOperand (c : Context) : Parse Shape := fun ts =>
  match takeSign .ellipsis ts with
  | some ts => do
    let ts ← takeSign .closeBracket ts
    let ts ← r.skipType c.newlineEnds ts
    return ({ isLiteralType := true }, ts)
  | none => do
    let ts ← bracketType r c.newlineEnds ts
    return (.literalType, ts)

/-- An operand without what can follow it. -/
def baseOperand (c : Context) : Parse Shape
  | [] => none
  | t :: ts =>
    match t.kind with
    | .number | .text | .rune => some (.value, ts)
    | .name =>
      if isConstant t.text then some (.value, ts)
      else if isMaker t.text then
        if continuesWith c.newlineEnds .openParen ts then do
          let ts ← makerArguments r (ts.drop 1)
          return (.value, ts)
        else some (.value, ts)
      else some (.nameShape, ts)
    | .sign .openParen => do
      let (s, ts) ← r.operand .inner ts
      let ts ← takeSign .closeParen ts
      return ({ isValue := s.isValue, isType := s.isType }, ts)
    | .sign .openBracket => arrayOperand r c ts
    | .word .func_ => functionOperand r ts
    | .word .struct_ | .word .map_ => do
      let ts ← r.skipType c.newlineEnds (t :: ts)
      return (.literalType, ts)
    | .word .chan_ => do
      let ts ← r.skipType c.newlineEnds (t :: ts)
      return (.channel, ts)
    | .word .interface_ => do
      let ts ← r.skipType c.newlineEnds (t :: ts)
      return (.onlyType, ts)
    | _ => none

/-- What follows a dot behind an operand: a field, a type in parentheses, or the word `type` in
them. -/
def dotted (s : Shape) : Parse Shape := fun ts =>
  match name ts with
  | some (_, ts) =>
    if s.isName then some (.named, ts) else if s.isValue then some (.value, ts) else none
  | none =>
    if !s.isValue then none
    else do
      let ts ← takeSign .openParen ts
      match (takeWord .type_ ts).bind (takeSign .closeParen) with
      | some ts => return (.guard, ts)
      | none => do
        let ts ← r.skipType false ts
        let ts ← takeSign .closeParen ts
        return (.value, ts)

/-- Everything that follows an operand and belongs to it. -/
def suffixes (c : Context) : Nat → Shape → Parse Shape
  | 0, s, ts => some (s, ts)
  | fuel + 1, s, ts =>
    if s.isGuard || closed c.newlineEnds ts then some (s, ts)
    else if atSign .dot ts then do
      let (s, ts) ← dotted r s (ts.drop 1)
      suffixes c fuel s ts
    else if atSign .openBracket ts then do
      let (s, ts) ← bracketed r s (ts.drop 1)
      suffixes c fuel s ts
    else if atSign .openParen ts then
      if s.isValue then do
        let ts ← arguments r ts.length (ts.drop 1)
        suffixes c fuel .value ts
      else if s.isType then do
        let ts ← conversion r (ts.drop 1)
        suffixes c fuel .value ts
      else none
    else if atSign .openBrace ts && s.takesBody c.bodies then do
      let ts ← r.body ts
      suffixes c fuel .value ts
    else some (s, ts)

/-! ## Operators -/

/-- The signs in front of an operand, the innermost first. -/
def leadingSigns (found : List Sign) : List Token → List Sign × List Token
  | [] => (found, [])
  | t :: ts =>
    match t.kind with
    | .sign .plus => leadingSigns (.plus :: found) ts
    | .sign .minus => leadingSigns (.minus :: found) ts
    | .sign .bang => leadingSigns (.bang :: found) ts
    | .sign .caret => leadingSigns (.caret :: found) ts
    | .sign .star => leadingSigns (.star :: found) ts
    | .sign .amp => leadingSigns (.amp :: found) ts
    | .sign .arrow => leadingSigns (.arrow :: found) ts
    | .sign .increment => leadingSigns (.plus :: .plus :: found) ts
    | .sign .decrement => leadingSigns (.minus :: .minus :: found) ts
    | .sign .andAnd => leadingSigns (.amp :: .amp :: found) ts
    | .sign .ampCaret => leadingSigns (.caret :: .amp :: found) ts
    | _ => (found, t :: ts)

/-- A sign applied to an operand: a star in front of a type is a pointer, an arrow in front of a
channel type is a channel type. -/
def applySign (s : Shape) : Sign → Option Shape
  | .star =>
    if s.isValue || s.isType then some { isValue := s.isValue, isType := s.isType } else none
  | .arrow =>
    if s.isValue then some .value else if s.isChannel then some .onlyType else none
  | _ => if s.isValue then some .value else none

/-- An operand with the signs in front of it. -/
def signedOperand (c : Context) : Parse Shape := fun ts => do
  let (signs, ts) := leadingSigns [] ts
  let (s, ts) ← baseOperand r c ts
  let (s, ts) ← suffixes r c (ts.length + 1) s ts
  let s ← signs.foldlM applySign s
  return (s, ts)

/-- Whether a sign stands between two operands. Where no statement can go on, an arrow is a
comparison with a negative number, and a doubled sign is two signs. -/
def isOperator (c : Context) : TokenKind → Bool
  | .sign s =>
    [.star, .slash, .percent, .shiftLeft, .shiftRight, .amp, .ampCaret, .plus, .minus, .pipe,
      .caret, .equal, .notEqual, .less, .lessEq, .greater, .greaterEq, .andAnd, .orOr].contains s
    || (!c.first && [.arrow, .increment, .decrement].contains s)
  | _ => false

/-- Operators and operands behind an operand. -/
def operands (c : Context) : Nat → Shape → Parse Shape
  | 0, _, _ => none
  | fuel + 1, s, ts =>
    match ts with
    | [] => some (s, [])
    | t :: rest =>
      if isOperator c t.kind && !closed c.newlineEnds ts then
        if s.isValue then do
          let (s', ts) ← signedOperand r c rest
          if s'.isValue then operands c fuel .value ts else none
        else none
      else some (s, ts)

/-- The rule for operands with the operators between them. -/
def operandRule (c : Context) : Parse Shape := fun ts => do
  let (s, ts) ← signedOperand r c ts
  operands r c (ts.length + 1) s ts

end RouteDoc.Go.Grammar

/-
Types and parameters.

Where a name is followed by a bracket, the text can be a name with type
arguments, or a name with an array or slice type behind it. Type arguments are
tried first, and they count when the construct can end behind them.
-/
import RouteDoc.Go.Grammar.Basic

namespace RouteDoc.Go.Grammar

open Parse

variable (r : Rules)

/-- Types with bars between them. -/
def union (newlineEnds : Bool) : Nat → List Token → Option (List Token)
  | 0, _ => none
  | fuel + 1, ts => do
    let ts ← r.skipType newlineEnds ts
    if continuesWith newlineEnds .pipe ts then union newlineEnds fuel (ts.drop 1) else return ts

/-- Type arguments behind their opening bracket, up to the closing one. -/
def typeArguments : Nat → List Token → Option (List Token)
  | 0, _ => none
  | fuel + 1, ts => do
    let ts ← union r false ts.length ts
    match takeSign .comma ts with
    | some ts =>
      match takeSign .closeBracket ts with
      | some ts => return ts
      | none => typeArguments fuel ts
    | none => takeSign .closeBracket ts

/-- A name, perhaps with a package in front and type arguments behind. -/
def namedType (newlineEnds : Bool) : Parse TypeExpr := fun ts => do
  let (first, ts) ← name ts
  let (found, ts) ←
    if continuesWith newlineEnds .dot ts then do
      let (second, ts) ← name (ts.drop 1)
      pure (TypeExpr.qualified first second, ts)
    else pure (TypeExpr.name first, ts)
  if continuesWith newlineEnds .openBracket ts then do
    let ts ← typeArguments r ts.length (ts.drop 1)
    return (.other, ts)
  else return (found, ts)

/-- Whether a type that is no parenthesis starts here. -/
def startsType : List Token → Bool
  | [] => false
  | t :: _ =>
    match t.kind with
    | .name => true
    | .word k => [.struct_, .interface_, .map_, .chan_, .func_].contains k
    | .sign s => [.star, .openBracket, .arrow, .tilde].contains s
    | _ => false

/-- The result of a function: a list of parameters, a type, or nothing. -/
def result (newlineEnds : Bool) (ts : List Token) : Option (List Token) :=
  if closed newlineEnds ts then some ts
  else if atSign .openParen ts then (r.params ts).map (·.2)
  else if startsType ts then r.skipType newlineEnds ts
  else some ts

/-- A field that a closing brace, a terminator or a tag follows. -/
def fieldEnds (ts : List Token) : Bool :=
  atLineEnd ts || atSign .closeBrace ts || atSign .semicolon ts || at_ .text ts

/-- A field without its tag: names and a type, or an embedded type. -/
def fieldType : Parse TypeExpr := fun ts =>
  match takeSign .star ts with
  | some ts => namedType r true ts
  | none => do
    let (_, rest) ← name ts
    let namedField (_ : Unit) : Option (TypeExpr × List Token) := do
      let rest ← names ts.length ts
      r.type true rest
    if fieldEnds rest || atSign .dot rest then namedType r true ts
    else if atSign .openBracket rest then
      match namedType r true ts with
      | some (found, rest) => if fieldEnds rest then some (found, rest) else namedField ()
      | none => namedField ()
    else namedField ()

/-- The tag of a field, where it has one. -/
def fieldTag : List Token → Option (List UInt8) × List Token
  | t :: ts => if t.kind == .text && !t.newline then (some t.text, ts) else (none, t :: ts)
  | [] => (none, [])

/-- The fields of a structure behind the opening brace. -/
def fields (found : List (TypeExpr × Option (List UInt8))) :
    Nat → Parse (List (TypeExpr × Option (List UInt8)))
  | 0, _ => none
  | fuel + 1, ts =>
    match takeSign .closeBrace ts with
    | some ts => some (found.reverse, ts)
    | none => do
      let (type, ts) ← fieldType r ts
      let (tag, ts) := fieldTag ts
      let found := (type, tag) :: found
      match terminator ts with
      | some ts => fields found fuel ts
      | none => (takeSign .closeBrace ts).map fun ts => (found.reverse, ts)

/-- An element of an interface: a method or types. -/
def interfaceElement (ts : List Token) : Option (List Token) :=
  let method : Option (List Token) := do
    let (_, rest) ← name ts
    if continuesWith true .openParen rest then do
      let (_, rest) ← r.params rest
      result r true rest
    else none
  method.or (union r true ts.length ts)

/-- The elements of an interface behind the opening brace. -/
def interfaceElements : Nat → List Token → Option (List Token)
  | 0, _ => none
  | fuel + 1, ts =>
    match takeSign .closeBrace ts with
    | some ts => some ts
    | none => do
      let ts ← interfaceElement r ts
      match terminator ts with
      | some ts => interfaceElements fuel ts
      | none => takeSign .closeBrace ts

/-- A type that starts with a keyword, behind it. -/
def keywordType (newlineEnds : Bool) (k : Keyword) : Parse TypeExpr := fun ts =>
  match k with
  | .struct_ => do
    let ts ← takeSign .openBrace ts
    let (found, ts) ← fields r [] ts.length ts
    return (.struct found, ts)
  | .interface_ => do
    let ts ← takeSign .openBrace ts
    let ts ← interfaceElements r ts.length ts
    return (.other, ts)
  | .map_ => do
    let ts ← takeSign .openBracket ts
    let ts ← r.skipType false ts
    let ts ← takeSign .closeBracket ts
    let ts ← r.skipType newlineEnds ts
    return (.other, ts)
  | .chan_ => do
    let ts ← r.skipType newlineEnds ((takeSign .arrow ts).getD ts)
    return (.other, ts)
  | .func_ => do
    let (_, ts) ← r.params ts
    let ts ← result r newlineEnds ts
    return (.other, ts)
  | _ => none

/-- A type that starts with a bracket, behind it: a slice or an array. -/
def bracketType (newlineEnds : Bool) (ts : List Token) : Option (List Token) :=
  match takeSign .closeBracket ts with
  | some ts => r.skipType newlineEnds ts
  | none => do
    let ts ← r.expr .inner ts
    let ts ← takeSign .closeBracket ts
    r.skipType newlineEnds ts

/-- Whether comments stand before the next token. -/
def commented : List Token → Bool
  | t :: _ => !t.gap.comments.isEmpty
  | [] => false

/-- The rule for types. -/
def typeRule (newlineEnds : Bool) : Parse TypeExpr
  | [] => none
  | t :: ts =>
    match t.kind with
    | .name => namedType r newlineEnds (t :: ts)
    | .word k => keywordType r newlineEnds k ts
    | .sign .star => do
      let (target, rest) ← r.type newlineEnds ts
      return (.pointer (commented ts) target, rest)
    | .sign .openParen => do
      let ts ← r.skipType false ts
      let ts ← takeSign .closeParen ts
      return (.other, ts)
    | .sign .openBracket => do
      let ts ← bracketType r newlineEnds ts
      return (.other, ts)
    | .sign .arrow => do
      let ts ← takeWord .chan_ ts
      let ts ← r.skipType newlineEnds ts
      return (.other, ts)
    | .sign .tilde => do
      let ts ← r.skipType newlineEnds ts
      return (.other, ts)
    | _ => none

/-! ## Parameters -/

/-- A parameter as it is written. A single name is a type, unless a later parameter shows that it
shares that one's type. -/
inductive ParamEntry where
  | single (text : List UInt8)
  | unnamed (type : TypeExpr)
  | named (type : TypeExpr)
  | variadic

/-- The types of the parameters: names right before a parameter that has a name and a type are
further names of it. -/
def paramTypes (waiting : List (List UInt8)) : List ParamEntry → List TypeExpr
  | [] => waiting.reverse.map .name
  | .single text :: rest => paramTypes (text :: waiting) rest
  | .named type :: rest => type :: paramTypes [] rest
  | .unnamed type :: rest => waiting.reverse.map .name ++ type :: paramTypes [] rest
  | .variadic :: rest => waiting.reverse.map .name ++ paramTypes [] rest

/-- Whether a parameter can end here. -/
def paramEnds (ts : List Token) : Bool := atSign .comma ts || atSign .closeParen ts

/-- One parameter. -/
def paramEntry : Parse ParamEntry := fun ts =>
  let unnamed (_ : Unit) : Option (ParamEntry × List Token) := do
    let (type, ts) ← r.type false ts
    return (.unnamed type, ts)
  match takeSign .ellipsis ts with
  | some ts => do
    let ts ← r.skipType false ts
    return (.variadic, ts)
  | none =>
    match name ts with
    | none => unnamed ()
    | some (text, rest) =>
      let named (_ : Unit) : Option (ParamEntry × List Token) := do
        let (type, ts) ← r.type false rest
        return (.named type, ts)
      if paramEnds rest then some (.single text, rest)
      else if atSign .dot rest then unnamed ()
      else match takeSign .ellipsis rest with
        | some rest => do
          let rest ← r.skipType false rest
          return (.variadic, rest)
        | none =>
          if atSign .openBracket rest then
            match unnamed () with
            | some (entry, rest) => if paramEnds rest then some (entry, rest) else named ()
            | none => named ()
          else named ()

/-- Parameters behind the opening parenthesis. -/
def paramEntries (found : List ParamEntry) : Nat → Parse (List ParamEntry)
  | 0, _ => none
  | fuel + 1, ts => do
    let (entry, ts) ← paramEntry r ts
    let found := entry :: found
    match takeSign .comma ts with
    | some ts =>
      match takeSign .closeParen ts with
      | some ts => return (found.reverse, ts)
      | none => paramEntries found fuel ts
    | none => (takeSign .closeParen ts).map fun ts => (found.reverse, ts)

/-- The rule for lists of parameters. -/
def paramsRule : Parse (List TypeExpr) := fun ts => do
  let ts ← takeSign .openParen ts
  match takeSign .closeParen ts with
  | some ts => return ([], ts)
  | none =>
    match (takeSign .comma ts).bind (takeSign .closeParen) with
    | some ts => return ([], ts)
    | none => do
      let (entries, ts) ← paramEntries r [] ts.length ts
      return (paramTypes [] entries, ts)

/-- Parameters of types behind the opening bracket: names and what they are constrained by. -/
def typeParams : Nat → List Token → Option (List Token)
  | 0, _ => none
  | fuel + 1, ts => do
    let (_, ts) ← name ts
    match takeSign .comma ts with
    | some ts => typeParams fuel ts
    | none =>
      let ts ← union r false ts.length ts
      match takeSign .comma ts with
      | some ts =>
        match takeSign .closeBracket ts with
        | some ts => return ts
        | none => typeParams fuel ts
      | none => takeSign .closeBracket ts

end RouteDoc.Go.Grammar

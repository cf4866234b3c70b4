/-
A Go source file: what stands at its top level.

The top level is a list of nodes in the order of the text: the comments between
declarations, and one node for each declaration or statement. Of functions,
methods and types a node keeps what the rest of the library asks about. Items
have to be closed by a line end or a semicolon; only a package clause, imports
and functions may also stop at the end of the text.
-/
import RouteDoc.Go.Grammar
import RouteDoc.Go.Lexer
import RouteDoc.Workspace

namespace RouteDoc.Go

/-- The text of bytes of a source file. -/
def textOf (bytes : List UInt8) : String := String.ofList (Text.decodeLossy bytes)

/-- A function, or a method with the types of its receiver list. -/
structure Function where
  name : String
  receiver : Option (List TypeExpr)
  params : List TypeExpr

/-- A declared type. -/
structure DeclaredType where
  name : String
  type : TypeExpr

inductive Item where
  | function (f : Function)
  | types (declared : List DeclaredType)
  | other

/-- What stands at the top level. -/
inductive NodeKind where
  | comment (text : List UInt8)
  | item (x : Item)

/-- A piece of the top level, with where it starts and where it stops. -/
structure Node where
  start : Mark
  stop : Mark
  kind : NodeKind

def Node.ofComment (c : Comment) : Node := ⟨c.start, c.stop, .comment c.text⟩

/-! ## Items -/

namespace Grammar

open Parse

variable (r : Rules)

/-- What follows the name of a function: parameters, a result, and a block on the same line. -/
def signature : Parse (List TypeExpr) := fun ts => do
  let (params, ts) ← r.params ts
  let ts ← result r true ts
  if continuesWith true .openBrace ts then do
    let ts ← r.block ts
    return (params, ts)
  else return (params, ts)

/-- A function behind its keyword. -/
def function : Parse Function := fun ts => do
  let (name, ts) ← name ts
  let ts ← match takeSign .openBracket ts with
    | some ts => typeParams r ts.length ts
    | none => some ts
  let (params, ts) ← signature r ts
  return (⟨textOf name, none, params⟩, ts)

/-- A method behind the keyword: between receiver and parameters stands a name. -/
def method : Parse Function := fun ts => do
  let (receiver, ts) ← r.params ts
  let (name, ts) ← name ts
  let (params, ts) ← signature r ts
  return (⟨textOf name, some receiver, params⟩, ts)

/-- Whether an item can end here. -/
def itemEnds (ts : List Token) : Bool := atLineEnd ts || atSign .semicolon ts

/-- An item that counts only where it can end. -/
def complete {α : Type} (p : Parse α) : Parse α := fun ts =>
  (p ts).filter fun x => itemEnds x.2

/-- The package of a file, behind the keyword. -/
def packageClause (ts : List Token) : Option (List Token) := (name ts).map (·.2)

/-- One import: a path, perhaps with a name, a dot or a blank name in front. -/
def importSpec (ts : List Token) : Option (List Token) :=
  if at_ .name ts || atSign .dot ts then take .text (ts.drop 1) else take .text ts

/-- Imports behind an opening parenthesis; the last one needs no terminator. -/
def importList : Nat → List Token → Option (List Token)
  | 0, _ => none
  | fuel + 1, ts =>
    match takeSign .closeParen ts with
    | some ts => some ts
    | none => do
      let ts ← importSpec ts
      match terminator ts with
      | some ts => importList fuel ts
      | none => takeSign .closeParen ts

/-- Imports behind the keyword. -/
def importClause (ts : List Token) : Option (List Token) :=
  match takeSign .openParen ts with
  | some ts => importList (ts.length + 1) ts
  | none => importSpec ts

/-- Anything that can stand at the top level: a declaration, or a statement. -/
def item : Parse Item := fun ts =>
  let plain (p : List Token → Option (List Token)) (ts : List Token) :=
    (p ts).map fun rest => (Item.other, rest)
  match ts with
  | [] => none
  | t :: rest =>
    match t.kind with
    | .word .package_ => plain packageClause rest
    | .word .import_ => plain importClause rest
    | .word .func_ =>
      match (complete (function r) rest).or (complete (method r) rest) with
      | some (f, rest) => some (.function f, rest)
      | none => plain r.statement ts
    | .word .type_ =>
      (typeSpecs r rest).map fun (specs, rest) =>
        (.types (specs.map fun s => ⟨textOf s.name, s.type⟩), rest)
    | _ => plain r.statement ts

/-- Whether an item that starts with `t` may stop at the end of the text. -/
def mayStandLast (t : Token) : Item → Bool
  | .function _ => true
  | _ => t.kind == .word .package_ || t.kind == .word .import_

/-- Where the text before the next token stops; `behind` lies behind the last one. -/
def stopOf (behind : Gap) : List Token → Mark
  | t :: _ => t.gap.from_
  | [] => behind.from_

/-- The nodes found so far, last first, with comments put behind them. -/
def pushComments (found : List Node) (comments : List Comment) : List Node :=
  comments.foldl (fun found c => .ofComment c :: found) found

/-- The nodes of the top level, with fuel for the tokens. -/
def nodesFrom (behind : Gap) (found : List Node) : Nat → List Token → Option (List Node)
  | _, [] => some (pushComments found behind.comments).reverse
  | 0, _ => none
  | fuel + 1, t :: ts =>
    let found := pushComments found t.gap.comments
    match item r (t :: ts) with
    | none => none
    | some (x, rest) =>
      let found := ⟨t.start, stopOf behind rest, .item x⟩ :: found
      match rest with
      | [] => if behind.newline || mayStandLast t x then nodesFrom behind found fuel [] else none
      | t' :: rest' =>
        if t'.newline then nodesFrom behind found fuel (t' :: rest')
        else if t'.kind == .sign .semicolon then
          nodesFrom behind (pushComments found t'.gap.comments) fuel rest'
        else none

end Grammar

/-- The nodes of a source text; none where the text is not grammatical. -/
def nodes? (source : List UInt8) : Option (List Node) := do
  let found ← tokenize source
  Grammar.nodesFrom (Grammar.rulesFor found.tokens) found.rest [] found.tokens.length found.tokens

/-- A source file that could be read and parsed. -/
structure Source where
  path : String
  bytes : List UInt8
  nodes : List Node

namespace Source

/-- Reads and parses the file at a path. -/
def load (w : Workspace) (path : String) : Except Failure Source :=
  match w.read path with
  | .error fault => .error (.unparsable path (fault.message path))
  | .ok bytes =>
    match nodes? bytes with
    | none => .error (.unparsable path "syntax error")
    | some nodes => .ok ⟨path, bytes, nodes⟩

/-- The types declared at the top level, in order. -/
def types (s : Source) : List DeclaredType :=
  s.nodes.flatMap fun n =>
    match n.kind with
    | .item (.types declared) => declared
    | _ => []

end Source

end RouteDoc.Go

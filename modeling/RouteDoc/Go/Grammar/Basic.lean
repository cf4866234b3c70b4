/-
The grammar of Go source text: what the rules are made of.

A rule takes tokens from the front of a list and returns what it found and the
tokens it left. The rules depend on each other in circles (a type can hold an
expression, an expression a function, a function statements), so they are
written against `Rules`, the rules of one step less; `Go.Grammar` ties the knot.

A line end closes a statement only where a statement can end. A rule therefore
gets to know whether that is the case behind the construct it reads; where it is
not, line ends are blanks.
-/
import RouteDoc.Go.Token

namespace RouteDoc.Go

/-- The type in a declaration, as far as it matters: names, pointers and structures. A pointer
remembers whether comments stand between the star and its target, a field of a structure has a
type and, perhaps, a tag. -/
inductive TypeExpr where
  | name (text : List UInt8)
  | qualified (package_ text : List UInt8)
  | pointer (commented : Bool) (target : TypeExpr)
  | struct (fields : List (TypeExpr × Option (List UInt8)))
  | other

/-- A rule of the grammar. -/
abbrev Parse (α : Type) := List Token → Option (α × List Token)

namespace Parse

/-- Whether the next token has a kind. -/
def at_ (kind : TokenKind) : List Token → Bool
  | t :: _ => t.kind == kind
  | [] => false

def atSign (s : Sign) (ts : List Token) : Bool := at_ (.sign s) ts

def atWord (k : Keyword) (ts : List Token) : Bool := at_ (.word k) ts

/-- Whether a line ends here, or the text does. -/
def atLineEnd : List Token → Bool
  | t :: _ => t.newline
  | [] => true

/-- Whether a construct ends here because a line does. -/
def closed (newlineEnds : Bool) (ts : List Token) : Bool := newlineEnds && atLineEnd ts

/-- The sign comes next, and no line end closes the construct before it. -/
def continuesWith (newlineEnds : Bool) (s : Sign) (ts : List Token) : Bool :=
  atSign s ts && !closed newlineEnds ts

/-- Takes a token of a kind. -/
def take (kind : TokenKind) : List Token → Option (List Token)
  | t :: ts => if t.kind == kind then some ts else none
  | [] => none

def takeSign (s : Sign) : List Token → Option (List Token) := take (.sign s)

def takeWord (k : Keyword) : List Token → Option (List Token) := take (.word k)

/-- Takes a name. -/
def name : Parse (List UInt8)
  | t :: ts => if t.kind == .name then some (t.text, ts) else none
  | [] => none

/-- A line end or a semicolon, which is taken. -/
def terminator (ts : List Token) : Option (List Token) :=
  if atLineEnd ts then some ts else takeSign .semicolon ts

/-- Names with commas between them. -/
def names : Nat → List Token → Option (List Token)
  | 0, _ => none
  | fuel + 1, ts => do
    let (_, ts) ← name ts
    match takeSign .comma ts with
    | some ts => names fuel ts
    | none => return ts

end Parse

/-- How an expression may end: whether a line end closes it, which operands a literal value in
braces may follow, and whether it is the first of a statement, so that an arrow or a doubled sign
behind it belongs to the statement. -/
inductive Bodies where
  | any
  | notNames
  | literalTypes
  deriving DecidableEq, Repr

structure Context where
  newlineEnds : Bool
  bodies : Bodies
  first : Bool

/-- An expression between brackets. -/
def Context.inner : Context := ⟨false, .any, false⟩

/-- The expressions behind the first one of a statement. -/
def Context.later (c : Context) : Context := { c with first := false }

/-- What an operand can be taken for: some texts are an expression and a type at once. -/
structure Shape where
  isValue : Bool := false
  isType : Bool := false
  /-- A single name. -/
  isName : Bool := false
  /-- A name with its package, or with type arguments. -/
  isNamed : Bool := false
  /-- A type that a literal value can always follow. -/
  isLiteralType : Bool := false
  isChannel : Bool := false
  /-- The guard of a type switch. -/
  isGuard : Bool := false

namespace Shape

def value : Shape := { isValue := true }

def nameShape : Shape := { isValue := true, isType := true, isName := true }

def named : Shape := { isValue := true, isType := true, isNamed := true }

def literalType : Shape := { isType := true, isLiteralType := true }

def onlyType : Shape := { isType := true }

def channel : Shape := { isType := true, isChannel := true }

def guard : Shape := { isGuard := true }

/-- Whether a literal value may follow. -/
def takesBody (s : Shape) : Bodies → Bool
  | .any => s.isName || s.isNamed || s.isLiteralType
  | .notNames => s.isNamed || s.isLiteralType
  | .literalTypes => s.isLiteralType

end Shape

/-- What a rule is asked to read. -/
inductive Goal where
  | type (newlineEnds : Bool)
  | operand (c : Context)
  | params
  | body
  | block
  | statement

/-- What reading it gives: of parameters, the types of those that are not variadic. -/
def Goal.Result : Goal → Type
  | .type _ => TypeExpr
  | .operand _ => Shape
  | .params => List TypeExpr
  | .body => Unit
  | .block => Unit
  | .statement => Unit

/-- The rules of one step less. -/
abbrev Rules := (g : Goal) → Parse g.Result

namespace Rules

variable (r : Rules)

def type (newlineEnds : Bool) : Parse TypeExpr := r (.type newlineEnds)

def operand (c : Context) : Parse Shape := r (.operand c)

def params : Parse (List TypeExpr) := r .params

def body (ts : List Token) : Option (List Token) := (r .body ts).map (·.2)

def block (ts : List Token) : Option (List Token) := (r .block ts).map (·.2)

def statement (ts : List Token) : Option (List Token) := (r .statement ts).map (·.2)

/-- An expression: an operand that is one. -/
def expr (c : Context) (ts : List Token) : Option (List Token) := do
  let (s, ts) ← r.operand c ts
  if s.isValue then some ts else none

/-- A type of which nothing is remembered. -/
def skipType (newlineEnds : Bool) (ts : List Token) : Option (List Token) :=
  (r.type newlineEnds ts).map (·.2)

/-- Expressions with commas between them. -/
def exprs (c : Context) : Nat → List Token → Option (List Token)
  | 0, _ => none
  | fuel + 1, ts => do
    let ts ← r.expr c ts
    if Parse.continuesWith c.newlineEnds .comma ts then exprs c fuel (ts.drop 1) else return ts

end Rules

end RouteDoc.Go

/-
Functions with the comments that document them.

The doc block of a function is the run of comments right above it: each comment
stops on the row before the one where the next comment, or the function, starts.
A comment that starts on the row where the node before it stops belongs to that
node and ends the run.
-/
import RouteDoc.Go.Source

namespace RouteDoc.Go

/-- A function at the top level of a file. -/
structure Declaration where
  function : Function
  start : Mark
  doc : List Comment

namespace Declaration

/-- The comment that a node is. -/
def comment? (n : Node) : Option Comment :=
  match n.kind with
  | .comment text => some ⟨n.start, n.stop, text⟩
  | .item _ => none

/-- Whether `n` starts on the row where the node before it stops. -/
def trails (n : Node) : List Node → Bool
  | [] => false
  | before :: _ => before.stop.row == n.start.row

/-- The run of comments right above row `row`, the nearest first; `before` are the nodes above it,
the nearest first. -/
def runAbove (row : Nat) : List Node → List Comment
  | [] => []
  | n :: before =>
    match comment? n with
    | none => []
    | some c =>
      if c.stop.row + 1 == row && !trails n before then c :: runAbove c.start.row before else []

/-- The doc block above a node, in the order of the text. -/
def docBlock (n : Node) (before : List Node) : List Comment := (runAbove n.start.row before).reverse

/-- The functions among nodes; `before` are the nodes above them, the nearest first. -/
def ofNodesFrom (before : List Node) : List Node → List Declaration
  | [] => []
  | n :: rest =>
    match n.kind with
    | .item (.function f) => ⟨f, n.start, docBlock n before⟩ :: ofNodesFrom (n :: before) rest
    | _ => ofNodesFrom (n :: before) rest

/-- The functions among the nodes of a file, in order. -/
def ofNodes (nodes : List Node) : List Declaration := ofNodesFrom [] nodes

def name (d : Declaration) : String := d.function.name

def isMethod (d : Declaration) : Bool := d.function.receiver.isSome

/-- Where the function or its doc block starts, whichever comes first. -/
def docStart (d : Declaration) : Mark :=
  match d.doc with
  | [] => d.start
  | c :: _ => c.start

/-- The texts of the doc comments. -/
def docTexts (d : Declaration) : List String := d.doc.map fun c => textOf c.text

end Declaration

/-- The functions of a file, in order. -/
def Source.declarations (s : Source) : List Declaration := Declaration.ofNodes s.nodes

end RouteDoc.Go

/-
The nodes of a YAML document.

Nodes have numbers, because a name can refer back to a node and the same node
can then stand in several places, even inside itself. A node has a tag, written
or found out from its text, and is a scalar, a sequence or a mapping of other
nodes.
-/
import RouteDoc.Yaml.Tag
import RouteDoc.Yaml.Token

namespace RouteDoc.Yaml

/-- The number of a node. -/
abbrev NodeId := Nat

inductive Content where
  | scalar (text : String)
  | sequence (items : List NodeId)
  | mapping (entries : List (NodeId × NodeId))

structure Node where
  tag : String
  content : Content

/-- The state while nodes are read. -/
structure Reader where
  tokens : List Token
  nodes : Array Node
  anchors : List (String × NodeId)
  handles : List (String × String)

/-- Reads something from the tokens. -/
abbrev Reading := StateT Reader (Except Fault)

namespace Reader

def standardHandles : List (String × String) := [("!", "!"), ("!!", Tag.lead)]

/-- The next token; at the end of the text the one that says so. -/
def peek : Reading Token := do return ((← get).tokens.head?).getD .streamEnd

def drop : Reading Unit := modify fun r => { r with tokens := r.tokens.drop 1 }

/-- Something that is not YAML. -/
def fail {α : Type} : Reading α := throw .invalid

/-- A new node. -/
def add (n : Node) : Reading NodeId := do
  let r ← get
  set { r with nodes := r.nodes.push n }
  return r.nodes.size

/-- Gives a node that was added its content. -/
def fill (id : NodeId) (n : Node) : Reading Unit :=
  modify fun r => { r with nodes := r.nodes.setIfInBounds id n }

/-- Gives a node a name. -/
def name (anchor : Option String) (id : NodeId) : Reading Unit :=
  match anchor with
  | none => return ()
  | some a => modify fun r => { r with anchors := (a, id) :: r.anchors }

/-- A scalar without text where one is missing. -/
def missing : Reading NodeId := add ⟨Tag.ofScalar true "", .scalar ""⟩

/-- A written tag with its handle replaced by what it stands for. -/
def fullTag (handle : Option String) (suffix : String) : Reading String :=
  match handle with
  | none => return suffix
  | some h => do
    match (← get).handles.find? fun e => e.1 == h with
    | some e => return e.2 ++ suffix
    | none => fail

/-- The anchor and the tag in front of a node, in either order. -/
def properties : Reading (Option String × Option String) := do
  match ← peek with
  | .anchor a =>
    drop
    match ← peek with
    | .tag handle suffix =>
      drop
      return (some a, some (← fullTag handle suffix))
    | _ => return (some a, none)
  | .tag handle suffix =>
    drop
    match ← peek with
    | .anchor a =>
      drop
      return (some a, some (← fullTag handle suffix))
    | _ => return (none, some (← fullTag handle suffix))
  | _ => return (none, none)

/-- Whether a tag leaves open what a node is. -/
def isOpen : Option String → Bool
  | none => true
  | some t => t == "!"

/-- A scalar node. -/
def scalarNode (anchor tag : Option String) (text : String) (plain : Bool) : Reading NodeId := do
  let resolved := match tag with
    | none => Tag.ofScalar plain text
    | some t => if t == "!" then Tag.ofScalar true text else t
  let id ← add ⟨resolved, .scalar text⟩
  name anchor id
  return id

mutual

/-- A node. `block` says whether a block may start here, `indentless` whether the entries of a
sequence may stand as far out as the key in front of them. -/
def node : Nat → Bool → Bool → Reading NodeId
  | 0, _, _ => fail
  | fuel + 1, block, indentless => do
    match ← peek with
    | .reference a =>
      drop
      match (← get).anchors.find? fun e => e.1 == a with
      | some e => return e.2
      | none => fail
    | _ =>
      let (anchor, tag) ← properties
      if anchor.isSome && (← get).anchors.any (fun e => some e.1 == anchor) then fail
      else
        let sequence (read : Reading (List NodeId)) : Reading NodeId := do
          let full := if isOpen tag then Tag.sequence else tag.getD ""
          let id ← add ⟨full, .sequence []⟩
          name anchor id
          fill id ⟨full, .sequence (← read)⟩
          return id
        let mapping (read : Reading (List (NodeId × NodeId))) : Reading NodeId := do
          let full := if isOpen tag then Tag.mapping else tag.getD ""
          let id ← add ⟨full, .mapping []⟩
          name anchor id
          fill id ⟨full, .mapping (← read)⟩
          return id
        match ← peek with
        | .blockEntry =>
          if indentless then sequence (indentlessEntries fuel [])
          else if anchor.isSome || tag.isSome then scalarNode anchor tag "" (isOpen tag)
          else fail
        | .scalar text plain =>
          drop
          scalarNode anchor tag text plain
        | .flowSequenceStart =>
          drop
          sequence (flowEntries fuel true [])
        | .flowMappingStart =>
          drop
          mapping (flowPairs fuel true [])
        | .blockSequenceStart =>
          if block then
            drop
            sequence (blockEntries fuel [])
          else if anchor.isSome || tag.isSome then scalarNode anchor tag "" (isOpen tag)
          else fail
        | .blockMappingStart =>
          if block then
            drop
            mapping (blockPairs fuel [])
          else if anchor.isSome || tag.isSome then scalarNode anchor tag "" (isOpen tag)
          else fail
        | _ =>
          if anchor.isSome || tag.isSome then scalarNode anchor tag "" (isOpen tag)
          else fail

/-- The entries of a block sequence. -/
def blockEntries : Nat → List NodeId → Reading (List NodeId)
  | 0, _ => fail
  | fuel + 1, found => do
    match ← peek with
    | .blockEntry =>
      drop
      let id ← match ← peek with
        | .blockEntry | .blockEnd => missing
        | _ => node fuel true false
      blockEntries fuel (id :: found)
    | .blockEnd =>
      drop
      return found.reverse
    | _ => fail

/-- The entries of a sequence that opens no block of its own. -/
def indentlessEntries : Nat → List NodeId → Reading (List NodeId)
  | 0, _ => fail
  | fuel + 1, found => do
    match ← peek with
    | .blockEntry =>
      drop
      let id ← match ← peek with
        | .blockEntry | .key | .value | .blockEnd => missing
        | _ => node fuel true false
      indentlessEntries fuel (id :: found)
    | _ => return found.reverse

/-- The entries of a block mapping. -/
def blockPairs : Nat → List (NodeId × NodeId) → Reading (List (NodeId × NodeId))
  | 0, _ => fail
  | fuel + 1, found => do
    match ← peek with
    | .key =>
      drop
      let k ← match ← peek with
        | .key | .value | .blockEnd => missing
        | _ => node fuel true true
      let v ← match ← peek with
        | .value => do
          drop
          match ← peek with
          | .key | .value | .blockEnd => missing
          | _ => node fuel true true
        | _ => missing
      blockPairs fuel ((k, v) :: found)
    | .blockEnd =>
      drop
      return found.reverse
    | _ => fail

/-- The entries of a sequence in brackets. A key makes an entry a mapping of one pair. -/
def flowEntries : Nat → Bool → List NodeId → Reading (List NodeId)
  | 0, _, _ => fail
  | fuel + 1, first, found => do
    match ← peek with
    | .flowSequenceEnd =>
      drop
      return found.reverse
    | t =>
      if !first then
        match t with
        | .flowEntry => drop
        | _ => fail
      match ← peek with
      | .flowSequenceEnd =>
        drop
        return found.reverse
      | .key =>
        drop
        let id ← add ⟨Tag.mapping, .mapping []⟩
        let k ← match ← peek with
          | .value | .flowEntry | .flowSequenceEnd => missing
          | _ => node fuel false false
        let v ← match ← peek with
          | .value => do
            drop
            match ← peek with
            | .flowEntry | .flowSequenceEnd => missing
            | _ => node fuel false false
          | _ => missing
        fill id ⟨Tag.mapping, .mapping [(k, v)]⟩
        flowEntries fuel false (id :: found)
      | _ =>
        let id ← node fuel false false
        flowEntries fuel false (id :: found)

/-- The entries of a mapping in braces. -/
def flowPairs : Nat → Bool → List (NodeId × NodeId) → Reading (List (NodeId × NodeId))
  | 0, _, _ => fail
  | fuel + 1, first, found => do
    match ← peek with
    | .flowMappingEnd =>
      drop
      return found.reverse
    | t =>
      if !first then
        match t with
        | .flowEntry => drop
        | _ => fail
      match ← peek with
      | .flowMappingEnd =>
        drop
        return found.reverse
      | .key =>
        drop
        let k ← match ← peek with
          | .value | .flowEntry | .flowMappingEnd => missing
          | _ => node fuel false false
        let v ← match ← peek with
          | .value => do
            drop
            match ← peek with
            | .flowEntry | .flowMappingEnd => missing
            | _ => node fuel false false
          | _ => missing
        flowPairs fuel false ((k, v) :: found)
      | _ =>
        let k ← node fuel false false
        let v ← missing
        flowPairs fuel false ((k, v) :: found)

end

/-! ## Documents -/

/-- The directives in front of a document: at most one version, which has to be the first one, and
no handle twice. -/
def directives : Nat → Bool → List (String × String) → Reading (List (String × String))
  | 0, _, _ => fail
  | fuel + 1, versioned, found => do
    match ← peek with
    | .directive d =>
      drop
      match d with
      | .version major =>
        if versioned || major != 1 then fail else directives fuel true found
      | .tag handle lead =>
        if found.any fun e => e.1 == handle then fail
        else directives fuel versioned (found ++ [(handle, lead)])
      | .other => directives fuel versioned found
    | _ => return found ++ standardHandles.filter fun e => !found.any fun f => f.1 == e.1

/-- Behind the marks at the end of a document. -/
def skipEnds : Nat → Reading Unit
  | 0 => return ()
  | fuel + 1 => do
    match ← peek with
    | .documentEnd =>
      drop
      skipEnds fuel
    | _ => return ()

/-- The end of the text behind a document: another document is not allowed. -/
def atEnd (fuel : Nat) : Reading Unit := do
  skipEnds fuel
  match ← peek with
  | .streamEnd => return ()
  | _ => fail

/-- A document that starts with directives or a mark. -/
def markedDocument (fuel : Nat) : Reading NodeId := do
  let handles ← directives fuel false []
  modify fun r => { r with handles }
  match ← peek with
  | .documentStart =>
    drop
    match ← peek with
    | .directive _ | .documentStart | .documentEnd | .streamEnd => missing
    | _ => node fuel true false
  | _ => fail

/-- The one document of a text; none where the text is empty. -/
def document (fuel : Nat) : Reading (Option NodeId) := do
  match ← peek with
  | .streamEnd => return none
  | .directive _ | .documentStart =>
    let id ← markedDocument fuel
    atEnd fuel
    return some id
  | _ =>
    let id ← node fuel true false
    atEnd fuel
    return some id

end Reader

/-- The nodes of a text, and which of them is the document. -/
structure Document where
  nodes : Array Node
  root : Option NodeId

/-- The document that tokens make. -/
def Document.ofTokens (ts : List Token) : Except Fault Document := do
  let start : Reader := ⟨ts, #[], [], Reader.standardHandles⟩
  let (root, r) ← (Reader.document (2 * ts.length + 4)).run start
  return ⟨r.nodes, root⟩

end RouteDoc.Yaml

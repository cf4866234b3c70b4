/-
Values written in YAML.

The nodes of a document are given values in the order of their depth: a sequence
or mapping is first made empty and filled when everything around it is there.
What is wrong nearest to the root is therefore found first. A mapping takes the
entries of the mappings it merges before its own, so that its own win.
-/
import RouteDoc.Yaml.Lexer
import RouteDoc.Yaml.Node
import RouteDoc.Yaml.Plain

namespace RouteDoc.Yaml

/-- What has been made of a node. -/
inductive Made where
  | value (v : Value)
  | list (items : List NodeId)
  | map (entries : List (Value × NodeId))
  | set (items : List Value)
  | pairs (items : List (NodeId × NodeId))

/-- The state while values are made: the nodes, what has been made of them, and those that are made
but not filled, in order. -/
structure Maker where
  nodes : Array Node
  made : Array (Option Made)
  waiting : List NodeId

abbrev Making := StateT Maker (Except Fault)

namespace Maker

def fail {α : Type} : Making α := throw .invalid

def nodeOf (id : NodeId) : Making Node := do
  match (← get).nodes[id]? with
  | some n => return n
  | none => fail

def setNode (id : NodeId) (n : Node) : Making Unit :=
  modify fun s => { s with nodes := s.nodes.setIfInBounds id n }

def setMade (id : NodeId) (m : Made) : Making Unit :=
  modify fun s => { s with made := s.made.setIfInBounds id (some m) }

/-! ## Scalars and collections -/

/-- The text of a scalar. A mapping with a default value stands for that value. -/
def textOf : Nat → NodeId → Making String
  | 0, _ => fail
  | fuel + 1, id => do
    match (← nodeOf id).content with
    | .scalar text => return text
    | .sequence _ => fail
    | .mapping entries =>
      let nodes := (← get).nodes
      match entries.find? fun e => (nodes[e.1]?).any fun k => k.tag == Tag.defaultValue with
      | some e => textOf fuel e.2
      | none => fail

/-- Makes an empty collection that is to be filled. -/
def wait (id : NodeId) (m : Made) : Making Made := do
  setMade id m
  modify fun s => { s with waiting := s.waiting ++ [id] }
  return m

/-- What is made of a node, unless it is there already. -/
def make (id : NodeId) : Making Made := do
  let s ← get
  match (s.made[id]?).join with
  | some m => return m
  | none =>
    let n ← nodeOf id
    if n.tag == Tag.sequence then wait id (.list [])
    else if n.tag == Tag.mapping then wait id (.map [])
    else if n.tag == Tag.set then wait id (.set [])
    else if n.tag == Tag.ordered || n.tag == Tag.pairs then wait id (.pairs [])
    else if (Plain.valueOf n.tag "").isNone then fail
    else
      let text ← textOf (s.nodes.size + 1) id
      match Plain.valueOf n.tag text with
      | some (.ok v) =>
        setMade id (.value v)
        return .value v
      | some (.error fault) => throw fault
      | none => fail

/-! ## Mappings -/

def entriesOf (id : NodeId) : Making (List (NodeId × NodeId)) := do
  match (← nodeOf id).content with
  | .mapping entries => return entries
  | _ => fail

def setEntries (id : NodeId) (entries : List (NodeId × NodeId)) : Making Unit := do
  let n ← nodeOf id
  setNode id { n with content := .mapping entries }

mutual

/-- Puts the entries of merged mappings in front of the others, from entry `index` on. -/
def flatten : Nat → NodeId → Nat → List (NodeId × NodeId) → Making Unit
  | 0, _, _, _ => fail
  | fuel + 1, id, index, merged => do
    let entries ← entriesOf id
    match entries[index]? with
    | none => if merged.isEmpty then return () else setEntries id (merged ++ entries)
    | some (k, v) =>
      let key ← nodeOf k
      if key.tag == Tag.merge then
        setEntries id (entries.eraseIdx index)
        match (← nodeOf v).content with
        | .mapping _ =>
          flatten fuel v 0 []
          let more ← entriesOf v
          flatten fuel id index (merged ++ more)
        | .sequence items =>
          let more ← mergedItems fuel items []
          flatten fuel id index (merged ++ more)
        | .scalar _ => fail
      else if key.tag == Tag.defaultValue then
        setNode k { key with tag := Tag.str }
        flatten fuel id (index + 1) merged
      else flatten fuel id (index + 1) merged

/-- The entries of a list of mappings, those of the last one first. -/
def mergedItems : Nat → List NodeId → List (NodeId × NodeId) → Making (List (NodeId × NodeId))
  | 0, _, _ => fail
  | _ + 1, [], found => return found
  | fuel + 1, id :: rest, found => do
    match (← nodeOf id).content with
    | .mapping _ =>
      flatten fuel id 0 []
      let more ← entriesOf id
      mergedItems fuel rest (more ++ found)
    | _ => fail

end

/-- Steps that are enough to flatten any mapping. -/
def flattenFuel (nodes : Array Node) : Nat :=
  nodes.foldl (fun n x =>
    n + 2 + match x.content with
      | .scalar _ => 0
      | .sequence items => items.length
      | .mapping entries => 2 * entries.length) 4 * (nodes.size + 1)

/-- Entries with one more: a key keeps its place and the last value counts. -/
def insert (entries : List (Value × NodeId)) (key : Value) (id : NodeId) : List (Value × NodeId) :=
  if entries.any fun e => e.1.same key then
    entries.map fun e => if e.1.same key then (e.1, id) else e
  else entries ++ [(key, id)]

/-- The entries of a mapping. Collections cannot be keys. -/
def fillEntries : List (NodeId × NodeId) → List (Value × NodeId) →
    Making (List (Value × NodeId))
  | [], found => return found
  | (k, v) :: rest, found => do
    match ← make k with
    | .value key =>
      let _ ← make v
      fillEntries rest (insert found key v)
    | _ => fail

def mappingEntries (id : NodeId) : Making (List (Value × NodeId)) := do
  match (← nodeOf id).content with
  | .mapping _ =>
    flatten (flattenFuel (← get).nodes) id 0 []
    fillEntries (← entriesOf id) []
  | _ => fail

/-- The pairs of a list of mappings with one entry each. -/
def fillPairs : List NodeId → List (NodeId × NodeId) → Making (List (NodeId × NodeId))
  | [], found => return found.reverse
  | id :: rest, found => do
    match (← nodeOf id).content with
    | .mapping [(k, v)] =>
      let _ ← make k
      let _ ← make v
      fillPairs rest ((k, v) :: found)
    | _ => fail

/-- Fills a collection. -/
def fill (id : NodeId) : Making Unit := do
  match ((← get).made[id]?).join with
  | some (.list _) =>
    match (← nodeOf id).content with
    | .sequence items =>
      items.forM fun x => do
        let _ ← make x
      setMade id (.list items)
    | _ => fail
  | some (.map _) => setMade id (.map (← mappingEntries id))
  | some (.set _) => setMade id (.set ((← mappingEntries id).map (·.1)))
  | some (.pairs _) =>
    match (← nodeOf id).content with
    | .sequence items => setMade id (.pairs (← fillPairs items []))
    | _ => fail
  | _ => return ()

/-- Fills what is waiting; each node waits at most once. -/
def fillAll : Nat → Making Unit
  | 0 => return ()
  | fuel + 1 => do
    match (← get).waiting with
    | [] => return ()
    | id :: rest =>
      modify fun s => { s with waiting := rest }
      fill id
      fillAll fuel

/-! ## Values -/

/-- The value of a node; `path` holds the collections around it. -/
def unfold (made : Array (Option Made)) : Nat → List NodeId → NodeId → Value
  | 0, _, _ => .null
  | fuel + 1, path, id =>
    let inner := unfold made fuel (id :: path)
    match (made[id]?).join with
    | none => .null
    | some (.value v) => v
    | some (.list items) => if path.contains id then .again false else .list (items.map inner)
    | some (.map entries) =>
      if path.contains id then .again true
      else .map (entries.map fun e => (e.1, inner e.2))
    | some (.set items) => .set items
    | some (.pairs items) =>
      if path.contains id then .again false
      else .list (items.map fun e => .tuple [inner e.1, inner e.2])

/-- The value of a document. -/
def run (d : Document) : Except Fault Value :=
  match d.root with
  | none => .ok .null
  | some root => do
    let n := d.nodes.size
    let start : Maker := ⟨d.nodes, Array.replicate n none, []⟩
    let work : Making Unit := do
      let _ ← make root
      fillAll (n + 1)
    let (_, s) ← work.run start
    return unfold s.made (n + 2) [] root

end Maker

/-- The value that a text is. -/
def load (text : List Char) : Except Fault Value := do
  let ts ← tokens text
  let d ← Document.ofTokens ts
  Maker.run d

end RouteDoc.Yaml

/-
Drafts: how a file gets new bytes.

The new bytes of a file are not written over the old ones. They go to a draft,
a file of its own beside it, a chunk at a time, and the finished draft takes the
place of the file. The storage may fail at any operation on the way; a draft
that is given up is removed.
-/
import RouteDoc.Text.CodeText
import RouteDoc.Workspace

namespace RouteDoc

/-- What the storage is asked to do when a file gets new bytes. -/
inductive Operation where
  | openFile
  /-- Makes the draft. -/
  | create
  /-- Reads on in the file, at an offset. -/
  | read (offset : Nat)
  /-- Writes on in the draft, at an offset. -/
  | write (offset : Nat)
  /-- Moves to the end of the range in the file. -/
  | seek
  | flush
  | sync
  | close
  /-- Gives the draft the mode of the file. -/
  | copyMode
  /-- Puts the draft in the place of the file. -/
  | rename
  deriving DecidableEq, Repr

/-- Why a draft is given up. -/
inductive Interruption where
  /-- The storage did not do what it was asked to. -/
  | refused (reason : String)
  /-- The file ended before the range started. -/
  | early (missing : Nat)
  /-- The new text has no bytes. -/
  | unencodable (fault : EncodeFault)
  /-- The end of the range is no offset. -/
  | offset

/-- A draft, in the tree that it is part of. -/
structure Draft where
  workspace : Workspace
  place : Place

/-- Work on a draft. -/
abbrev Drafting := EStateM Interruption Draft

namespace Draft

/-- What has been written so far. -/
def bytes (d : Draft) : List UInt8 :=
  match d.workspace.entryAt d.place with
  | some (.file bytes) => bytes
  | _ => []

def append (d : Draft) (piece : List UInt8) : Draft :=
  { d with workspace := d.workspace.put d.place (.file (d.bytes ++ piece)) }

/-- The tree without the draft. -/
def discard (d : Draft) : Workspace := d.workspace.unlink d.place

/-- The tree with the draft in the place of a file. -/
def replace (d : Draft) (place : Place) : Workspace := d.discard.put place (.file d.bytes)

/-- The name of a draft. -/
def nameOf (text : String) : String := "swagger-comment-" ++ text ++ ".go"

/-- Offsets from here on cannot be moved to, unless a file reaches them. -/
def offsetLimit : Nat := 9223372036854775808

end Draft

structure Storage where
  /-- What the names of drafts differ in, in the order it is tried. -/
  names : List String
  /-- Why an operation fails; nothing where it succeeds. -/
  fault : Operation → Option String

namespace Storage

/-- A storage that makes drafts in a tree unless it refuses to, and does everything else. -/
def ofRefusal (w : Workspace) (refusal : Option String) : Storage where
  names := (List.range (w.entries.length + 1)).map fun n => String.ofList (List.replicate n '_')
  fault
    | .create => refusal
    | _ => none

variable (storage : Storage)

/-- The place and the bytes of the file at a path. -/
def openFile (w : Workspace) (path : String) : Except String (Place × List UInt8) :=
  match w.locate path, w.read path with
  | .error fault, _ | _, .error fault => .error (fault.message path)
  | .ok place, .ok bytes =>
    match storage.fault .openFile with
    | some reason => .error reason
    | none => .ok (place, bytes)

/-- An empty draft in a directory, under the first name that is free there. -/
def create (w : Workspace) (directory : Place) : Except String Draft :=
  match storage.fault .create with
  | some reason => .error reason
  | none =>
    match (storage.names.map fun text => directory ++ [Draft.nameOf text]).find? fun p =>
        (w.entryAt p).isNone with
    | none => .error "[Errno 17] No usable temporary file name found"
    | some place => .ok ⟨w.put place (.file []), place⟩

/-- Asks the storage for an operation. -/
def ask (op : Operation) : Drafting Unit :=
  match storage.fault op with
  | some reason => throw (.refused reason)
  | none => pure ()

/-- Writes a piece to the draft. -/
def write (piece : List UInt8) : Drafting Unit := do
  let d ← get
  storage.ask (.write d.bytes.length)
  set (d.append piece)

/-- Copies `count` bytes of a file; `rest` is what the file has from `offset` on. -/
def copy (chunk : Nat) (rest : List UInt8) (offset count : Nat) : Drafting Unit :=
  if count = 0 then pure ()
  else do
    storage.ask (.read offset)
    let piece := rest.take (min chunk count)
    if piece.isEmpty then throw (.early count)
    else
      storage.write piece
      copy chunk (rest.drop piece.length) (offset + piece.length) (count - piece.length)
termination_by count
decreasing_by
  rename_i hcount hpiece
  have hlength : 0 < piece.length := List.length_pos_iff.2 (by simpa using hpiece)
  exact Nat.sub_lt (Nat.pos_of_ne_zero hcount) hlength

/-- Copies all that a file has from `offset` on. -/
def copyRest (chunk : Nat) (rest : List UInt8) (offset : Nat) : Drafting Unit := do
  storage.ask (.read offset)
  let piece := rest.take chunk
  if piece.isEmpty then pure ()
  else
    storage.write piece
    copyRest chunk (rest.drop piece.length) (offset + piece.length)
termination_by rest.length
decreasing_by
  rename_i hpiece
  have hlength : 0 < piece.length := List.length_pos_iff.2 (by simpa using hpiece)
  have hle : piece.length ≤ rest.length := List.length_take_le' chunk rest
  rw [List.length_drop]
  exact Nat.sub_lt (Nat.lt_of_lt_of_le hlength hle) hlength

/-- Writes a text, by its bytes, where it has some. -/
def writeText (text : CodeText) : Drafting Unit :=
  match text.encode with
  | .error fault => throw (.unencodable fault)
  | .ok encoded => storage.write encoded

/-- Writes a file with a range replaced to the draft. -/
def compose (chunk : Nat) (bytes : List UInt8) (start stop : Nat) (block : CodeText) :
    Drafting Unit := do
  storage.copy chunk bytes 0 start
  storage.writeText block
  if bytes.length < stop ∧ Draft.offsetLimit ≤ stop then throw .offset
  else
    storage.ask .seek
    storage.copyRest chunk (bytes.drop stop) stop
    storage.ask .flush
    storage.ask .sync

/-- Fills the draft until it can take the place of the file. It is closed also where it is given up,
and a failure to close it is then what is told. -/
def fill (chunk : Nat) (bytes : List UInt8) (start stop : Nat) (block : CodeText) :
    Drafting Unit := do
  tryFinally (storage.compose chunk bytes start stop block) (storage.ask .close)
  storage.ask .copyMode
  storage.ask .rename

end Storage

end RouteDoc

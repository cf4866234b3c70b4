/-
Splicing: a range of a file replaced by a text.

The range is the doc block of a function, from its start to the start of the
function. What lies before and behind it stays as it is, byte for byte. The file
is rewritten through a draft beside it. A file that ends before the range starts
is left alone, and so is one whose draft the storage does not take: it may
refuse any operation, for a reason of its own. A text that has no bytes is not
written either, but then it is the text that has failed and not the splice.
-/
import RouteDoc.Go.Declaration
import RouteDoc.Splice.Draft

namespace RouteDoc

/-- The bytes with a range replaced. -/
def replaceRange (bytes : List UInt8) (start stop : Nat) (block : List UInt8) : List UInt8 :=
  bytes.take start ++ block ++ bytes.drop stop

/-- The failure of a splice whose draft is given up. -/
def Interruption.failure (path name : String) : Interruption → Failure
  | .refused reason => .splice path name reason
  | .early missing => .splice path name s!"source ended {missing} bytes early"
  | .unencodable fault => .unencodable fault
  | .offset => .offsetTooLarge

namespace Workspace

/-- How much of a file is copied at a time. -/
def chunkSize : Nat := 64 * 1024

/-- What a file is spliced for, in messages. -/
def spliceName (handler : String) : String := if handler.isEmpty then "declaration" else handler

/-- Replaces the range from `start` to `stop` of the file at a path by `block`, through a draft that
is filled `chunk` bytes at a time; `handler` is the name in the message of a failure. -/
def rewrite (storage : Storage) (chunk : Nat) (w : Workspace) (path : String) (start stop : Int)
    (block : CodeText) (handler : String) : Except Failure Unit × Workspace :=
  let name := spliceName handler
  if !(decide (0 ≤ start) && decide (start ≤ stop)) then (.error (.spliceRange start stop), w)
  else
    match storage.openFile w path with
    | .error reason => (.error (.splice path name reason), w)
    | .ok (place, bytes) =>
      match storage.create w place.dropLast with
      | .error reason => (.error (.splice path name reason), w)
      | .ok draft =>
        match storage.fill chunk bytes start.toNat stop.toNat block draft with
        | .ok _ draft => (.ok (), draft.replace place)
        | .error x draft => (.error (x.failure path name), draft.discard)

/-- The workspace with a range of a file replaced; `refusal` is why the storage makes no draft. -/
def splice (w : Workspace) (path : String) (start stop : Int) (block : CodeText) (handler : String)
    (refusal : Option String := none) : Except Failure Workspace :=
  match w.rewrite (.ofRefusal w refusal) chunkSize path start stop block handler with
  | (.error failure, _) => .error failure
  | (.ok _, w) => .ok w

/-- The file at a path with `block` as the doc block of a function. -/
def document (w : Workspace) (path : String) (d : Go.Declaration) (block : CodeText)
    (refusal : Option String := none) : Except Failure Workspace :=
  w.splice path d.docStart.offset d.start.offset block d.name refusal

end Workspace

end RouteDoc

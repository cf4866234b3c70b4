/-
Paths as texts.

A path as somebody wrote it is a text; these functions cut and join such texts
without looking at any file. `normal` removes empty and `.` components and
resolves `..` by dropping the component in front of it.
-/
import RouteDoc.Text.Search

namespace RouteDoc.PathText

/-- The components of a path: the pieces between its slashes, empty ones included. -/
def components (p : String) : List String := (Text.splitAt '/' p.toList).map String.ofList

def isAbsolute (p : String) : Bool := p.startsWith "/"

/-- `p` below `base`: an absolute `p` stands for itself. -/
def join (base p : String) : String :=
  if isAbsolute p then p
  else if base.isEmpty || base.endsWith "/" then base ++ p
  else base ++ "/" ++ p

/-- What follows the last slash. -/
def baseOf (p : List Char) : List Char := (p.reverse.takeWhile (· != '/')).reverse

/-- What stands up to and including the last slash. -/
def headOf (p : List Char) : List Char := (p.reverse.dropWhile (· != '/')).reverse

def base (p : String) : String := String.ofList (baseOf p.toList)

/-- The part before the last component, without slashes at its end unless it has nothing else. -/
def parent (p : String) : String :=
  let head := headOf p.toList
  if head.all (· == '/') then String.ofList head
  else String.ofList ((head.reverse.dropWhile (· == '/')).reverse)

/-- One component added to components that are already normal, innermost first. A `..` cannot
leave the root of an absolute path and is kept in front of a relative one. -/
def normalStep (absolute : Bool) (done : List String) (c : String) : List String :=
  if c == "" || c == "." then done
  else if c == ".." then
    match done with
    | [] => if absolute then [] else [".."]
    | d :: rest => if d == ".." then ".." :: done else rest
  else c :: done

/-- The slashes in front of a path: exactly two are kept, more count as one. -/
def rootText (p : String) : String :=
  if p.startsWith "//" && !p.startsWith "///" then "//"
  else if isAbsolute p then "/"
  else ""

/-- The path without empty components, `.` and, where it can be resolved, `..`. -/
def normal (p : String) : String :=
  let done := (components p).foldl (normalStep (isAbsolute p)) []
  let text := rootText p ++ Text.joinStrings "/" done.reverse
  if text.isEmpty then "." else text

/-- The absolute path of `p` seen from `cwd`. -/
def absolute (cwd p : String) : String := normal (join cwd p)

/-- The path without empty components and `.`, with `..` kept. -/
def tidy (p : String) : String :=
  let kept := (components p).filter fun c => c != "" && c != "."
  let text := rootText p ++ Text.joinStrings "/" kept
  if text.isEmpty then "." else text

end RouteDoc.PathText

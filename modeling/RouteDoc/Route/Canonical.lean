/-
Path placeholders.

A router writes a placeholder as `:name` and the documentation writes it as
`{name}`. `canonical` rewrites the first form to the second: from a colon to the
end of its segment, where there is something to name. `placeholders` lists the
names between braces, which is how a documented path is read.
-/
import RouteDoc.Text.CodeText

namespace RouteDoc.Route

/-- Whether a name follows: some character that is no slash. -/
def namesSomething : List Char → Bool
  | [] => false
  | c :: _ => c != '/'

/-- Rewrites on, inside a placeholder or outside of one. -/
def canonicalFrom : Bool → List Char → List Char
  | false, [] => []
  | true, [] => ['}']
  | true, c :: rest =>
    if c == '/' then '}' :: '/' :: canonicalFrom false rest else c :: canonicalFrom true rest
  | false, c :: rest =>
    if c == ':' && namesSomething rest then '{' :: canonicalFrom true rest
    else c :: canonicalFrom false rest

/-- The pattern with `{name}` for every `:name`. -/
def canonical (pattern : List Char) : List Char := canonicalFrom false pattern

def canonicalPath (pattern : String) : String := String.ofList (canonical pattern.toList)

/-- The name that ends at the next closing brace, where there is one and the name is not empty. -/
def placeholderAt (s : CodeText) : Option CodeText :=
  let name := s.takeWhile (· != .char '}')
  if name.isEmpty || name.length == s.length then none else some name

/-- Looks on for placeholders behind `skip` more characters. -/
def placeholdersFrom : Nat → CodeText → List CodeText
  | _, [] => []
  | skip + 1, _ :: rest => placeholdersFrom skip rest
  | 0, c :: rest =>
    if c == .char '{' then
      match placeholderAt rest with
      | some name => name :: placeholdersFrom (name.length + 1) rest
      | none => placeholdersFrom 0 rest
    else placeholdersFrom 0 rest

/-- The names between braces, from left to right. -/
def placeholders (path : CodeText) : List CodeText := placeholdersFrom 0 path

end RouteDoc.Route

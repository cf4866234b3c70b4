/-
Searching and cutting texts.

Texts are cut as lists of characters. `startsWith`, `dropLeading` and
`dropTrailing` look at the ends of a text, `occursIn` looks for one text
anywhere inside another, and `splitAt` divides a text, of characters or of code
points, at every occurrence of one.
-/

namespace RouteDoc.Text

/-- Whether `s` starts with `lead`. -/
def startsWith (lead s : List Char) : Bool := lead.isPrefixOf s

/-- `s` without `lead` in front, where it starts with it. -/
def dropLeading (lead s : List Char) : List Char :=
  if startsWith lead s then s.drop lead.length else s

/-- `s` without `tail` at its end, where it ends with it. -/
def dropTrailing (tail s : List Char) : List Char :=
  if tail.isSuffixOf s then s.take (s.length - tail.length) else s

/-- Whether `part` stands somewhere in the text. -/
def occursIn (part : List Char) : List Char → Bool
  | [] => part.isEmpty
  | c :: rest => startsWith part (c :: rest) || occursIn part rest

/-- The text up to the first occurrence of `part`, the whole text when there is none. -/
def untilText (part : List Char) : List Char → List Char
  | [] => []
  | c :: rest => if startsWith part (c :: rest) then [] else c :: untilText part rest

/-- The pieces between the occurrences of `sep`; never empty. -/
def splitAt {α : Type} [BEq α] (sep : α) : List α → List (List α)
  | [] => [[]]
  | c :: rest =>
    match splitAt sep rest with
    | [] => [[c]]
    | piece :: more => if c == sep then [] :: piece :: more else (c :: piece) :: more

/-- The pieces joined with `sep` between them. -/
def joinWith (sep : List Char) : List (List Char) → List Char
  | [] => []
  | [piece] => piece
  | piece :: more => piece ++ sep ++ joinWith sep more

def joinStrings (sep : String) (pieces : List String) : String := String.intercalate sep pieces

/-- Lexicographic order by code point. -/
def codePointLE : List Char → List Char → Bool
  | [], _ => true
  | _ :: _, [] => false
  | a :: as, b :: bs => decide (a.toNat < b.toNat) || (a == b && codePointLE as bs)

/-- The texts in order of their code points; equal texts keep their order. -/
def sortStrings (names : List String) : List String :=
  names.mergeSort fun a b => codePointLE a.toList b.toList

end RouteDoc.Text

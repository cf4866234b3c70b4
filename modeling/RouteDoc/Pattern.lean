/-
Name patterns: `*` for any text, `?` for any character, `[…]` for one
character of a class, everything else for itself.

A class starts with `!` to stand for the characters that are not in it. A hyphen
between two characters makes a range of them; a range that ends before it starts
vanishes together with its hyphen, before the class is looked at any further. A
bracket that is never closed stands for itself.
-/
import RouteDoc.Text.Search

namespace RouteDoc

/-- A part of a character class: a character, or the hyphen of a range. -/
inductive ClassPart where
  | char (c : Char)
  | range
  deriving DecidableEq, Repr

/-- One character or a closed range of characters. -/
structure CharRange where
  low : Char
  high : Char
  deriving DecidableEq, Repr

def CharRange.has (r : CharRange) (c : Char) : Bool :=
  decide (r.low.toNat ≤ c.toNat) && decide (c.toNat ≤ r.high.toNat)

/-- A class of characters. -/
structure CharClass where
  negated : Bool
  ranges : List CharRange
  deriving DecidableEq, Repr

def CharClass.has (k : CharClass) (c : Char) : Bool := (k.ranges.any fun r => r.has c) != k.negated

/-- What a pattern is made of. -/
inductive PatternItem where
  | anyText
  | anyChar
  | oneOf (k : CharClass)
  | char (c : Char)
  deriving DecidableEq, Repr

namespace Pattern

/-- The parts of a class: a hyphen between two characters is a range, unless the character before
it ended one. -/
def parts : List Char → List ClassPart
  | x :: '-' :: y :: rest =>
    if y.toNat < x.toNat then parts rest else .char x :: .range :: .char y :: parts rest
  | x :: rest => .char x :: parts rest
  | [] => []

/-- The ranges that parts stand for; a hyphen with nothing in front of it is itself. -/
def ranges : List ClassPart → List CharRange
  | .char x :: .range :: .char y :: rest => ⟨x, y⟩ :: ranges rest
  | .char x :: rest => ⟨x, x⟩ :: ranges rest
  | .range :: rest => ⟨'-', '-'⟩ :: ranges rest
  | [] => []

/-- The class written between two brackets. -/
def classOf (body : List Char) : CharClass :=
  let all : List ClassPart := match body with
    | '!' :: rest => .char '!' :: parts rest
    | _ => parts body
  match all with
  | .char '!' :: rest => ⟨true, ranges rest⟩
  | _ => ⟨false, ranges all⟩

/-- The body of a class and what follows its closing bracket. A closing bracket that comes first,
or right after `!`, belongs to the body. -/
def classBody (s : List Char) : Option (List Char × List Char) :=
  let lead := match s with
    | '!' :: ']' :: _ => 2
    | '!' :: _ => 1
    | ']' :: _ => 1
    | _ => 0
  let tail := s.drop lead
  match tail.dropWhile (· != ']') with
  | [] => none
  | _ :: rest => some (s.take lead ++ tail.takeWhile (· != ']'), rest)

/-- The items of a pattern, with fuel for its length. -/
def itemsFrom : Nat → List Char → List PatternItem
  | 0, _ => []
  | _, [] => []
  | fuel + 1, '*' :: rest => .anyText :: itemsFrom fuel rest
  | fuel + 1, '?' :: rest => .anyChar :: itemsFrom fuel rest
  | fuel + 1, '[' :: rest =>
    match classBody rest with
    | some (body, rest') => .oneOf (classOf body) :: itemsFrom fuel rest'
    | none => .char '[' :: itemsFrom fuel rest
  | fuel + 1, c :: rest => .char c :: itemsFrom fuel rest

def items (pattern : String) : List PatternItem :=
  itemsFrom pattern.length pattern.toList

/-- The text itself and everything that is left of it after characters are taken from its front. -/
def suffixes : List Char → List (List Char)
  | [] => [[]]
  | c :: rest => (c :: rest) :: suffixes rest

/-- Whether items stand for the whole of a text. -/
def matchItems : List PatternItem → List Char → Bool
  | [], s => s.isEmpty
  | .anyText :: rest, s => (suffixes s).any (matchItems rest)
  | _ :: _, [] => false
  | .anyChar :: rest, _ :: s => matchItems rest s
  | .oneOf k :: rest, c :: s => k.has c && matchItems rest s
  | .char x :: rest, c :: s => x == c && matchItems rest s

/-- Whether `name` is one of the names that `pattern` stands for. -/
def accepts (pattern name : String) : Bool := matchItems (items pattern) name.toList

end Pattern

end RouteDoc

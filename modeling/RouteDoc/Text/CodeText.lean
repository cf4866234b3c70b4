/-
Texts of code points.

A host may hand over a text with surrogates that stand alone: undecodable bytes
and escapes leave such. They are code points but no characters, and UTF-8 has no
bytes for them, so `encode` refuses a text that holds one and says where. Texts
that were read from files, names and paths are texts of characters.
-/
import RouteDoc.Text.Quoted
import RouteDoc.Text.Utf8

namespace RouteDoc

/-- A code point: a character, or a surrogate that stands alone, by its distance from the first
one. -/
inductive CodePoint where
  | char (c : Char)
  | surrogate (n : Fin 2048)
  deriving DecidableEq, Repr

namespace CodePoint

def isChar : CodePoint → Bool
  | .char _ => true
  | .surrogate _ => false

/-- The bytes of a character; a surrogate has none. -/
def utf8 : CodePoint → List UInt8
  | .char c => String.utf8EncodeChar c
  | .surrogate _ => []

/-- The code point as it is shown on a console, a surrogate by its number. -/
def shown : CodePoint → List Char
  | .char c => [c]
  | .surrogate n => '\\' :: 'u' :: Text.hexDigits 4 (0xD800 + n)

end CodePoint

abbrev CodeText := List CodePoint

/-- Surrogates in a row that cannot be encoded: their place, the first one, and how many follow. -/
structure EncodeFault where
  start : Nat
  first : Fin 2048
  more : Nat
  deriving DecidableEq, Repr

def EncodeFault.message (f : EncodeFault) : String :=
  let place :=
    if f.more == 0 then
      s!"character '{String.ofList (CodePoint.surrogate f.first).shown}' in position {f.start}"
    else s!"characters in position {f.start}-{f.start + f.more}"
  s!"'utf-8' codec can't encode {place}: surrogates not allowed"

namespace CodeText

def ofChars (s : List Char) : CodeText := s.map .char

def ofString (s : String) : CodeText := ofChars s.toList

instance : Coe String CodeText := ⟨ofString⟩

def shown (t : CodeText) : String := String.ofList (t.flatMap CodePoint.shown)

/-- The first surrogates of a text, where `here` code points stand in front of it. -/
def faultFrom (here : Nat) : CodeText → Option EncodeFault
  | [] => none
  | .char _ :: rest => faultFrom (here + 1) rest
  | .surrogate n :: rest => some ⟨here, n, (rest.takeWhile fun p => !p.isChar).length⟩

/-- The bytes of the characters of a text. -/
def utf8 (t : CodeText) : List UInt8 := t.flatMap CodePoint.utf8

/-- The bytes of a text, or the first surrogates in it. -/
def encode (t : CodeText) : Except EncodeFault (List UInt8) :=
  match faultFrom 0 t with
  | some fault => .error fault
  | none => .ok t.utf8

end CodeText

end RouteDoc

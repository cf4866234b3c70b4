/-
Written integers.

An integer may have blanks around it and a sign in front. Its digits can be of
any script, and a single underscore may stand between two of them. More digits
than `digitLimit` are refused.
-/
import RouteDoc.Failure
import RouteDoc.Text.Blank
import RouteDoc.Text.Digit

namespace RouteDoc.Integer

/-- The most digits an integer may have. -/
def digitLimit : Nat := 4300

/-- Whether underscores stand only between digits, each of them alone. -/
def wellDivided : Bool → List Char → Bool
  | afterDigit, [] => afterDigit
  | afterDigit, c :: rest =>
    if c == '_' then afterDigit && wellDivided false rest else wellDivided true rest

def isDigitOrBar (c : Char) : Bool := c == '_' || (Text.digitValue? c).isSome

/-- The sign in front of a text, and what follows it. -/
def signed : List Char → Bool × List Char
  | '-' :: rest => (true, rest)
  | '+' :: rest => (false, rest)
  | s => (false, s)

/-- The integer that a text is. -/
def read (text : String) : Except ValueFault Int :=
  let (negative, s) := signed (text.toList.dropWhile Text.isNumberBlank)
  let run := s.takeWhile isDigitOrBar
  if !wellDivided false run then .error (.notInteger 10 text)
  else
    let digits := run.filterMap Text.digitValue?
    if digits.length > digitLimit then .error (.tooManyDigits digits.length)
    else if !(s.dropWhile isDigitOrBar).all Text.isNumberBlank then .error (.notInteger 10 text)
    else
      let value : Nat := digits.foldl (fun n d => 10 * n + d) 0
      .ok (if negative then -(value : Int) else value)

end RouteDoc.Integer

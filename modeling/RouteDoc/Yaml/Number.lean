/-
Numbers as they are written in YAML.

Underscores are dropped. An integer can have a base in front, or be written in
parts of sixty; so can a number with a point. A tag can claim of any text that
it is a number, so these readers can fail.
-/
import RouteDoc.Integer
import RouteDoc.Text.Casing
import RouteDoc.Yaml.Tag

namespace RouteDoc.Yaml.Number

def withoutBars (s : List Char) : List Char := s.filter (· != '_')

/-- The sign of a number and the text behind it; a number has to have some text. -/
def signed (s : List Char) : Except ValueFault (Bool × List Char) :=
  match s with
  | [] => .error .noNumber
  | '-' :: rest => .ok (true, rest)
  | '+' :: rest => .ok (false, rest)
  | _ => .ok (false, s)

/-- The value of a digit in a base up to sixteen. -/
def digitIn (base : Nat) (c : Char) : Option Nat :=
  let v : Option Nat :=
    match Text.digitValue? c with
    | some n => some n
    | none =>
      if 'a' ≤ c && c ≤ 'f' then some (c.toNat - 0x57)
      else if 'A' ≤ c && c ≤ 'F' then some (c.toNat - 0x37)
      else none
  v.filter fun n => decide (n < base)

/-- Digits as a number. -/
def ofDigits (base : Nat) (s : List Char) : Option Nat :=
  if s.isEmpty then none
  else (s.mapM (digitIn base)).map fun ds => ds.foldl (fun n d => base * n + d) 0

/-- An integer in a base, perhaps with a sign and with a zero and the letter of the base in
front. -/
def readBased (base : Nat) (letter : Char) (s : List Char) : Except ValueFault Int :=
  let inner := ((s.dropWhile Text.isNumberBlank).reverse.dropWhile Text.isNumberBlank).reverse
  let (negative, body) := Integer.signed inner
  let body := match body with
    | '0' :: c :: rest => if c == letter || c == letter.toUpper then rest else body
    | _ => body
  match ofDigits base body with
  | some n => .ok (if negative then -(n : Int) else n)
  | none => .error (.notInteger base (String.ofList s))

/-- Parts of sixty, the last one first. -/
def sumParts : Nat → List Int → Int
  | _, [] => 0
  | base, n :: rest => n * base + sumParts (base * 60) rest

def readDecimal (s : List Char) : Except ValueFault Int := Integer.read (String.ofList s)

/-- An integer. -/
def readInt (text : String) : Except ValueFault Int := do
  let (negative, s) ← signed (withoutBars text.toList)
  let n ← match s with
    | ['0'] => pure 0
    | '0' :: 'b' :: rest => readBased 2 'b' rest
    | '0' :: 'x' :: rest => readBased 16 'x' rest
    | '0' :: _ => readBased 8 'o' s
    | [] => .error .noNumber
    | _ =>
      if s.contains ':' then do
        let parts ← (Text.splitAt ':' s).mapM readDecimal
        pure (sumParts 1 parts.reverse)
      else readDecimal s
  return if negative then -n else n

/-! ## Numbers with a point -/

/-- An exponent behind its letter. -/
def exponentOf (s : List Char) : Option Int := do
  let (negative, digits) := Integer.signed s
  if digits.isEmpty then none
  else do
    let ds ← digits.mapM Text.digitValue?
    let n : Nat := ds.foldl (fun n d => 10 * n + d) 0
    return if negative then -(n : Int) else n

/-- A number in decimal digits, with or without a point and an exponent. -/
def decimal (negative : Bool) (s : List Char) : Option Binary64 := do
  let isDigit (c : Char) : Bool := (Text.digitValue? c).isSome
  let whole := s.takeWhile isDigit
  let rest := s.dropWhile isDigit
  let (fraction, rest) := match rest with
    | '.' :: more => (more.takeWhile isDigit, more.dropWhile isDigit)
    | _ => ([], rest)
  if whole.isEmpty && fraction.isEmpty then none
  else do
    let exponent ← match rest with
      | [] => some 0
      | 'e' :: more => exponentOf more
      | _ => none
    let ds := (whole ++ fraction).filterMap Text.digitValue?
    return Binary64.read negative (ds.foldl (fun n d => 10 * n + d) 0)
      (exponent - fraction.length)

/-- A number in lower case letters. -/
def readPoint (s : List Char) : Except ValueFault Binary64 :=
  let inner := ((s.dropWhile Text.isNumberBlank).reverse.dropWhile Text.isNumberBlank).reverse
  let (negative, body) := Integer.signed inner
  if body == "inf".toList || body == "infinity".toList then .ok (.infinite negative)
  else if body == "nan".toList then .ok .nan
  else
    match decimal negative body with
    | some x => .ok x
    | none => .error (.notFloat (String.ofList s))

/-- Parts of sixty, the last one first. -/
def addParts (sum : Binary64) : Nat → List Binary64 → Binary64
  | _, [] => sum
  | base, x :: rest => addParts (sum.add (x.mul (Binary64.ofNat base))) (base * 60) rest

/-- A number with a point. -/
def readFloat (text : String) : Except ValueFault Binary64 := do
  let (negative, s) ← signed (Text.lower (withoutBars text.toList))
  let x ←
    if s == ".inf".toList then pure (.infinite false)
    else if s == ".nan".toList then pure .nan
    else if s.contains ':' then do
      let parts ← (Text.splitAt ':' s).mapM readPoint
      pure (addParts (Binary64.zero false) 1 parts.reverse)
    else readPoint s
  return if negative then x.neg else x

end RouteDoc.Yaml.Number

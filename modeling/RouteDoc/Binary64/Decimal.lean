/-
Decimal texts of binary numbers.

`shortest` finds the fewest decimal digits that read back as the same number,
and among those the digits nearest to it. It walks the decimal grids from
coarse to fine; on each grid only the two neighbours of the number can be
candidates, and a neighbour is one if it lies in the interval of reals that
round to the number (its ends belong to it when the significand is even).

`text` writes those digits positionally between 10^-4 and 10^16 and with an
exponent of at least two digits elsewhere, always with a point or an exponent.
`fixedText` rounds the exact value to a number of places. `read` goes the other
way: the number nearest to a written decimal.
-/
import RouteDoc.Binary64

namespace RouteDoc.Binary64

/-- A decimal `digits * 10 ^ exponent`. -/
structure Digits where
  digits : Nat
  exponent : Int
  deriving DecidableEq, Repr

/-- `10 ^ e` as numerator and denominator. -/
def tenPower (e : Int) : Nat × Nat :=
  if e < 0 then (1, Nat.pow 10 (-e).toNat) else (Nat.pow 10 e.toNat, 1)

def digitCount (n : Nat) : Nat := (Nat.toDigits 10 n).length

/-- How often `num / den`, below one, can be multiplied by ten and stay below one. -/
def leadingZeros : Nat → Nat → Nat → Nat
  | 0, _, _ => 0
  | fuel + 1, num, den => if num * 10 < den then leadingZeros fuel (num * 10) den + 1 else 0

/-- The exponent `e` with `10 ^ (e - 1) ≤ num / den < 10 ^ e`. -/
def decimalPoint (num den : Nat) : Int :=
  if den ≤ num then (digitCount (num / den) : Int) else -(leadingZeros 400 num den : Int)

/-- A closed or open interval between two fractions. -/
structure Interval where
  low : Nat × Nat
  high : Nat × Nat
  closed : Bool

/-- Whether `x` comes before `y`, or is equal to it where `orEqual`. -/
def fractionLE (orEqual : Bool) (x y : Nat × Nat) : Bool :=
  if orEqual then decide (x.1 * y.2 ≤ y.1 * x.2) else decide (x.1 * y.2 < y.1 * x.2)

def Interval.has (i : Interval) (x : Nat × Nat) : Bool :=
  fractionLE i.closed i.low x && fractionLE i.closed x i.high

/-- The reals that round to `significand * 2 ^ power`. Below a power of two the steps are half as
wide. -/
def roundingInterval (significand : Nat) (power : Int) : Interval :=
  let quarter := fraction 1 (power - 2)
  let below := if significand == Nat.pow 2 52 && decide (leastPower < power) then 1 else 2
  { low := (quarter.1 * (4 * significand - below), quarter.2)
    high := (quarter.1 * (4 * significand + 2), quarter.2)
    closed := significand % 2 == 0 }

/-- The neighbour of `value` on the grid of multiples of `10 ^ e` that lies in `i` and is nearest
to `value`. -/
def onGrid (i : Interval) (value : Nat × Nat) (e : Int) : Option Nat :=
  let step := tenPower e
  let num := value.1 * step.2
  let den := value.2 * step.1
  let floor := num / den
  let hit := fun n : Nat => i.has (n * step.1, step.2)
  let down := decide (0 < floor) && hit floor
  let up := hit (floor + 1)
  if down && up then
    if 2 * (num % den) < den then some floor
    else if den < 2 * (num % den) then some (floor + 1)
    else if floor % 2 == 0 then some floor else some (floor + 1)
  else if down then some floor
  else if up then some (floor + 1)
  else none

/-- Tries the grids with `count`, `count + 1`, … digits. -/
def shortestFrom (i : Interval) (value : Nat × Nat) (point : Int) : Nat → Nat → Option Digits
  | 0, _ => none
  | fuel + 1, count =>
    match onGrid i value (point - count) with
    | some n => some ⟨n, point - count⟩
    | none => shortestFrom i value point fuel (count + 1)

/-- The fewest digits that read back as `significand * 2 ^ power`. -/
def shortest (significand : Nat) (power : Int) : Digits :=
  let value := fraction significand power
  let point := decimalPoint value.1 value.2
  (shortestFrom (roundingInterval significand power) value point 20 1).getD ⟨0, 0⟩

/-- Drops zeros at the end of the digits. -/
def trimZeros : Nat → Digits → Digits
  | 0, d => d
  | fuel + 1, d =>
    if d.digits != 0 && d.digits % 10 == 0 then trimZeros fuel ⟨d.digits / 10, d.exponent + 1⟩ else d

def signText (negative : Bool) : List Char := if negative then ['-'] else []

/-- The exponent as it is written: a sign and at least two digits. -/
def exponentText (e : Int) : List Char :=
  let digits := Nat.toDigits 10 e.natAbs
  'e' :: (if e < 0 then '-' else '+') :: (if digits.length < 2 then '0' :: digits else digits)

/-- Digits with the point `point` places behind the first of them. -/
def placePoint (digits : List Char) (point : Int) : List Char :=
  if decide (-4 < point) && decide (point ≤ 16) then
    if point ≤ 0 then '0' :: '.' :: (List.replicate (-point).toNat '0' ++ digits)
    else if point.toNat < digits.length then
      digits.take point.toNat ++ '.' :: digits.drop point.toNat
    else digits ++ List.replicate (point.toNat - digits.length) '0' ++ ['.', '0']
  else
    match digits with
    | [] => []
    | [d] => d :: exponentText (point - 1)
    | d :: more => d :: '.' :: (more ++ exponentText (point - 1))

/-- The shortest text that reads back as the number. -/
def text : Binary64 → List Char
  | .nan => ['n', 'a', 'n']
  | .infinite negative => signText negative ++ ['i', 'n', 'f']
  | .finite negative 0 _ => signText negative ++ ['0', '.', '0']
  | .finite negative significand power =>
    let d := trimZeros 20 (shortest significand power)
    let digits := Nat.toDigits 10 d.digits
    signText negative ++ placePoint digits (d.exponent + digits.length)

def textString (x : Binary64) : String := String.ofList x.text

/-- `n` with at least `width` digits. -/
def padded (width n : Nat) : List Char :=
  let digits := Nat.toDigits 10 n
  List.replicate (width - digits.length) '0' ++ digits

/-- The number with `places` digits behind the point; the exact value is rounded, a tie to the even
digit. -/
def fixedText (places : Nat) : Binary64 → List Char
  | .nan => ['n', 'a', 'n']
  | .infinite negative => signText negative ++ ['i', 'n', 'f']
  | .finite negative significand power =>
    let value := fraction significand power
    let unit := Nat.pow 10 places
    let scaled := nearestEven (value.1 * unit) value.2
    signText negative ++ Nat.toDigits 10 (scaled / unit) ++
      (if places == 0 then [] else '.' :: padded places (scaled % unit))

def fixedString (places : Nat) (x : Binary64) : String := String.ofList (x.fixedText places)

/-- The number nearest to `± digits * 10 ^ exponent`. Exponents far outside the range are decided
without computing the power. -/
def read (negative : Bool) (digits : Nat) (exponent : Int) : Binary64 :=
  let size : Int := digitCount digits + exponent
  if digits == 0 || decide (size < -400) then zero negative
  else if 400 < size then .infinite negative
  else
    let power := tenPower exponent
    round negative (digits * power.1) power.2

end RouteDoc.Binary64

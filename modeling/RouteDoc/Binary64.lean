/-
Binary floating point numbers of 64 bits, computed exactly.

A finite number is a sign, a significand and a power of two, so its value is a
rational number and every operation is the exact result rounded once. `round`
does that rounding: to the nearest number, to the even significand when two are
equally near, to an infinity from the middle between the largest number and the
next power of two on.
-/

namespace RouteDoc

/-- A number `± significand * 2 ^ power`, an infinity, or no number. -/
inductive Binary64 where
  | nan
  | infinite (negative : Bool)
  | finite (negative : Bool) (significand : Nat) (power : Int)
  deriving DecidableEq, Repr

namespace Binary64

/-- The power of two of the smallest steps. -/
def leastPower : Int := -1074

/-- The power of two of the largest steps. -/
def greatestPower : Int := 971

def zero (negative : Bool) : Binary64 := .finite negative 0 leastPower

/-- The natural number nearest to `num / den`, the even one of two equally near. -/
def nearestEven (num den : Nat) : Nat :=
  let floor := num / den
  let rest := num % den
  if 2 * rest < den then floor
  else if den < 2 * rest then floor + 1
  else if floor % 2 == 0 then floor else floor + 1

/-- `num / den` in steps of `2 ^ power`, to the nearest step. -/
def nearestSteps (num den : Nat) (power : Int) : Nat :=
  if power < 0 then nearestEven (num * Nat.pow 2 (-power).toNat) den
  else nearestEven num (den * Nat.pow 2 power.toNat)

/-- Whether `num / den` is at least `2 ^ power`. -/
def reaches (num den : Nat) (power : Int) : Bool :=
  if power < 0 then decide (den ≤ num * Nat.pow 2 (-power).toNat)
  else decide (den * Nat.pow 2 power.toNat ≤ num)

/-- The steps in which `num / den` has a significand of 53 binary digits, or the smallest ones. -/
def powerFor (num den : Nat) : Int :=
  let guess : Int := (num.log2 : Int) - (den.log2 : Int)
  let top := if reaches num den guess then guess else guess - 1
  max leastPower (top - 52)

/-- The number nearest to `± num / den`. -/
def round (negative : Bool) (num den : Nat) : Binary64 :=
  if num == 0 then zero negative
  else
    let power := powerFor num den
    let steps := nearestSteps num den power
    if steps == Nat.pow 2 53 then
      if power + 1 > greatestPower then .infinite negative
      else .finite negative (Nat.pow 2 52) (power + 1)
    else if power > greatestPower then .infinite negative
    else .finite negative steps power

/-- The value of `significand * 2 ^ power` as numerator and denominator. -/
def fraction (significand : Nat) (power : Int) : Nat × Nat :=
  if power < 0 then (significand, Nat.pow 2 (-power).toNat)
  else (significand * Nat.pow 2 power.toNat, 1)

def neg : Binary64 → Binary64
  | .nan => .nan
  | .infinite s => .infinite !s
  | .finite s m p => .finite (!s) m p

def ofNat (n : Nat) : Binary64 := round false n 1

/-- The product, rounded. -/
def mul : Binary64 → Binary64 → Binary64
  | .finite s m p, .finite t n q =>
    let a := fraction m p
    let b := fraction n q
    round (s != t) (a.1 * b.1) (a.2 * b.2)
  | .infinite s, .infinite t => .infinite (s != t)
  | .infinite s, .finite t n _ => if n == 0 then .nan else .infinite (s != t)
  | .finite s m _, .infinite t => if m == 0 then .nan else .infinite (s != t)
  | _, _ => .nan

/-- The sum, rounded; a sum of zero is positive unless both terms are negative. -/
def add : Binary64 → Binary64 → Binary64
  | .finite s m p, .finite t n q =>
    let a := fraction m p
    let b := fraction n q
    let x := a.1 * b.2
    let y := b.1 * a.2
    if s == t then round s (x + y) (a.2 * b.2)
    else if x == y then zero false
    else if y < x then round s (x - y) (a.2 * b.2)
    else round t (y - x) (a.2 * b.2)
  | .infinite s, .infinite t => if s == t then .infinite s else .nan
  | .infinite s, .finite _ _ _ => .infinite s
  | .finite _ _ _, .infinite t => .infinite t
  | _, _ => .nan

/-- The quotient of two integers, rounded once; none where it is larger than every number. A
quotient of zero keeps the sign that the two integers give it. -/
def quotient? (a b : Int) : Option Binary64 :=
  match round (decide (a < 0) != decide (b < 0)) a.natAbs b.natAbs with
  | .infinite _ => none
  | q => some q

end Binary64

end RouteDoc

/-
The values of scalars by their tags: truth values, numbers, dates, bytes and
texts.
-/
import RouteDoc.Yaml.Number
import RouteDoc.Yaml.Token

namespace RouteDoc.Yaml.Plain

/-- A truth value. -/
def readBool (text : String) : Except ValueFault Bool :=
  let s := Text.lowerString text
  if s == "yes" || s == "true" || s == "on" then .ok true
  else if s == "no" || s == "false" || s == "off" then .ok false
  else .error (.notBoolean s)

/-! ## Dates and times -/

def isLeap (year : Nat) : Bool := (year % 4 == 0 && year % 100 != 0) || year % 400 == 0

def daysIn (year month : Nat) : Nat :=
  if month == 2 then (if isLeap year then 29 else 28)
  else if [4, 6, 9, 11].contains month then 30
  else 31

/-- A day that exists. -/
def day (year month d : Nat) : Except ValueFault Day :=
  if year < 1 then .error (.year year)
  else if month < 1 || 12 < month then .error .month
  else if d < 1 || daysIn year month < d then .error .day
  else .ok ⟨year, month, d⟩

def number (s : List Char) : Nat := s.foldl (fun n c => 10 * n + (c.toNat - 0x30)) 0

/-- The first six digits behind the point of a second, as microseconds. -/
def micros (s : List Char) : Nat := number ((s ++ List.replicate 6 '0').take 6)

/-- A distance from universal time of less than a day. -/
def zone (z : Option Char × List Char × List Char) : Except ValueFault Int :=
  let minutes : Int := number z.2.1 * 60 + number z.2.2
  let minutes := if z.1 == some '-' then -minutes else minutes
  if 1440 ≤ minutes.natAbs then .error (.offset minutes) else .ok minutes

/-- A moment that exists. -/
def moment (w : Tag.Written) (time : List Char × List Char × List Char) :
    Except ValueFault Moment := do
  let offset ← match w.zone with
    | none => pure none
    | some z => do pure (some (← zone z))
  let d ← day (number w.year) (number w.month) (number w.day)
  let (hour, minute, second) := time
  if 23 < number hour then .error .hour
  else if 59 < number minute then .error .minute
  else if 59 < number second then .error .second
  else return ⟨d, number hour, number minute, number second, micros w.fraction, offset⟩

/-- A date or a moment. -/
def readTimestamp (text : String) : Except ValueFault Value :=
  match Tag.written (Tag.withoutLineEnd text.toList) with
  | none => .error .notTimestamp
  | some w =>
    match w.time with
    | none => do
      let d ← day (number w.year) (number w.month) (number w.day)
      return .date d
    | some time => do
      let m ← moment w time
      return .moment m

/-! ## Bytes -/

/-- The value of a digit of base sixty-four. -/
def sixtyFour? (c : Char) : Option Nat :=
  if 'A' ≤ c && c ≤ 'Z' then some (c.toNat - 0x41)
  else if 'a' ≤ c && c ≤ 'z' then some (c.toNat - 0x61 + 26)
  else if '0' ≤ c && c ≤ '9' then some (c.toNat - 0x30 + 52)
  else if c == '+' then some 62
  else if c == '/' then some 63
  else none

/-- Bytes written in base sixty-four. Characters that are no digits are passed over; the text stops
at the padding that completes a group of four, and has to end with a group that is complete. -/
def bytesFrom (found : List UInt8) : Nat → Nat → Nat → List Char → Option (List UInt8)
  | place, _, _, [] => if place == 0 then some found.reverse else none
  | place, pads, left, c :: rest =>
    if c == '=' then
      if 2 ≤ place && 4 ≤ place + pads + 1 then some found.reverse
      else bytesFrom found place (if 2 ≤ place then pads + 1 else pads) left rest
    else
      match sixtyFour? c with
      | none => bytesFrom found place pads left rest
      | some v =>
        if place == 0 then bytesFrom found 1 0 v rest
        else if place == 1 then bytesFrom ((left * 4 + v / 16).toUInt8 :: found) 2 0 (v % 16) rest
        else if place == 2 then bytesFrom ((left * 16 + v / 4).toUInt8 :: found) 3 0 (v % 4) rest
        else bytesFrom ((left * 64 + v).toUInt8 :: found) 0 0 0 rest

/-- Bytes, written in ASCII characters. -/
def readBytes (text : String) : Except Fault (List UInt8) :=
  if text.toList.all fun c => c.toNat < 0x80 then
    match bytesFrom [] 0 0 0 text.toList with
    | some bytes => .ok bytes
    | none => .error .invalid
  else .error .invalid

/-! ## Scalars -/

/-- The value of a scalar of a tag; none where the tag is not one of a scalar. -/
def valueOf (tag text : String) : Option (Except Fault Value) :=
  let checked (x : Except ValueFault Value) : Except Fault Value := x.mapError .value
  if tag == Tag.null then some (.ok .null)
  else if tag == Tag.bool then some (checked ((readBool text).map .bool))
  else if tag == Tag.int then some (checked ((Number.readInt text).map .int))
  else if tag == Tag.float then some (checked ((Number.readFloat text).map .float))
  else if tag == Tag.timestamp then some (checked (readTimestamp text))
  else if tag == Tag.binary then some ((readBytes text).map .bytes)
  else if tag == Tag.str then some (.ok (.str text))
  else none

end RouteDoc.Yaml.Plain

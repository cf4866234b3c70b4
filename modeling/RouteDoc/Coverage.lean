/-
Counts of functions and handlers, and how much of them is documented.

Counts of files are added up field by field. The coverage is the share of
documented handlers in percent; without handlers it is zero.
-/
import RouteDoc.Binary64.Decimal
import RouteDoc.Failure

namespace RouteDoc

structure Counts where
  total : Int := 0
  handlers : Int := 0
  alreadyDocumented : Int := 0
  newlyDocumented : Int := 0
  deriving DecidableEq, Repr

namespace Counts

def add (a b : Counts) : Counts :=
  ⟨a.total + b.total, a.handlers + b.handlers, a.alreadyDocumented + b.alreadyDocumented,
    a.newlyDocumented + b.newlyDocumented⟩

instance : Add Counts := ⟨add⟩

/-- The handlers that are documented in the end. -/
def documented (c : Counts) : Int := c.alreadyDocumented + c.newlyDocumented

/-- The share of documented handlers in percent, where it can be written as a number. -/
def coverage (c : Counts) : Except Failure Binary64 :=
  if c.handlers == 0 then .ok (Binary64.ofNat 0)
  else
    match Binary64.quotient? c.documented c.handlers with
    | none => .error .quotientTooLarge
    | some q => .ok (q.mul (Binary64.ofNat 100))

/-- The coverage with one decimal. -/
def coverageText (x : Binary64) : String := x.fixedString 1 ++ "%"

/-- The summary at the end of a run. -/
def summary (c : Counts) : Except Failure String := do
  let rule := String.ofList (List.replicate 38 '=')
  let share ← c.coverage
  return Text.joinStrings "\n"
    [rule, "Swagger Comment Generation Complete!", rule,
      "Total methods examined:  " ++ Value.intString c.total,
      "Handler methods found:   " ++ Value.intString c.handlers,
      "Already commented:       " ++ Value.intString c.alreadyDocumented,
      "New comments added:      " ++ Value.intString c.newlyDocumented,
      "Total documentation:     " ++ Value.intString c.documented ++ "/" ++
        Value.intString c.handlers ++ " (" ++ coverageText share ++ ")"]

end Counts

end RouteDoc

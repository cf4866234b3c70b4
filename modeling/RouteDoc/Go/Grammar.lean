/-
The grammar of Go source text, closed.

The rules of `Go.Grammar.Types`, `Go.Grammar.Expressions` and
`Go.Grammar.Statements` are written against the rules of one step less. With no
step left nothing can be read; a rule takes at most a few steps before it takes
a token, so a small multiple of the number of tokens is enough for any text.
-/
import RouteDoc.Go.Grammar.Statements

namespace RouteDoc.Go.Grammar

/-- The rules, one step deeper than `r`. -/
def rule (r : Rules) : Rules
  | .type newlineEnds => typeRule r newlineEnds
  | .operand c => operandRule r c
  | .params => paramsRule r
  | .body => skipping (bodyRule r)
  | .block => skipping (blockRule r)
  | .statement => skipping (statementRule r)

/-- The rules with a number of steps. -/
def rules : Nat → Rules
  | 0, _, _ => none
  | n + 1, g, ts => rule (rules n) g ts

/-- The steps that are enough for a text of `n` tokens. -/
def steps (n : Nat) : Nat := 4 * n + 8

/-- The rules for a list of tokens. -/
def rulesFor (ts : List Token) : Rules := rules (steps ts.length)

end RouteDoc.Go.Grammar

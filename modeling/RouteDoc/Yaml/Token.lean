/-
Tokens of a YAML text.
-/
import RouteDoc.Failure

namespace RouteDoc.Yaml

/-- Why a text gives no value: it is not YAML, or a value in it is written wrongly. -/
inductive Fault where
  | invalid
  | value (fault : ValueFault)

/-- What a line that starts with `%` says. -/
inductive Directive where
  | version (major : Nat)
  | tag (handle lead : String)
  | other

inductive Token where
  | directive (d : Directive)
  | documentStart
  | documentEnd
  | streamEnd
  | blockSequenceStart
  | blockMappingStart
  | blockEnd
  | flowSequenceStart
  | flowSequenceEnd
  | flowMappingStart
  | flowMappingEnd
  | blockEntry
  | flowEntry
  | key
  | value
  | reference (name : String)
  | anchor (name : String)
  | tag (handle : Option String) (suffix : String)
  | scalar (text : String) (plain : Bool)

end RouteDoc.Yaml

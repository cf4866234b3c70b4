/-
Route tables, entry by entry.

A table that is made of entries knows a handler when some entry is for it, has
for it the route of the last such entry, and lists the handlers in the order of
their first entries: a table is a list of entries with a key.
-/
import RouteDoc.Proofs.Keyed
import RouteDoc.Route

namespace RouteDoc.RouteTable

/-- The handlers of a table, in order. -/
def keys (t : RouteTable) : List String := t.map Prod.fst

theorem mem_keys_ofEntries (es : List (String × Route)) (k : String) :
    k ∈ (ofEntries es).keys ↔ k ∈ es.map Prod.fst :=
  Keyed.mem_keys_ofEntries es k

/-- **The last entry counts.** -/
theorem get?_ofEntries (es : List (String × Route)) (k : String) :
    (ofEntries es).get? k = ((es.filter fun e => e.1 == k).getLast?).map Prod.snd :=
  Keyed.get?_ofEntries es k

/-- **The first entry gives the place.** -/
theorem keys_ofEntries_order (es : List (String × Route)) :
    (ofEntries es).keys.Pairwise fun a b => (es.map Prod.fst).idxOf a < (es.map Prod.fst).idxOf b :=
  Keyed.keys_ofEntries_order es

end RouteDoc.RouteTable

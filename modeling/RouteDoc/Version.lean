/-
The version of the tool.
-/

namespace RouteDoc

def version : String := "0.3.0"

end RouteDoc

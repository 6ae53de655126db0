import ProxyWarden.NameMap

/-!
# Core documents

The settings of the core are an object of JSON text. A document keeps, for every top-level field,
the text of its value as it was written, so that what the program does not understand passes
through unchanged. Only some fields are stored or loaded.
-/
namespace ProxyWarden

/-- The text of a value for every field name. -/
abbrev Document := NameMap String

namespace Document

/-- The fields that the core accepts from the settings. -/
def allowedFields : List String := [
  "log", "api", "dns", "routing", "policy", "inbounds", "outbounds", "transport", "stats",
  "reverse", "fakedns", "metrics", "observatory", "burstObservatory"]

def isAllowed (key : String) : Bool := allowedFields.contains key

def retainAllowed (d : Document) : Document := d.restrict isAllowed

end Document

end ProxyWarden

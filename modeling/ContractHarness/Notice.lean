/-!
# Notices

What the harness tells its user besides the result: lines of a log, each with a level. Operations
return the notices that they give, in order.
-/

set_option autoImplicit false

namespace ContractHarness

/-- How urgent a notice is. -/
inductive Level where
  | info
  | warn
  | error
deriving DecidableEq, Repr

/-- The name of a level in the log. -/
def Level.name : Level → String
  | .info => "INFO"
  | .warn => "WARN"
  | .error => "ERROR"

/-- A line of the log. -/
structure Notice where
  level : Level
  text : String
deriving DecidableEq, Repr

/-- A notice of the ordinary kind. -/
def Notice.info (text : String) : Notice := ⟨.info, text⟩

/-- A notice of something that may be wrong. -/
def Notice.warn (text : String) : Notice := ⟨.warn, text⟩

/-- A notice of something that is wrong. -/
def Notice.error (text : String) : Notice := ⟨.error, text⟩

end ContractHarness

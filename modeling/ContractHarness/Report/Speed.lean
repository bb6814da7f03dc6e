import ContractHarness.Notice
import ContractHarness.Report.Grouping

/-!
# The speed of a deployment

A deployment is fast below one threshold, medium below another, and slow otherwise. Its speed shows
as the colour of its time.
-/

set_option autoImplicit false

namespace ContractHarness.Report

/-- How a deployment went. -/
inductive Speed where
  | fast
  | medium
  | slow
deriving DecidableEq, Repr

/-- The number of the terminal colour of a speed: green, yellow or red. -/
def Speed.colour : Speed → Nat
  | .fast => 32
  | .medium => 33
  | .slow => 31

/-- The times, in milliseconds, below which a deployment is fast or medium. -/
structure Thresholds where
  fastMillis : Nat
  mediumMillis : Nat
deriving DecidableEq, Repr

/-- The thresholds that hold when no others are given. -/
def Thresholds.default : Thresholds := ⟨2000, 5000⟩

/-- How many nanoseconds make a millisecond. -/
def nanosPerMilli : Nat := 1000000

/-- The speed of a deployment that took a number of nanoseconds. -/
def Thresholds.classify (thresholds : Thresholds) (nanos : Nat) : Speed :=
  if nanos < thresholds.fastMillis * nanosPerMilli then .fast
  else if nanos < thresholds.mediumMillis * nanosPerMilli then .medium
  else .slow

/-- How long something took. Without a clock nothing is measured: the time counts as none and is
not shown. -/
inductive Elapsed where
  | measured (nanos : Nat)
  | unmeasured
deriving DecidableEq, Repr

/-- The nanoseconds that a time counts as. -/
def Elapsed.nanos : Elapsed → Nat
  | .measured nanos => nanos
  | .unmeasured => 0

/-- A time in whole milliseconds. -/
def Elapsed.millis : Elapsed → String
  | .measured nanos => grouped (nanos / nanosPerMilli)
  | .unmeasured => "_"

/-- A text in a terminal colour. -/
def coloured (colour : Nat) (text : String) : String :=
  "\x1b[" ++ colour.repr ++ "m" ++ text

/-- What is told about a deployment. -/
def Thresholds.deploymentNotice (thresholds : Thresholds) (name : String) (elapsed : Elapsed) :
    Notice :=
  let speed := thresholds.classify elapsed.nanos
  .info (coloured 34 s!"Deployed: {name} " ++ coloured speed.colour s!"({elapsed.millis} ms)"
    ++ "\x1b[0m")

end ContractHarness.Report

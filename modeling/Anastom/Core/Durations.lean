import Anastom.Core.JsonText
import Anastom.Core.NormalizedWorkflow
import Mathlib.Data.List.Induction

/-! Durations and budgets of a normalized workflow: each duration is the value of its text,
and each budget field is that of the nearest policy that gives it. -/
namespace Anastom

inductive DurationUnit where
  | milliseconds | seconds | minutes | hours
  deriving DecidableEq, Repr

namespace DurationUnit

def suffix : DurationUnit → List Char
  | .milliseconds => ['m', 's']
  | .seconds => ['s']
  | .minutes => ['m']
  | .hours => ['h']

def length : DurationUnit → Nat
  | .milliseconds => 1
  | .seconds => 1000
  | .minutes => 60000
  | .hours => 3600000

end DurationUnit

namespace WorkflowDocument

end WorkflowDocument

open WorkflowDocument

end Anastom

import Anastom.Core.Durations
import Anastom.Core.SemanticValidity
import Anastom.Core.TaskDocument

/-! What normalization makes of an accepted document, field by field, and what the compiled
workflow of a task is. -/
namespace Anastom
open WorkflowDocument

end Anastom

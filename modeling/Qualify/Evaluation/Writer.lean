import Qualify.Evaluation
import Qualify.Json

/-!
# Evaluations as documents

What is told about an evaluation: the score, its band, the tags, the trace and the adjustments.
-/

namespace Qualify

def Adjustment.document (a : Adjustment) : Json :=
  .object [("rule", .text a.reason), ("delta", .int a.delta)]

def Evaluation.document (e : Evaluation) : Json :=
  .object [("score", .int e.score), ("band", .text e.band.name), ("tags", .array (e.tags.map .text)),
    ("trace", .array (e.trace.map .text)),
    ("adjustments", .array (e.adjustments.map Adjustment.document))]

end Qualify

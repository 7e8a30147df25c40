import ExportStream.Fault.Failure
import ExportStream.Json.Printer
import ExportStream.Tally
/-!
# Reports

What the program says about an import when it is over: the tally and, if the import failed, why. The
report is written as text, with the failure apart from the result, or as one JSON value.
-/

namespace ExportStream

/-- What an import came to. -/
structure Report where
  /-- What it added up to. -/
  tally : Tally
  /-- Why it failed, if it did. -/
  failure : Option Failure := none

namespace Report

/-- Has the import come to its end? -/
def succeeded (r : Report) : Bool := r.failure.isNone

/-- The result as a text, each warning on a line of its own. -/
def text (r : Report) : String :=
  r.tally.render ++ "\n" ++
    String.join (r.tally.warnings.toList.map fun w => "  warning: " ++ w ++ "\n")

/-- The failure as a text, and what can be done about it. -/
def complaint (r : Report) : String :=
  match r.failure with
  | none => ""
  | some f =>
    "docport: import aborted: " ++ f.message ++ "\n" ++
      f.hint?.elim "" fun h => "  hint: " ++ h ++ "\n"

/-- The result and the failure as a JSON value. -/
def toJson (r : Report) : Json :=
  .object
    [("error", r.failure.elim .null fun f => .object f.report), ("result", r.tally.toJson)]

/-- The JSON value as a text, with the fields of each object in order. -/
def json (r : Report) : String := r.toJson.inOrder.broken ++ "\n"

end Report

end ExportStream
